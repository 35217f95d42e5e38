import LogTable.Storage
import Mathlib.Tactic.SplitIfs

/-!
# Modes of storage

An environment selects a mode of storage by five variables, each of which is read by one of three
rules; the object store that it describes is given field by field (`ObjectStore.IsDescribedBy`).
Main statement on environments: `StorageMode.ofEnvironment_tells_apart`, by which these readings,
and nothing else, tell environments apart.

The options of a mode are a map, and so are those that are shown.  Main statement on options:
`StorageMode.redactedOptions_hide_credentials`, by which the shown ones differ from the others in
the credentials, and tell nothing about these.
-/

namespace LogTable

/-! ### Environments -/

namespace Environment

variable {env env' : Environment} {name value : String}

/-- The region that an environment names, or else the default one. -/
def regionOf (env : Environment) : String :=
  (env.nonEmpty? "AWS_REGION").getD "us-east-1"

/-- The variable is missing or empty. -/
def Lacks (env : Environment) (name : String) : Prop :=
  env name = none ∨ env name = some ""

/-- But for the access key, the environments say the same of an object store: a missing secret or
bucket is read as empty, an empty endpoint as missing, and a missing or empty region as the default
one. -/
structure AgreesOnStore (env env' : Environment) : Prop where
  secretKey : env.textOf "AWS_SECRET_ACCESS_KEY" = env'.textOf "AWS_SECRET_ACCESS_KEY"
  endpoint : env.nonEmpty? "S3_ENDPOINT" = env'.nonEmpty? "S3_ENDPOINT"
  bucket : env.textOf "S3_BUCKET" = env'.textOf "S3_BUCKET"
  region : env.regionOf = env'.regionOf

theorem nonEmpty?_eq_none_iff : env.nonEmpty? name = none ↔ env.Lacks name := by
  unfold nonEmpty? Lacks
  cases env name <;> simp

theorem nonEmpty?_eq_some_iff :
    env.nonEmpty? name = some value ↔ env name = some value ∧ value ≠ "" := by
  unfold nonEmpty?
  cases env name with
  | none => simp
  | some other =>
    simp only [Option.filter_some, decide_eq_true_eq, Option.some.injEq]
    constructor
    · intro h
      split_ifs at h with hne
      rw [← Option.some.inj h]
      exact ⟨rfl, hne⟩
    · rintro ⟨rfl, hne⟩
      rw [if_pos hne]

/-- No region is empty. -/
theorem regionOf_ne_empty (env : Environment) : env.regionOf ≠ "" := by
  unfold regionOf
  cases h : env.nonEmpty? "AWS_REGION" with
  | none => decide
  | some value => exact (nonEmpty?_eq_some_iff.mp h).2

end Environment

namespace ObjectStore

variable {store store' : ObjectStore} {env env' : Environment}

/-- The fields of the store are what an environment says of them. -/
structure IsDescribedBy (store : ObjectStore) (env : Environment) : Prop where
  accessKey : env.nonEmpty? "AWS_ACCESS_KEY_ID" = some store.accessKey
  secretKey : env.textOf "AWS_SECRET_ACCESS_KEY" = store.secretKey
  endpoint : env.nonEmpty? "S3_ENDPOINT" = store.endpoint
  bucket : env.textOf "S3_BUCKET" = store.bucket
  region : env.regionOf = store.region

/-- The fields of the store are such that an environment can describe it. -/
structure IsNormal (store : ObjectStore) : Prop where
  accessKey : store.accessKey ≠ ""
  endpoint : store.endpoint ≠ some ""
  region : store.region ≠ ""

/-- The environment with the fields of the store as its variables; a missing endpoint is no
variable. -/
def environment (store : ObjectStore) : Environment :=
  .ofList ([("AWS_ACCESS_KEY_ID", store.accessKey), ("AWS_SECRET_ACCESS_KEY", store.secretKey),
    ("S3_BUCKET", store.bucket), ("AWS_REGION", store.region)] ++
    store.endpoint.toList.map fun endpoint => ("S3_ENDPOINT", endpoint))

/-- An environment describes one store at most. -/
theorem IsDescribedBy.unique (h : store.IsDescribedBy env) (h' : store'.IsDescribedBy env) :
    store = store' := by
  have hkey := Option.some.inj (h.accessKey.symm.trans h'.accessKey)
  have hsecret := h.secretKey.symm.trans h'.secretKey
  have hendpoint := h.endpoint.symm.trans h'.endpoint
  have hbucket := h.bucket.symm.trans h'.bucket
  have hregion := h.region.symm.trans h'.region
  obtain ⟨_, _, _, _, _⟩ := store
  simp_all

theorem IsDescribedBy.isNormal (h : store.IsDescribedBy env) : store.IsNormal where
  accessKey := (Environment.nonEmpty?_eq_some_iff.mp h.accessKey).2
  endpoint hempty := by
    have hendpoint := h.endpoint.trans hempty
    exact (Environment.nonEmpty?_eq_some_iff.mp hendpoint).2 rfl
  region := h.region ▸ env.regionOf_ne_empty

/-- The environment of a store describes it again, if there is one that describes it. -/
theorem IsNormal.isDescribedBy_environment (h : store.IsNormal) :
    store.IsDescribedBy store.environment := by
  obtain ⟨accessKey, secretKey, endpoint, bucket, region⟩ := store
  obtain ⟨hkey, hendpoint, hregion⟩ := h
  have hrest : (ObjectStore.mk accessKey secretKey endpoint bucket region).environment
      "S3_ENDPOINT" = endpoint := by
    cases endpoint <;> rfl
  refine ⟨Environment.nonEmpty?_eq_some_iff.mpr ⟨rfl, hkey⟩, rfl, ?_, rfl, ?_⟩
  · cases endpoint with
    | none => exact Environment.nonEmpty?_eq_none_iff.mpr (Or.inl hrest)
    | some value =>
      exact Environment.nonEmpty?_eq_some_iff.mpr ⟨hrest, fun h => hendpoint (congrArg some h)⟩
  · have hregion' :
        (ObjectStore.mk accessKey secretKey endpoint bucket region).environment.nonEmpty?
          "AWS_REGION" = some region := Environment.nonEmpty?_eq_some_iff.mpr ⟨rfl, hregion⟩
    rw [Environment.regionOf, hregion']
    rfl

/-- Environments that describe a store describe the same one exactly if they say the same of it and
have the same access key. -/
theorem IsDescribedBy.iff_agreesOnStore (h : store.IsDescribedBy env) :
    store.IsDescribedBy env' ↔
      env'.nonEmpty? "AWS_ACCESS_KEY_ID" = some store.accessKey ∧ env.AgreesOnStore env' := by
  constructor
  · intro h'
    exact ⟨h'.accessKey, h.secretKey.trans h'.secretKey.symm, h.endpoint.trans h'.endpoint.symm,
      h.bucket.trans h'.bucket.symm, h.region.trans h'.region.symm⟩
  · rintro ⟨hkey, hagree⟩
    exact ⟨hkey, hagree.secretKey.symm.trans h.secretKey, hagree.endpoint.symm.trans h.endpoint,
      hagree.bucket.symm.trans h.bucket, hagree.region.symm.trans h.region⟩

/-! ### Options -/

/-- The options of a store name its fields, but for the bucket, and nothing is named twice. -/
theorem lookup_options (store : ObjectStore) :
    store.options.lookup "AWS_ACCESS_KEY_ID" = some store.accessKey ∧
      store.options.lookup "AWS_SECRET_ACCESS_KEY" = some store.secretKey ∧
      store.options.lookup "AWS_ENDPOINT_URL" = store.endpoint ∧
      store.options.lookup "AWS_REGION" = some store.region ∧
      (store.options.map Prod.fst).Nodup := by
  obtain ⟨accessKey, secretKey, endpoint, bucket, region⟩ := store
  cases endpoint with
  | none => exact ⟨rfl, rfl, rfl, rfl, by simp [options, StorageVariable.name]⟩
  | some value => exact ⟨rfl, rfl, rfl, rfl, by simp [options, StorageVariable.name]⟩

/-- The options of a store and its bucket determine the store. -/
theorem eq_of_lookup_options (hoptions : ∀ name,
      store.options.lookup name = store'.options.lookup name)
    (hbucket : store.bucket = store'.bucket) : store = store' := by
  obtain ⟨hkey, hsecret, hendpoint, hregion, -⟩ := store.lookup_options
  obtain ⟨hkey', hsecret', hendpoint', hregion', -⟩ := store'.lookup_options
  have key := Option.some.inj (hkey.symm.trans ((hoptions _).trans hkey'))
  have secret := Option.some.inj (hsecret.symm.trans ((hoptions _).trans hsecret'))
  have endpoint := hendpoint.symm.trans ((hoptions _).trans hendpoint')
  have region := Option.some.inj (hregion.symm.trans ((hoptions _).trans hregion'))
  obtain ⟨_, _, _, _, _⟩ := store
  simp_all

end ObjectStore

namespace StorageMode

variable {env env' : Environment} {store : ObjectStore} {name : String}

/-- Without an access key, tables are local. -/
theorem ofEnvironment_eq_localFiles_iff :
    ofEnvironment env = localFiles ↔ env.Lacks "AWS_ACCESS_KEY_ID" := by
  rw [← Environment.nonEmpty?_eq_none_iff]
  rw [ofEnvironment, show StorageVariable.accessKey.name = "AWS_ACCESS_KEY_ID" from rfl]
  cases env.nonEmpty? "AWS_ACCESS_KEY_ID" <;> simp

/-- With an access key, the store is the one that the environment describes. -/
theorem ofEnvironment_eq_objectStore_iff :
    ofEnvironment env = objectStore store ↔ store.IsDescribedBy env := by
  rw [ofEnvironment, show StorageVariable.accessKey.name = "AWS_ACCESS_KEY_ID" from rfl]
  cases hkey : env.nonEmpty? "AWS_ACCESS_KEY_ID" with
  | none =>
    refine iff_of_false nofun fun h => ?_
    exact absurd (hkey.symm.trans h.accessKey) nofun
  | some accessKey =>
    have hdescribed : ObjectStore.IsDescribedBy
        { accessKey
          secretKey := env.textOf StorageVariable.secretKey.name
          endpoint := env.nonEmpty? StorageVariable.endpoint.name
          bucket := env.textOf StorageVariable.bucket.name
          region := (env.nonEmpty? StorageVariable.region.name).getD ObjectStore.defaultRegion }
        env := ⟨hkey, rfl, rfl, rfl, rfl⟩
    rw [StorageMode.objectStore.injEq]
    exact ⟨fun h => h ▸ hdescribed, hdescribed.unique⟩

/-- Two environments select the same mode exactly if both lack the access key, or both have the same
one and say the same of the store.  The store that an environment describes is normal and described
by an environment made of its fields, and among such stores each is told by its options and its
bucket. -/
theorem ofEnvironment_tells_apart :
    (∀ env env' : Environment, ofEnvironment env = ofEnvironment env' ↔
      env.Lacks "AWS_ACCESS_KEY_ID" ∧ env'.Lacks "AWS_ACCESS_KEY_ID" ∨
        ∃ key, key ≠ "" ∧ env "AWS_ACCESS_KEY_ID" = some key ∧
          env' "AWS_ACCESS_KEY_ID" = some key ∧ env.AgreesOnStore env') ∧
    (∀ (env : Environment) (store : ObjectStore), ofEnvironment env = objectStore store →
      store.IsNormal ∧ ofEnvironment store.environment = objectStore store) ∧
    ∀ (env env' : Environment) (store store' : ObjectStore),
      ofEnvironment env = objectStore store → ofEnvironment env' = objectStore store' →
      (∀ name, (objectStore store).options.lookup name = (objectStore store').options.lookup name) →
      store.bucket = store'.bucket → objectStore store = objectStore store' := by
  refine ⟨fun env env' => ?_, fun env store hstore => ?_, fun _ _ store store' _ _ => ?_⟩
  · cases hmode : ofEnvironment env with
    | localFiles =>
      have hlacks := ofEnvironment_eq_localFiles_iff.mp hmode
      rw [eq_comm, ofEnvironment_eq_localFiles_iff]
      constructor
      · exact fun hlacks' => Or.inl ⟨hlacks, hlacks'⟩
      · rintro (⟨-, hlacks'⟩ | ⟨key, hne, hkey, -⟩)
        · exact hlacks'
        · rw [← Environment.nonEmpty?_eq_none_iff,
            Environment.nonEmpty?_eq_some_iff.mpr ⟨hkey, hne⟩] at hlacks
          cases hlacks
    | objectStore store =>
      have hdescribed := ofEnvironment_eq_objectStore_iff.mp hmode
      obtain ⟨hkey, hne⟩ := Environment.nonEmpty?_eq_some_iff.mp hdescribed.accessKey
      rw [eq_comm, ofEnvironment_eq_objectStore_iff, hdescribed.iff_agreesOnStore,
        Environment.nonEmpty?_eq_some_iff]
      constructor
      · rintro ⟨⟨hkey', -⟩, hagree⟩
        exact Or.inr ⟨store.accessKey, hne, hkey, hkey', hagree⟩
      · rintro (⟨hlacks, -⟩ | ⟨key, -, hsame, hkey', hagree⟩)
        · rw [← Environment.nonEmpty?_eq_none_iff, hdescribed.accessKey] at hlacks
          cases hlacks
        · obtain rfl := Option.some.inj (hkey.symm.trans hsame)
          exact ⟨⟨hkey', hne⟩, hagree⟩
  · have hnormal := (ofEnvironment_eq_objectStore_iff.mp hstore).isNormal
    exact ⟨hnormal, ofEnvironment_eq_objectStore_iff.mpr hnormal.isDescribedBy_environment⟩
  · intro hoptions hbucket
    exact congrArg objectStore (ObjectStore.eq_of_lookup_options hoptions hbucket)

/-- An environment that names a store in two variables, and one that gives the empty secret, the
empty endpoint and the default region besides. -/
theorem ofEnvironment_ofList_eq :
    let env := Environment.ofList [("AWS_ACCESS_KEY_ID", "key"), ("S3_BUCKET", "lake")]
    let env' := Environment.ofList [("AWS_ACCESS_KEY_ID", "key"), ("AWS_SECRET_ACCESS_KEY", ""),
      ("S3_ENDPOINT", ""), ("S3_BUCKET", "lake"), ("AWS_REGION", "us-east-1")]
    let store : ObjectStore := ⟨"key", "", none, "lake", "us-east-1"⟩
    ofEnvironment env = objectStore store ∧ ofEnvironment env = ofEnvironment env' ∧
      store.IsNormal ∧ ofEnvironment store.environment = objectStore store ∧
      objectStore store = objectStore ⟨"key", "", none, "lake", "us-east-1"⟩ := by
  intro env env' store
  have hstore : ofEnvironment env = objectStore store := by decide +kernel
  have hstore' : ofEnvironment env' = objectStore ⟨"key", "", none, "lake", "us-east-1"⟩ := by
    decide +kernel
  have hagree : env.AgreesOnStore env' := by constructor <;> decide +kernel
  obtain ⟨happart, hnormal, hoptions⟩ := ofEnvironment_tells_apart
  refine ⟨hstore, (happart env env').mpr (Or.inr ⟨"key", by decide, rfl, rfl, hagree⟩),
    (hnormal env store hstore).1, (hnormal env store hstore).2,
    hoptions env env' store _ hstore hstore' (fun _ => rfl) rfl⟩

/-! ### Masked options -/

/-- The shown options have the names of the others, each of them once, and differ from them in the
values of the credentials, which are masked. -/
structure MasksCredentials (shown options : Options) : Prop where
  nodup : (shown.map Prod.fst).Nodup
  isSome_lookup (name : String) : (shown.lookup name).isSome = (options.lookup name).isSome
  lookup_of_ne (name : String) : name ≠ "AWS_ACCESS_KEY_ID" → name ≠ "AWS_SECRET_ACCESS_KEY" →
    shown.lookup name = options.lookup name
  lookup_credential (name : String) : name = "AWS_ACCESS_KEY_ID" ∨ name = "AWS_SECRET_ACCESS_KEY" →
    (options.lookup name).isSome → shown.lookup name = some "***"

theorem mem_secretNames_iff :
    name ∈ secretNames ↔ name = "AWS_ACCESS_KEY_ID" ∨ name = "AWS_SECRET_ACCESS_KEY" := by
  simp [secretNames, StorageVariable.name]

/-- Whether a value is masked depends on its name alone. -/
theorem lookup_redactedOptions (mode : StorageMode) (name : String) :
    mode.redactedOptions.lookup name =
      (mode.options.lookup name).map fun value => if name ∈ secretNames then mask else value := by
  unfold redactedOptions
  induction mode.options with
  | nil => rfl
  | cons entry rest ih =>
    obtain ⟨first, value⟩ := entry
    by_cases hfirst : name = first
    · subst hfirst
      simp
    · simp [List.lookup_cons, beq_eq_false_iff_ne.mpr hfirst, ih]

theorem nodup_options (mode : StorageMode) : (mode.options.map Prod.fst).Nodup := by
  cases mode with
  | localFiles => exact List.nodup_nil
  | objectStore store => exact store.lookup_options.2.2.2.2

theorem masksCredentials_redactedOptions (mode : StorageMode) :
    MasksCredentials mode.redactedOptions mode.options where
  nodup := by
    rw [map_fst_redactedOptions]
    exact mode.nodup_options
  isSome_lookup name := by rw [lookup_redactedOptions, Option.isSome_map]
  lookup_of_ne name hkey hsecret := by
    have hname : name ∉ secretNames := by simp [mem_secretNames_iff, hkey, hsecret]
    simp [lookup_redactedOptions, hname]
  lookup_credential name hname hsome := by
    obtain ⟨value, hvalue⟩ := Option.isSome_iff_exists.mp hsome
    rw [lookup_redactedOptions, hvalue, Option.map_some, if_pos (mem_secretNames_iff.mpr hname),
      mask]

/-- The shown options of a store tell its endpoint and its region only. -/
theorem redactedOptions_congr {store' : ObjectStore} (hendpoint : store.endpoint = store'.endpoint)
    (hregion : store.region = store'.region) :
    (objectStore store).redactedOptions = (objectStore store').redactedOptions := by
  obtain ⟨_, _, endpoint, _, region⟩ := store
  obtain ⟨_, _, _, _, _⟩ := store'
  subst hendpoint hregion
  cases endpoint <;> rfl

/-- The shown options of a mode are its options with the credentials masked.  For an object store
both credentials are among them, whatever the secret is.  Of two environments with object stores,
the shown options are the same if the environments agree on the endpoint and the region, and the
options are not if the access keys or the secrets are different. -/
theorem redactedOptions_hide_credentials :
    (∀ env, MasksCredentials (ofEnvironment env).redactedOptions (ofEnvironment env).options) ∧
    (∀ env, (ofEnvironment env).isLocal = false →
      (ofEnvironment env).redactedOptions.lookup "AWS_ACCESS_KEY_ID" = some "***" ∧
        (ofEnvironment env).redactedOptions.lookup "AWS_SECRET_ACCESS_KEY" = some "***") ∧
    ∀ env env', (ofEnvironment env).isLocal = false → (ofEnvironment env').isLocal = false →
      (env "S3_ENDPOINT" = env' "S3_ENDPOINT" → env "AWS_REGION" = env' "AWS_REGION" →
        (ofEnvironment env).redactedOptions = (ofEnvironment env').redactedOptions) ∧
      (env "AWS_ACCESS_KEY_ID" ≠ env' "AWS_ACCESS_KEY_ID" ∨
          env.textOf "AWS_SECRET_ACCESS_KEY" ≠ env'.textOf "AWS_SECRET_ACCESS_KEY" →
        ∃ name, (ofEnvironment env).options.lookup name ≠
          (ofEnvironment env').options.lookup name) := by
  refine ⟨fun env => masksCredentials_redactedOptions _, fun env henv => ?_,
    fun env env' henv henv' => ?_⟩
  · have hmasks := masksCredentials_redactedOptions (ofEnvironment env)
    cases hmode : ofEnvironment env with
    | localFiles => simp [hmode] at henv
    | objectStore store =>
      rw [hmode] at hmasks
      obtain ⟨hkey, hsecret, -⟩ := store.lookup_options
      exact ⟨hmasks.lookup_credential _ (Or.inl rfl) (Option.isSome_of_eq_some hkey),
        hmasks.lookup_credential _ (Or.inr rfl) (Option.isSome_of_eq_some hsecret)⟩
  · cases hmode : ofEnvironment env with
    | localFiles => simp [hmode] at henv
    | objectStore store =>
    cases hmode' : ofEnvironment env' with
    | localFiles => simp [hmode'] at henv'
    | objectStore store' =>
      have hstore := ofEnvironment_eq_objectStore_iff.mp hmode
      have hstore' := ofEnvironment_eq_objectStore_iff.mp hmode'
      obtain ⟨hkey, hsecret, -⟩ := store.lookup_options
      obtain ⟨hkey', hsecret', -⟩ := store'.lookup_options
      constructor
      · intro hendpoint hregion
        apply redactedOptions_congr
        · rw [← hstore.endpoint, ← hstore'.endpoint, Environment.nonEmpty?, hendpoint,
            Environment.nonEmpty?]
        · rw [← hstore.region, ← hstore'.region, Environment.regionOf, Environment.regionOf,
            Environment.nonEmpty?, hregion, Environment.nonEmpty?]
      · rintro (hne | hne)
        · refine ⟨"AWS_ACCESS_KEY_ID", fun hsame => hne ?_⟩
          have hkeys := hkey.symm.trans (hsame.trans hkey')
          rw [(Environment.nonEmpty?_eq_some_iff.mp hstore.accessKey).1,
            (Environment.nonEmpty?_eq_some_iff.mp hstore'.accessKey).1, hkeys]
        · refine ⟨"AWS_SECRET_ACCESS_KEY", fun hsame => hne ?_⟩
          have hsecrets := hsecret.symm.trans (hsame.trans hsecret')
          rw [hstore.secretKey, hstore'.secretKey, Option.some.inj hsecrets]

/-- Two stores of one region, the one with a secret and the other without. -/
theorem redactedOptions_ofList_eq :
    let env := Environment.ofList [("AWS_ACCESS_KEY_ID", "key"), ("AWS_SECRET_ACCESS_KEY", "word")]
    let env' := Environment.ofList [("AWS_ACCESS_KEY_ID", "other"), ("S3_BUCKET", "lake")]
    (ofEnvironment env).redactedOptions = (ofEnvironment env').redactedOptions ∧
      (ofEnvironment env').redactedOptions.lookup "AWS_SECRET_ACCESS_KEY" = some "***" ∧
      ∃ name,
        (ofEnvironment env).options.lookup name ≠ (ofEnvironment env').options.lookup name := by
  intro env env'
  obtain ⟨-, hmasked, happart⟩ := redactedOptions_hide_credentials
  have hstore : (ofEnvironment env).isLocal = false := by decide +kernel
  have hstore' : (ofEnvironment env').isLocal = false := by decide +kernel
  obtain ⟨hsame, hdifferent⟩ := happart env env' hstore hstore'
  exact ⟨hsame rfl rfl, (hmasked env' hstore').2, hdifferent (Or.inl (by decide +kernel))⟩

end StorageMode

end LogTable
