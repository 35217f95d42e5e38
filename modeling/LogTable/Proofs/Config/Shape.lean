import LogTable.Config.Settings
import LogTable.FileTree
import LogTable.Proofs.Traversal

/-!
# Shape of configuration documents

Which documents make settings, and which settings they make.  `Settings.kinds` lists the keys of a
configuration with the kind of item that belongs to each of them, and `Document.IsConfiguration`
says that a document holds nothing else.  `Settings.IsGivenBy` ties each setting to the item behind
its key.  The settings of a document are read key by key, so everything goes through look-ups, which
the order of a document does not change: `Settings.ofDocument_eq_ok_iff` characterises the settings
by look-ups, and `Document.exists_isGivenBy` finds them in a document of the right shape.  Main
statement: `Settings.ofDocument_outcome`.
-/

namespace LogTable

namespace Item

/-- The kinds of items that a configuration holds. -/
inductive Kind where
  | text
  /-- A whole number that is not negative. -/
  | count
  | boolean
  /-- A list of texts. -/
  | texts
  deriving DecidableEq

/-- The items of each kind. -/
inductive IsOfKind : Item → Kind → Prop where
  | text (s : String) : IsOfKind (.text s) .text
  | count (n : Nat) : IsOfKind (.integer n) .count
  | boolean (b : Bool) : IsOfKind (.boolean b) .boolean
  | texts (ss : List String) : IsOfKind (.list (ss.map .text)) .texts

end Item

namespace Settings

/-- The keys of a configuration with the kinds of their items. -/
def kinds : List (String × Item.Kind) :=
  [("table", .text), ("local_root", .text), ("batches", .count), ("rows", .count),
    ("message", .text), ("delete", .boolean), ("delete_predicate", .text), ("checkpoint", .boolean),
    ("partition_by", .texts), ("reset", .boolean)]

/-- The settings are exactly what the document has behind their keys.  A setting whose key is
missing is left open, and the list of columns is empty then. -/
structure IsGivenBy (settings : Settings) (document : Document) : Prop where
  table : document.lookup "table" = settings.table.map Item.text
  localRoot : document.lookup "local_root" = settings.localRoot.map Item.text
  batches : document.lookup "batches" = settings.batches.map fun n : Nat => Item.integer n
  rows : document.lookup "rows" = settings.rows.map fun n : Nat => Item.integer n
  message : document.lookup "message" = settings.message.map Item.text
  delete : document.lookup "delete" = settings.delete.map Item.boolean
  deletePredicate :
    document.lookup "delete_predicate" = settings.deletePredicate.map Item.text
  checkpoint : document.lookup "checkpoint" = settings.checkpoint.map Item.boolean
  partitionBy : ∃ given : Option (List String),
    document.lookup "partition_by" = given.map (fun ss => Item.list (ss.map Item.text)) ∧
      settings.partitionBy = given.getD []
  reset : document.lookup "reset" = settings.reset.map Item.boolean

end Settings

/-- Each key of the document is one of a configuration, and the item behind it is of its kind. -/
def Document.IsConfiguration (document : Document) : Prop :=
  ∀ entry ∈ document, ∃ kind, (entry.1, kind) ∈ Settings.kinds ∧ entry.2.IsOfKind kind

/-! ### Items -/

namespace Item

variable {item : Item}

theorem text?_eq_some_iff {s : String} : item.text? = some s ↔ item = .text s := by
  cases item <;> simp [text?]

theorem boolean?_eq_some_iff {b : Bool} : item.boolean? = some b ↔ item = .boolean b := by
  cases item <;> simp [boolean?]

theorem count?_eq_some_iff {n : Nat} : item.count? = some n ↔ item = .integer n := by
  cases item with
  | integer m =>
    rw [count?, integer.injEq]
    split_ifs with hm
    · rw [Option.some.injEq]
      omega
    · exact ⟨nofun, fun h => absurd (h ▸ Int.natCast_nonneg n) hm⟩
  | _ => simp [count?]

theorem texts?_eq_some_iff {ss : List String} :
    item.texts? = some ss ↔ item = .list (ss.map .text) := by
  cases item with
  | list items =>
    rw [texts?, mapM_eq_some_iff, list.injEq]
    simp only [text?_eq_some_iff]
    rw [← List.forall₂_eq_eq_eq, List.forall₂_map_right_iff]
  | _ => simp [texts?]

theorem IsOfKind.exists_text (h : item.IsOfKind .text) : ∃ s, item = .text s := by
  cases h with
  | text s => exact ⟨s, rfl⟩

theorem IsOfKind.exists_count (h : item.IsOfKind .count) : ∃ n : Nat, item = .integer n := by
  cases h with
  | count n => exact ⟨n, rfl⟩

theorem IsOfKind.exists_boolean (h : item.IsOfKind .boolean) : ∃ b, item = .boolean b := by
  cases h with
  | boolean b => exact ⟨b, rfl⟩

theorem IsOfKind.exists_texts (h : item.IsOfKind .texts) :
    ∃ ss : List String, item = .list (ss.map .text) := by
  cases h with
  | texts ss => exact ⟨ss, rfl⟩

end Item

/-! ### Documents -/

namespace Document

variable {document : Document}

/-- The order of a document that has each key once makes no difference to a look-up. -/
theorem lookup_eq_of_perm {other : Document} (hkeys : (document.map Prod.fst).Nodup)
    (h : other.Perm document) (key : String) : other.lookup key = document.lookup key := by
  have hother : (other.map Prod.fst).Nodup := (h.map Prod.fst).nodup_iff.mpr hkeys
  refine Option.ext fun item => ?_
  rw [FileTree.lookup_eq_some_iff hother, FileTree.lookup_eq_some_iff hkeys, h.mem_iff]

/-- What stands behind a key, if anything does, is of the form that everything there has. -/
theorem exists_lookup_eq {α : Type} {make : α → Item} {key : String}
    (h : ∀ item, document.lookup key = some item → ∃ a, item = make a) :
    ∃ given : Option α, document.lookup key = given.map make := by
  cases hlookup : document.lookup key with
  | none => exact ⟨none, rfl⟩
  | some item =>
    obtain ⟨a, rfl⟩ := h item hlookup
    exact ⟨some a, rfl⟩

/-- The keys of a document of the right shape are those of a configuration. -/
theorem IsConfiguration.mem_keys (h : document.IsConfiguration) {key : String}
    (hkey : key ∈ document.map Prod.fst) : key ∈ Settings.keys := by
  obtain ⟨entry, hentry, rfl⟩ := List.mem_map.mp hkey
  obtain ⟨kind, hkind, -⟩ := h entry hentry
  have hkeys : Settings.kinds.map Prod.fst = Settings.keys := rfl
  exact hkeys ▸ List.mem_map.mpr ⟨_, hkind, rfl⟩

/-- No key has two kinds, so an item of a document of the right shape is of the kind of its key. -/
theorem IsConfiguration.isOfKind (h : document.IsConfiguration) {key : String} {item : Item}
    {kind : Item.Kind} (hentry : (key, item) ∈ document) (hkind : (key, kind) ∈ Settings.kinds) :
    item.IsOfKind kind := by
  have hkinds : (Settings.kinds.map Prod.fst).Nodup := by decide
  obtain ⟨other, hother, hitem⟩ := h _ hentry
  rw [← FileTree.lookup_eq_some_iff hkinds] at hkind hother
  obtain rfl : other = kind := Option.some.inj (hother.symm.trans hkind)
  exact hitem

/-- A document of the right shape gives settings. -/
theorem exists_isGivenBy (hkeys : (document.map Prod.fst).Nodup) (h : document.IsConfiguration) :
    ∃ settings : Settings, settings.IsGivenBy document := by
  have hitem : ∀ {key item kind}, (key, kind) ∈ Settings.kinds →
      document.lookup key = some item → item.IsOfKind kind :=
    fun hkind hlookup => h.isOfKind ((FileTree.lookup_eq_some_iff hkeys).mp hlookup) hkind
  have htexts : ∀ key, (key, .text) ∈ Settings.kinds →
      ∃ given : Option String, document.lookup key = given.map Item.text :=
    fun key hkind => exists_lookup_eq fun item hlookup => (hitem hkind hlookup).exists_text
  have hcounts : ∀ key, (key, .count) ∈ Settings.kinds →
      ∃ given : Option Nat, document.lookup key = given.map fun n : Nat => Item.integer n :=
    fun key hkind => exists_lookup_eq fun item hlookup => (hitem hkind hlookup).exists_count
  have hbooleans : ∀ key, (key, .boolean) ∈ Settings.kinds →
      ∃ given : Option Bool, document.lookup key = given.map Item.boolean :=
    fun key hkind => exists_lookup_eq fun item hlookup => (hitem hkind hlookup).exists_boolean
  obtain ⟨table, htable⟩ := htexts "table" (by decide)
  obtain ⟨localRoot, hlocalRoot⟩ := htexts "local_root" (by decide)
  obtain ⟨batches, hbatches⟩ := hcounts "batches" (by decide)
  obtain ⟨rows, hrows⟩ := hcounts "rows" (by decide)
  obtain ⟨message, hmessage⟩ := htexts "message" (by decide)
  obtain ⟨delete, hdelete⟩ := hbooleans "delete" (by decide)
  obtain ⟨deletePredicate, hdeletePredicate⟩ := htexts "delete_predicate" (by decide)
  obtain ⟨checkpoint, hcheckpoint⟩ := hbooleans "checkpoint" (by decide)
  obtain ⟨columns, hcolumns⟩ : ∃ given : Option (List String), document.lookup "partition_by" =
      given.map fun ss => Item.list (ss.map Item.text) :=
    exists_lookup_eq fun item hlookup => (hitem (by decide) hlookup).exists_texts
  obtain ⟨reset, hreset⟩ := hbooleans "reset" (by decide)
  exact ⟨⟨table, localRoot, batches, rows, message, delete, deletePredicate, checkpoint,
    columns.getD [], reset⟩, ⟨htable, hlocalRoot, hbatches, hrows, hmessage, hdelete,
    hdeletePredicate, hcheckpoint, ⟨columns, hcolumns, rfl⟩, hreset⟩⟩

end Document

/-! ### Settings -/

namespace Settings

variable {document : Document} {settings : Settings}

/-- A document whose keys are those of a configuration, and which gives settings, has the right
shape. -/
theorem IsGivenBy.isConfiguration (h : settings.IsGivenBy document)
    (hkeys : (document.map Prod.fst).Nodup) (hknown : ∀ key ∈ document.map Prod.fst, key ∈ keys) :
    document.IsConfiguration := by
  rintro ⟨key, item⟩ hentry
  change ∃ kind, (key, kind) ∈ kinds ∧ item.IsOfKind kind
  have hlookup := (FileTree.lookup_eq_some_iff hkeys).mpr hentry
  have hread : ∀ {α : Type} {make : α → Item} {given : Option α},
      document.lookup key = given.map make → ∃ a, make a = item := fun hgiven => by
    obtain ⟨a, -, ha⟩ := Option.map_eq_some_iff.mp (hgiven.symm.trans hlookup)
    exact ⟨a, ha⟩
  have hkey : key ∈ keys := hknown key (List.mem_map_of_mem hentry)
  simp only [keys, List.mem_cons, List.not_mem_nil, or_false] at hkey
  rcases hkey with rfl | rfl | rfl | rfl | rfl | rfl | rfl | rfl | rfl | rfl
  · obtain ⟨s, rfl⟩ := hread h.table
    exact ⟨.text, by decide, .text s⟩
  · obtain ⟨s, rfl⟩ := hread h.localRoot
    exact ⟨.text, by decide, .text s⟩
  · obtain ⟨n, rfl⟩ := hread h.batches
    exact ⟨.count, by decide, .count n⟩
  · obtain ⟨n, rfl⟩ := hread h.rows
    exact ⟨.count, by decide, .count n⟩
  · obtain ⟨s, rfl⟩ := hread h.message
    exact ⟨.text, by decide, .text s⟩
  · obtain ⟨b, rfl⟩ := hread h.delete
    exact ⟨.boolean, by decide, .boolean b⟩
  · obtain ⟨s, rfl⟩ := hread h.deletePredicate
    exact ⟨.text, by decide, .text s⟩
  · obtain ⟨b, rfl⟩ := hread h.checkpoint
    exact ⟨.boolean, by decide, .boolean b⟩
  · obtain ⟨given, hgiven, -⟩ := h.partitionBy
    obtain ⟨ss, rfl⟩ := hread hgiven
    exact ⟨.texts, by decide, .texts ss⟩
  · obtain ⟨b, rfl⟩ := hread h.reset
    exact ⟨.boolean, by decide, .boolean b⟩

/-- A field is read exactly if what stands behind its key is of the form that is read, and a missing
key leaves it open. -/
theorem field_eq_ok_iff {α : Type} {read? : Item → Option α} {make : α → Item} {key : String}
    {given : Option α} (hread : ∀ {item a}, read? item = some a ↔ item = make a) :
    field document read? key = .ok given ↔ document.lookup key = given.map make := by
  unfold field
  cases document.lookup key with
  | none => cases given <;> simp
  | some item =>
    cases given with
    | none => cases hitem : read? item <;> simp [hitem]
    | some a =>
      rw [Option.map_some, Option.some.injEq, ← hread]
      cases hitem : read? item <;> simp [hitem]

/-- A document makes settings exactly if all of its keys are known and the settings are what it has
behind them. -/
theorem ofDocument_eq_ok_iff : ofDocument document = .ok settings ↔
    (∀ key ∈ document.map Prod.fst, key ∈ keys) ∧ settings.IsGivenBy document := by
  have htext : ∀ {key given}, field document Item.text? key = .ok given ↔
      document.lookup key = given.map Item.text := field_eq_ok_iff Item.text?_eq_some_iff
  have hcount : ∀ {key given}, field document Item.count? key = .ok given ↔
      document.lookup key = given.map fun n : Nat => Item.integer n :=
    field_eq_ok_iff Item.count?_eq_some_iff
  have hboolean : ∀ {key given}, field document Item.boolean? key = .ok given ↔
      document.lookup key = given.map Item.boolean := field_eq_ok_iff Item.boolean?_eq_some_iff
  have htexts : ∀ {key given}, field document Item.texts? key = .ok given ↔
      document.lookup key = given.map fun ss => Item.list (ss.map Item.text) :=
    field_eq_ok_iff Item.texts?_eq_some_iff
  unfold ofDocument
  cases hunknown : (document.map Prod.fst).find? (· ∉ keys) with
  | some key =>
    refine ⟨nofun, fun h => absurd (h.1 key (List.mem_of_find?_eq_some hunknown)) ?_⟩
    simpa using List.find?_some hunknown
  | none =>
    have hknown : ∀ key ∈ document.map Prod.fst, key ∈ keys := fun key hkey => by
      simpa using List.find?_eq_none.mp hunknown key hkey
    simp only [bind_eq_ok_iff, htext, hcount, hboolean, htexts, pure, Except.pure, Except.ok.injEq]
    constructor
    · rintro ⟨_, htable, _, hlocalRoot, _, hbatches, _, hrows, _, hmessage, _, hdelete, _,
        hdeletePredicate, _, hcheckpoint, columns, hcolumns, _, hreset, rfl⟩
      exact ⟨hknown, htable, hlocalRoot, hbatches, hrows, hmessage, hdelete, hdeletePredicate,
        hcheckpoint, ⟨columns, hcolumns, rfl⟩, hreset⟩
    · rintro ⟨-, h⟩
      obtain ⟨columns, hcolumns, hpartitionBy⟩ := h.partitionBy
      refine ⟨_, h.table, _, h.localRoot, _, h.batches, _, h.rows, _, h.message, _, h.delete, _,
        h.deletePredicate, _, h.checkpoint, columns, hcolumns, _, h.reset, ?_⟩
      rw [← hpartitionBy]

/-- A document of the right shape makes the settings that it gives. -/
theorem ofDocument_eq_ok (hgiven : settings.IsGivenBy document) (h : document.IsConfiguration) :
    ofDocument document = .ok settings :=
  ofDocument_eq_ok_iff.mpr ⟨fun _ hkey => h.mem_keys hkey, hgiven⟩

/-- Settings depend on a document only through its look-ups. -/
theorem IsGivenBy.congr {other : Document} (h : settings.IsGivenBy document)
    (hlookup : ∀ key, other.lookup key = document.lookup key) : settings.IsGivenBy other where
  table := (hlookup _).trans h.table
  localRoot := (hlookup _).trans h.localRoot
  batches := (hlookup _).trans h.batches
  rows := (hlookup _).trans h.rows
  message := (hlookup _).trans h.message
  delete := (hlookup _).trans h.delete
  deletePredicate := (hlookup _).trans h.deletePredicate
  checkpoint := (hlookup _).trans h.checkpoint
  partitionBy := by
    rw [hlookup]
    exact h.partitionBy
  reset := (hlookup _).trans h.reset

/-- The order of a document that has each key once makes no difference to its settings. -/
theorem ofDocument_eq_ok_of_perm {other : Document} (hkeys : (document.map Prod.fst).Nodup)
    (hperm : other.Perm document) (h : ofDocument document = .ok settings) :
    ofDocument other = .ok settings := by
  obtain ⟨hknown, hgiven⟩ := ofDocument_eq_ok_iff.mp h
  refine ofDocument_eq_ok_iff.mpr ⟨fun key hkey => hknown key ?_,
    hgiven.congr (Document.lookup_eq_of_perm hkeys hperm)⟩
  exact (hperm.map Prod.fst).mem_iff.mp hkey

/-- A document that has each key once makes settings exactly if it has the shape of a
configuration: it has no other keys, and behind each of them an item that belongs to it.  Its
settings are then exactly what it has behind the keys, and its order makes no difference. -/
theorem ofDocument_outcome (document : Document) (hkeys : (document.map Prod.fst).Nodup) :
    ((∃ settings, ofDocument document = .ok settings) ↔ document.IsConfiguration) ∧
    (∀ settings, ofDocument document = .ok settings → settings.IsGivenBy document) ∧
    ∀ other : Document, other.Perm document →
      (ofDocument other).toOption = (ofDocument document).toOption := by
  refine ⟨⟨?_, ?_⟩, ?_, ?_⟩
  · rintro ⟨settings, h⟩
    obtain ⟨hknown, hgiven⟩ := ofDocument_eq_ok_iff.mp h
    exact hgiven.isConfiguration hkeys hknown
  · intro h
    obtain ⟨settings, hgiven⟩ := Document.exists_isGivenBy hkeys h
    exact ⟨settings, ofDocument_eq_ok hgiven h⟩
  · exact fun settings h => (ofDocument_eq_ok_iff.mp h).2
  · intro other hperm
    have hother : (other.map Prod.fst).Nodup := (hperm.map Prod.fst).nodup_iff.mpr hkeys
    cases hdocument : ofDocument document with
    | ok settings => rw [ofDocument_eq_ok_of_perm hkeys hperm hdocument]
    | error fault =>
      cases hsettings : ofDocument other with
      | ok settings =>
        cases hdocument.symm.trans (ofDocument_eq_ok_of_perm hother hperm.symm hsettings)
      | error _ => rfl

/-- Three keys make settings in either order, and with a negative number of batches none. -/
theorem ofDocument_outcome_three :
    let document : Document :=
      [("rows", .integer 7), ("partition_by", .list [.text "user"]), ("table", .text "t")]
    let longer : Document := ("batches", .integer (-1)) :: document
    (document.map Prod.fst).Nodup ∧ (longer.map Prod.fst).Nodup ∧
      (ofDocument document.reverse).toOption =
        some { table := some "t", rows := some 7, partitionBy := ["user"] } ∧
      ¬ ∃ settings, ofDocument longer = .ok settings := by
  intro document longer
  have hkeys : (document.map Prod.fst).Nodup := by decide
  have hlonger : (longer.map Prod.fst).Nodup := by decide
  refine ⟨hkeys, hlonger, ?_, fun h => ?_⟩
  · rw [(ofDocument_outcome document hkeys).2.2 _ document.reverse_perm]
    rfl
  · have hshape := (ofDocument_outcome longer hlonger).1.mp h
    obtain ⟨n, hn⟩ := (hshape.isOfKind List.mem_cons_self (by decide)).exists_count
    cases hn

end Settings

end LogTable
