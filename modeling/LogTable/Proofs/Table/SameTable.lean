import LogTable.Proofs.Containment
import LogTable.Proofs.Table.Agreement

/-!
# The same table in two worlds

Two worlds have the same table at the address of a name below a root (`Table.SameTable`) if the same
stands in its place, files bar the same locations on the way to its twin, and the address leads to
the place alike: either the way of the root is there in both worlds, or the address fails alike, and
if only something is missing, then the directories can be made.  What is done to the table then does
the same in both worlds (`Operations.areAlike_sameTable`).
-/

namespace LogTable

open FileTree Predicate

namespace Table

variable {home : Location} {name root uri : String} {first second tree : FileTree Content}
  {world world' : World}

/-! ### The way of the root -/

/-- The way of a root stays out of a place. -/
def StaysOut (home : Location) (root : String) (place : Location) : Prop :=
  ∀ l, Visits (pathStart home root) (pathSteps root) l → ¬ place <+: l

/-- The address of a name leads by what its root leads by, and then to the place. -/
theorem visits_iff_of_tableUri (huri : StorageMode.localFiles.tableUri name root = .ok uri)
    (home : Location) {l : Location} :
    Visits (pathStart home uri) (pathSteps uri) l ↔
      Visits (pathStart home root) (pathSteps root) l ∨ l = locate home uri := by
  obtain ⟨segment, -, -, hstart, hsteps⟩ := StorageMode.pathSteps_of_tableUri huri home
  rw [locate, hstart, hsteps]
  exact visits_append_singleton

/-- Where the way of the root is there, the address leads by the same in both trees as soon as the
same stands in the place. -/
theorem agreeAt_of_isPassable (huri : StorageMode.localFiles.tableUri name root = .ok uri)
    (hfirst : IsPassable home root first) (hsecond : IsPassable home root second)
    (hbelow : ∀ path,
      first.find? (locate home uri ++ path) = second.find? (locate home uri ++ path))
    (hfiles : SameFiles (Passes [] (twin (locate home uri))) first second) :
    AgreeAt (fun _ => True) home uri first second where
  visited l hl := by
    rcases (visits_iff_of_tableUri huri home).mp hl with hroot | rfl
    · rw [hfirst l hroot, hsecond l hroot]
    · simpa using hbelow []
  below path _ := hbelow path
  isDirectory path := by rw [FileTree.isDirectory, hbelow, FileTree.isDirectory]
  files := hfiles

/-! ### Places that can be made -/

/-- Nothing stands in the place of a path, and its directories can be made. -/
structure CanBeMade (home : Location) (uri : String) (tree : FileTree Content) : Prop where
  start : ∀ l, l <+: pathStart home uri → tree.find? l = some .directory
  makes : ∃ l, (tree.makeDirectories (pathStart home uri) (pathSteps uri)).1 = .ok l
  vacant : tree.IsVacant (locate home uri)

namespace CanBeMade

/-- No file is on the way of directories that can be made. -/
theorem not_file (h : CanBeMade home uri tree) {l : Location}
    (hl : Passes (pathStart home uri) (pathSteps uri) l) :
    ¬ ∃ content, tree.find? l = some (.file content) := by
  rintro ⟨content, hfile⟩
  obtain ⟨last, hmakes⟩ := h.makes
  have hdirectory := find?_of_passes hmakes hl
  rw [(makeDirectories_addsDirectories tree _ _).kept hfile] at hdirectory
  cases hdirectory

/-- Of directories that can be made in two trees, those at the front of the way are made alike, and
all that is visited there are directories then. -/
theorem makeDirectories (hfirst : CanBeMade home uri first) (hsecond : CanBeMade home uri second)
    {front : List String} (hfront : front <+: pathSteps uri) :
    (∃ l, (first.makeDirectories (pathStart home uri) front).1 = .ok l ∧
      (second.makeDirectories (pathStart home uri) front).1 = .ok l) ∧
    ChangedAlike first second (first.makeDirectories (pathStart home uri) front).2
      (second.makeDirectories (pathStart home uri) front).2 ∧
    ∀ l, Visits (pathStart home uri) front l →
      (first.makeDirectories (pathStart home uri) front).2.find? l = some .directory ∧
      (second.makeDirectories (pathStart home uri) front).2.find? l = some .directory := by
  obtain ⟨rest, hrest⟩ := hfront
  obtain ⟨last, hmakes⟩ := hfirst.makes
  rw [← hrest] at hmakes
  obtain ⟨l, hok⟩ := makeDirectories_of_append hmakes
  have hfiles : SameFiles (Passes (pathStart home uri) front) first second := by
    rintro l' ⟨before, name, after, rfl, hup, rfl⟩
    have hpasses : Passes (pathStart home uri) (pathSteps uri)
        (follow (pathStart home uri) before ++ [name]) :=
      ⟨before, name, after ++ rest, by simp [← hrest], hup, rfl⟩
    exact iff_of_false (hfirst.not_file hpasses) (hsecond.not_file hpasses)
  have hstart : ∀ l', l' <+: pathStart home uri →
      first.find? l' = some .directory ∧ second.find? l' = some .directory :=
    fun l' hl' => ⟨hfirst.start l' hl', hsecond.start l' hl'⟩
  obtain ⟨houtcome, hchange⟩ := makeDirectories_congr_of_files hfiles hstart
  have hok' := houtcome.symm.trans hok
  refine ⟨⟨l, hok, hok'⟩, hchange, fun l' hl' => ⟨?_, ?_⟩⟩
  · exact find?_of_visits_of_makeDirectories hok hfirst.start hl'
  · exact find?_of_visits_of_makeDirectories hok' hsecond.start hl'

/-- Where the directories have been made, the path is found. -/
theorem resolve_makeDirectories (h : CanBeMade home uri tree) (hne : uri ≠ "")
    (hnone : first.resolve home uri = .error .notFound) :
    (tree.makeDirectories (pathStart home uri) (pathSteps uri)).2.resolve home uri =
        .ok (locate home uri) ∧
      (tree.makeDirectories (pathStart home uri) (pathSteps uri)).2.find? (locate home uri) =
        some .directory := by
  obtain ⟨l, hmakes⟩ := h.makes
  have hadds := makeDirectories_addsDirectories tree (pathStart home uri) (pathSteps uri)
  constructor
  · rw [resolve_eq_walk_of_notFound hne hnone, locate, ← eq_follow_of_makeDirectories hmakes]
    exact walk_of_makeDirectories_of_reached hmakes (fun _ hl' => hl') fun l' hl' =>
      hadds.kept (h.start l' hl')
  · exact find?_of_visits_of_makeDirectories hmakes h.start (visits_locate home uri)

/-- Where the directories can be made, nothing is found. -/
theorem resolve_eq (h : CanBeMade home uri tree) (hne : uri ≠ "")
    (hnone : first.resolve home uri = .error .notFound) :
    tree.resolve home uri = .error .notFound := by
  have hadds := makeDirectories_addsDirectories tree (pathStart home uri) (pathSteps uri)
  have hmade := (h.resolve_makeDirectories hne hnone).1
  rcases resolve_eq_ok_or_notFound (fun _ _ hl => hadds.kept hl) hmade with hok | hnone'
  · exact absurd hok (h.vacant.resolve_ne_ok _)
  · exact hnone'

end CanBeMade

/-! ### The relation -/

/-- The way of the root is there in both trees, or the address fails alike; if it is because
something is missing, the directories can be made. -/
inductive SameWay (home : Location) (root uri : String) (first second : FileTree Content) :
    Prop where
  | passable (hfirst : IsPassable home root first) (hsecond : IsPassable home root second)
  | failing (fault : PathFault) (hfirst : first.resolve home uri = .error fault)
      (hsecond : second.resolve home uri = .error fault)
      (hmissing : fault = .notFound → CanBeMade home uri first ∧ CanBeMade home uri second)

/-- Two worlds have the same table at an address. -/
structure SameTable (home : Location) (root uri : String) (first second : World) : Prop where
  home_eq : first.home = home
  home_eq' : second.home = home
  below : ∀ path, first.tree.find? (locate home uri ++ path) =
    second.tree.find? (locate home uri ++ path)
  files : SameFiles (Passes [] (twin (locate home uri))) first.tree second.tree
  way : SameWay home root uri first.tree second.tree

namespace SameTable

/-- Where the way of the root is there, worlds that agree at the address have the same table. -/
theorem of_agreeAt (hhome : world.home = home)
    (h : World.Related (AgreeAt (fun _ => True) home uri) world world')
    (hfirst : IsPassable home root world.tree) (hsecond : IsPassable home root world'.tree) :
    SameTable home root uri world world' where
  home_eq := hhome
  home_eq' := h.1.symm.trans hhome
  below path := h.2.below path trivial
  files := h.2.files
  way := .passable hfirst hsecond

/-- Once the directories at the front of a way that can be made have been made, up to the root at
least, the way of the root is there, and the table is the same as before. -/
theorem makeDirectories (huri : StorageMode.localFiles.tableUri name root = .ok uri)
    (h : SameTable home root uri world world') (hfirst : CanBeMade home uri world.tree)
    (hsecond : CanBeMade home uri world'.tree) {front : List String}
    (hfront : front <+: pathSteps uri) (hroot : pathSteps root <+: front) :
    let made := fun start : World =>
      { start with tree := (start.tree.makeDirectories (pathStart home uri) front).2 }
    SameTable home root uri (made world) (made world') ∧
      IsPassable home root (made world).tree ∧ IsPassable home root (made world').tree := by
  obtain ⟨-, hchange, hvisited⟩ := hfirst.makeDirectories hsecond hfront
  have hvisits : ∀ l, Visits (pathStart home root) (pathSteps root) l →
      Visits (pathStart home uri) front l := by
    obtain ⟨segment, -, -, hstart, -⟩ := StorageMode.pathSteps_of_tableUri huri home
    intro l hl
    rw [hstart]
    exact hl.of_prefix hroot
  have hpassable : IsPassable home root
      (world.tree.makeDirectories (pathStart home uri) front).2 :=
    fun l hl => (hvisited l (hvisits l hl)).1
  have hpassable' : IsPassable home root
      (world'.tree.makeDirectories (pathStart home uri) front).2 :=
    fun l hl => (hvisited l (hvisits l hl)).2
  refine ⟨⟨h.home_eq, h.home_eq', ?_, ?_, .passable hpassable hpassable'⟩, hpassable, hpassable'⟩
  · exact fun path => hchange.find?_eq (h.below path)
  · exact h.files.of_changedAlike hchange

end SameTable

/-! ### What is done to the table -/

/-- Trees in which the same stands in a place are read alike there. -/
theorem readsAlike_of_agreeAt (h : AgreeAt (fun _ => True) home uri first second) :
    ReadsAlike (locate home uri) (AgreeAt (fun _ => True) home uri) first second where
  read_eq := Log.read_congr fun name content => by
    rw [Log.directory, List.append_assoc, h.below _ trivial]
  rows?_eq snapshot _ file _ first' second' h' := by
    rw [DataFile.rows?, FileTree.content?, h'.below _ trivial, DataFile.rows?, FileTree.content?]

/-- A run that opens the place, and does the same where the trees agree, opens it alike. -/
theorem opensAlike_of_opensPlace {run : Run Location} (hhome : world.home = home)
    (hagree : run.AgreeFrom (World.Related (AgreeAt (fun _ => True) home uri)) run world world')
    (hplace : run.Ensures world (fun place _ => place = locate world.home uri) fun _ _ => True) :
    OpensAlike (AgreeAt (fun _ => True) home uri) run world world' := by
  refine opensAlike_of_agreeAt (fun _ _ => trivial) hagree ?_ ?_
  · intro place after hrun
    rw [hplace.of_ok hrun, hhome]
  · exact fun _ _ _ _ hrelated => readsAlike_of_agreeAt hrelated.2

/-- What stays within the place, and does the same where the trees agree, keeps the table the same
if the way of the root is there. -/
theorem SameTable.agreeFrom_of_passable {α : Type} {run : Run α}
    (hout : StaysOut home root (locate home uri)) (hhome : world.home = home)
    (hhome' : world'.home = home)
    (hfirst : IsPassable home root world.tree) (hsecond : IsPassable home root world'.tree)
    (hstays : run.Respects (StaysWithin home (locate home uri) (OnTheWay home uri)))
    (hagree : run.AgreeFrom (World.Related (AgreeAt (fun _ => True) home uri)) run world world') :
    run.AgreeFrom (SameTable home root uri) run world world' := by
  obtain ⟨hafter, hconfined⟩ := hstays world hhome
  obtain ⟨-, hconfined'⟩ := hstays world' hhome'
  refine ⟨hagree.1, .of_agreeAt hafter hagree.2 ?_ ?_⟩
  · exact fun l hl => hconfined.kept (hout l hl) (hfirst l hl)
  · exact fun l hl => hconfined'.kept (hout l hl) (hsecond l hl)

/-- The failure of writers that do not get anywhere. -/
def refusal (table : Table) : Failure :=
  match Address.ofUri table.uri with
  | .store => .table .opening
  | _ => .abort .internal

/-- A writer whose address is none of a directory does nothing. -/
theorem start_placeForWriting_of_address {table : Table}
    (haddress : Address.ofUri table.uri ≠ .directory table.uri) (world : World) :
    table.placeForWriting.start world = (.error table.refusal, world) := by
  unfold placeForWriting refusal
  cases hkind : Address.ofUri table.uri with
  | store => rfl
  | unknown => rfl
  | directory path =>
    obtain rfl := eq_of_ofUri_eq_directory hkind
    exact absurd hkind haddress

/-- A writer whose address fails, and not because something is missing, does nothing. -/
theorem start_placeForWriting_of_error {table : Table} {fault : PathFault}
    (hresolve : world.tree.resolve world.home table.uri = .error fault) (hne : fault ≠ .notFound) :
    table.placeForWriting.start world = (.error table.refusal, world) := by
  by_cases haddress : Address.ofUri table.uri = .directory table.uri
  · have hmade :
        world.tree.createDirectories world.home table.uri = (.error fault, world.tree) := by
      rw [createDirectories, hresolve]
      cases fault with
      | notFound => exact absurd rfl hne
      | _ => rfl
    unfold placeForWriting refusal
    rw [haddress]
    simp only [Run.start_bind, Run.start_tree, Run.start_home, Run.start_ofOutcome, hmade,
      Except.mapError]
  · exact start_placeForWriting_of_address haddress world

/-- A writer does not make the place of an address that ends in a dot, only what leads there. -/
theorem start_placeForWriting_of_dot {table : Table}
    (haddress : Address.ofUri table.uri = .directory table.uri)
    (hnone : world.tree.resolve world.home table.uri = .error .notFound)
    (hdot : (fullNames table.uri).getLast? = some ".") :
    table.placeForWriting.start world =
      (.error (.abort .internal), { world with
        tree := (world.tree.makeDirectories (pathStart world.home table.uri)
          (pathSteps table.uri).dropLast).2 }) := by
  have hmade : world.tree.createDirectories world.home table.uri =
      (.error .notFound, (world.tree.makeDirectories (pathStart world.home table.uri)
        (pathSteps table.uri).dropLast).2) := by
    rw [createDirectories, hnone]
    simp only [if_pos hdot]
    rfl
  unfold placeForWriting
  rw [haddress]
  simp only [Run.start_bind, Run.start_tree, Run.start_home, Run.start_ofOutcome, hmade,
    Except.mapError]

/-- A writer to a place that can be made starts by making it. -/
theorem start_placeForWriting_of_canBeMade {table : Table}
    (haddress : Address.ofUri table.uri = .directory table.uri) (hne : table.uri ≠ "")
    (hnone : world.tree.resolve world.home table.uri = .error .notFound)
    (hdot : (fullNames table.uri).getLast? ≠ some ".")
    (h : CanBeMade world.home table.uri world.tree) :
    table.placeForWriting.start world = table.placeForWriting.start { world with
      tree := (world.tree.makeDirectories (pathStart world.home table.uri)
        (pathSteps table.uri)).2 } := by
  set tree := (world.tree.makeDirectories (pathStart world.home table.uri) (pathSteps table.uri)).2
  obtain ⟨hfound, hdirectory⟩ := h.resolve_makeDirectories hne hnone
  obtain ⟨l, hmakes⟩ := h.makes
  have hl : l = locate world.home table.uri := eq_follow_of_makeDirectories hmakes
  have hmade : world.tree.createDirectories world.home table.uri =
      (.ok (locate world.home table.uri), tree) := by
    rw [createDirectories_of_notFound hnone hdot, ← hl]
    exact Prod.ext hmakes rfl
  have hagain : tree.createDirectories world.home table.uri =
      (.ok (locate world.home table.uri), tree) := by
    have hdirectory' : tree.isDirectory (locate world.home table.uri) = true :=
      isDirectory_eq_true.mpr hdirectory
    rw [createDirectories, hfound]
    simp only [hdirectory', if_true]
  have hagain' : table.placeForWriting.start { world with tree } = _ :=
    start_placeForWriting haddress (congrArg Prod.fst hagain)
  rw [start_placeForWriting haddress (congrArg Prod.fst hmade), hagain', hmade, hagain]

/-- A reader whose address fails does nothing. -/
theorem start_reader_of_error {α : Type} {table : Table} (f : Location → Run α) {fault : PathFault}
    (hresolve : world.tree.resolve world.home table.uri = .error fault) :
    (table.placeForReading >>= f).start world = (.error (.table .opening), world) := by
  have hfailed : table.placeForReading.start world = (.error (.table .opening), world) := by
    unfold placeForReading
    cases haddress : Address.ofUri table.uri with
    | store => rfl
    | unknown => rfl
    | directory path =>
      obtain rfl := eq_of_ofUri_eq_directory haddress
      simp only [Run.start_bind, Run.start_tree, Run.start_home, hresolve, Run.start_throw]
  rw [Run.start_bind, hfailed]

section OnBothSides

variable {α : Type} {R : World → World → Prop} {run : Run Location} {f : Location → Run α}

/-- Nothing comes after failures that are the same. -/
theorem agreeFrom_bind_of_start_error {failure : Failure} {after after' : World}
    (hrun : run.start world = (.error failure, after))
    (hrun' : run.start world' = (.error failure, after')) (h : R after after') :
    (run >>= f).AgreeFrom R (run >>= f) world world' := by
  unfold Run.AgreeFrom
  rw [Run.start_bind, Run.start_bind, hrun, hrun']
  exact ⟨rfl, h⟩

/-- Runs agree if they do so from where they come out the same. -/
theorem agreeFrom_bind_of_start_eq {later later' : World} (hrun : run.start world = run.start later)
    (hrun' : run.start world' = run.start later')
    (h : (run >>= f).AgreeFrom R (run >>= f) later later') :
    (run >>= f).AgreeFrom R (run >>= f) world world' := by
  unfold Run.AgreeFrom at h ⊢
  rw [Run.start_bind, Run.start_bind] at h ⊢
  rw [hrun, hrun']
  exact h

namespace SameTable

/-- A writer that keeps the table the same where the way of the root is there, does so in any
case. -/
theorem agreeFrom_writer (huri : StorageMode.localFiles.tableUri name root = .ok uri)
    (hf : ∀ {start start' : World}, SameTable home root uri start start' →
      IsPassable home root start.tree → IsPassable home root start'.tree →
      (placeForWriting ⟨uri⟩ >>= f).AgreeFrom (SameTable home root uri)
        (placeForWriting ⟨uri⟩ >>= f) start start') (h : SameTable home root uri world world') :
    (placeForWriting ⟨uri⟩ >>= f).AgreeFrom (SameTable home root uri) (placeForWriting ⟨uri⟩ >>= f)
      world world' := by
  have hne : uri ≠ "" := StorageMode.ne_empty_of_tableUri huri
  obtain ⟨hhome, hhome', -, -, hway⟩ := id h
  subst hhome
  cases hway with
  | passable hfirst hsecond => exact hf h hfirst hsecond
  | failing fault hfirst hsecond hmissing =>
    rw [← hhome'] at hsecond
    by_cases hfault : fault = .notFound
    swap
    · exact agreeFrom_bind_of_start_error (start_placeForWriting_of_error hfirst hfault)
        (start_placeForWriting_of_error hsecond hfault) h
    subst hfault
    by_cases haddress : Address.ofUri uri = .directory uri
    swap
    · exact agreeFrom_bind_of_start_error (start_placeForWriting_of_address haddress world)
        (start_placeForWriting_of_address haddress world') h
    obtain ⟨hcan, hcan'⟩ := hmissing rfl
    have hstart : pathStart world'.home uri = pathStart world.home uri := by rw [hhome']
    obtain ⟨segment, -, -, -, hsteps⟩ := StorageMode.pathSteps_of_tableUri huri world.home
    by_cases hdot : (fullNames uri).getLast? = some "."
    · -- the place is not made, but the way of the root is there afterwards
      have hfront : (pathSteps uri).dropLast <+: pathSteps uri := List.dropLast_prefix _
      have hdrop : (pathSteps uri).dropLast = pathSteps root := by
        rw [hsteps, List.dropLast_concat]
      have hroot : pathSteps root <+: (pathSteps uri).dropLast := hdrop ▸ List.prefix_refl _
      obtain ⟨hmade, -, -⟩ := h.makeDirectories huri hcan hcan' hfront hroot
      refine agreeFrom_bind_of_start_error (start_placeForWriting_of_dot haddress hfirst hdot)
        (start_placeForWriting_of_dot haddress hsecond hdot) ?_
      simp only [hstart]
      exact hmade
    · have hroot : pathSteps root <+: pathSteps uri := hsteps ▸ List.prefix_append _ _
      obtain ⟨hmade, hpassable, hpassable'⟩ :=
        h.makeDirectories huri hcan hcan' (List.prefix_refl _) hroot
      refine agreeFrom_bind_of_start_eq
        (start_placeForWriting_of_canBeMade haddress hne hfirst hdot hcan)
        (start_placeForWriting_of_canBeMade haddress hne hsecond hdot (hhome' ▸ hcan')) ?_
      simp only [hstart]
      exact hf hmade hpassable hpassable'

/-- What does nothing where the address fails, and keeps the table the same where the way of the
root is there, does so in any case. -/
theorem agreeFrom_of_doesNothing {run : Run α}
    (hnothing : ∀ fault, ∃ answer, ∀ start : World,
      start.tree.resolve start.home uri = .error fault → run.start start = (answer, start))
    (hf : IsPassable home root world.tree → IsPassable home root world'.tree →
      run.AgreeFrom (SameTable home root uri) run world world')
    (h : SameTable home root uri world world') :
    run.AgreeFrom (SameTable home root uri) run world world' := by
  cases h.way with
  | passable hfirst hsecond => exact hf hfirst hsecond
  | failing fault hfirst hsecond _ =>
    rw [← h.home_eq] at hfirst
    rw [← h.home_eq'] at hsecond
    obtain ⟨answer, hanswer⟩ := hnothing fault
    unfold Run.AgreeFrom
    rw [hanswer world hfirst, hanswer world' hsecond]
    exact ⟨rfl, h⟩

end SameTable

end OnBothSides

end Table

/-- All that is done to a table does the same in worlds that have the same table, if the way of the
root stays out of its place. -/
theorem Operations.areAlike_sameTable [Engine] {home : Location} {name root uri : String}
    (huri : StorageMode.localFiles.tableUri name root = .ok uri)
    (hout : Table.StaysOut home root (locate home uri)) :
    AreAlike (Table.SameTable home root uri) .localFiles uri := by
  have hne : locate home uri ≠ [] := StorageMode.locate_ne_nil_of_tableUri huri home
  have hstays := Operations.respect_staysWithin .localFiles home hne
  have hagree : ∀ {world world' : World}, Table.SameTable home root uri world world' →
      Table.IsPassable home root world.tree → Table.IsPassable home root world'.tree →
      World.Related (Table.AgreeAt (fun _ => True) home uri) world world' :=
    fun h hfirst hsecond => ⟨h.home_eq.trans h.home_eq'.symm,
      Table.agreeAt_of_isPassable huri hfirst hsecond h.below h.files⟩
  have hwriting : ∀ {world world' : World}, Table.SameTable home root uri world world' →
      Table.IsPassable home root world.tree → Table.IsPassable home root world'.tree →
      Table.OpensAlike (Table.AgreeAt (fun _ => True) home uri) (Table.placeForWriting ⟨uri⟩)
        world world' := by
    intro world world' h hfirst hsecond
    refine Table.opensAlike_of_opensPlace h.home_eq
      (Table.agreeFrom_placeForWriting_of_agreeAt (hagree h hfirst hsecond) h.home_eq) ?_
    exact (Table.placeForWriting_ensures ⟨uri⟩ world).mono (fun _ _ h => h.1) fun _ _ _ => trivial
  have hreading : ∀ {world world' : World}, Table.SameTable home root uri world world' →
      Table.IsPassable home root world.tree → Table.IsPassable home root world'.tree →
      Table.OpensAlike (Table.AgreeAt (fun _ => True) home uri) (Table.placeForReading ⟨uri⟩)
        world world' := by
    intro world world' h hfirst hsecond
    refine Table.opensAlike_of_opensPlace h.home_eq
      (Table.agreeFrom_placeForReading_of_agreeAt (hagree h hfirst hsecond) h.home_eq) ?_
    exact (Table.placeForReading_ensures ⟨uri⟩ world).mono (fun _ _ h => h.1) fun _ _ _ => trivial
  constructor
  · intro event world world' h
    exact ⟨rfl, h.home_eq, h.home_eq', h.below, h.files, h.way⟩
  · intro rows partitionBy world world' h
    refine Table.SameTable.agreeFrom_writer huri ?_ h
    intro start start' hstart hfirst hsecond
    exact Table.SameTable.agreeFrom_of_passable hout hstart.home_eq hstart.home_eq' hfirst hsecond
      (hstays.append rows partitionBy)
      (Table.agreeFrom_append rows partitionBy (hwriting hstart hfirst hsecond))
  · intro predicate world world' h
    refine Table.SameTable.agreeFrom_writer huri ?_ h
    intro start start' hstart hfirst hsecond
    exact Table.SameTable.agreeFrom_of_passable hout hstart.home_eq hstart.home_eq' hfirst hsecond
      (hstays.delete predicate) (Table.agreeFrom_delete predicate (hwriting hstart hfirst hsecond))
  · intro world world' h
    refine Table.SameTable.agreeFrom_of_doesNothing
      (fun fault => ⟨_, fun start => Table.start_reader_of_error _⟩) ?_ h
    intro hfirst hsecond
    exact Table.SameTable.agreeFrom_of_passable hout h.home_eq h.home_eq' hfirst hsecond
      hstays.checkpoint (Table.agreeFrom_checkpoint (hreading h hfirst hsecond))
  · intro world world' h
    refine Table.SameTable.agreeFrom_of_doesNothing
      (fun fault => ⟨_, fun start => Table.start_reader_of_error _⟩) ?_ h
    intro hfirst hsecond
    exact Table.SameTable.agreeFrom_of_passable hout h.home_eq h.home_eq' hfirst hsecond
      hstays.scan (Table.agreeFrom_scan (hreading h hfirst hsecond))
  · intro world world' h
    refine Table.SameTable.agreeFrom_of_doesNothing
      (fun fault => ⟨_, fun start => StorageMode.start_resetLocal_of_error⟩) ?_ h
    intro hfirst hsecond
    have hrelated := hagree h hfirst hsecond
    have hremoved := hrelated.2.removeDirectory (StorageMode.getLast?_fullNames_ne_up huri) hne
    refine Table.SameTable.agreeFrom_of_passable hout h.home_eq h.home_eq' hfirst hsecond
      hstays.resetLocal (StorageMode.agreeFrom_resetLocal hrelated.1 ?_)
    rw [h.home_eq, h.home_eq']
    exact hremoved

end LogTable
