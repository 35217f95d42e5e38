import LogTable.Proofs.FileTree.Directories
import LogTable.Proofs.Run
import LogTable.Proofs.Table.Names

/-!
# Growth of a table's files

Up to its commit an operation on a table only adds to the files of a machine: directories on the way
to the place of the table, and directories and data files below it.  `Growth` says so of two trees
and `World.Grows` of two worlds.  The parts of operations that come before a commit are described
here without any assumption on what the machine holds; `commit_ensures` says what a commit adds to
a growth.
-/

namespace LogTable

open FileTree

/-- A path below the place of a table that leads neither to the place itself nor into its log. -/
def IsDataPath (path : Location) : Prop :=
  path ≠ [] ∧ path.head? ≠ some Log.directoryName

/-- A data file does not lie in the log. -/
theorem IsDataPath.append_ne_log {place path rest : Location} (h : IsDataPath path) :
    place ++ path ≠ Log.directory place ++ rest := by
  intro heq
  rw [Log.directory, List.append_assoc, List.append_cancel_left_eq] at heq
  exact h.2 (by rw [heq]; rfl)

/-- `after` has all entries of `before`.  Its further entries are directories on the way or below
the place, and data files below the place outside of the log; those below the place have plain
names. -/
structure Growth (place : Location) (onTheWay : Location → Prop)
    (before after : FileTree Content) : Prop where
  kept : ∀ {l e}, before.find? l = some e → after.find? l = some e
  added : ∀ {l e}, before.find? l = none → after.find? l = some e →
    (e = .directory ∧ (onTheWay l ∨ place <+: l)) ∨
      ∃ path rows, l = place ++ path ∧ IsDataPath path ∧ e = .file (.rows rows)
  named : ∀ {front name e}, before.find? (place ++ front ++ [name]) = none →
    after.find? (place ++ front ++ [name]) = some e → IsPlainName name

namespace Growth

variable {place : Location} {onTheWay : Location → Prop} {before middle after : FileTree Content}

protected theorem refl (tree : FileTree Content) : Growth place onTheWay tree tree where
  kept h := h
  added hnone hsome := by simp [hnone] at hsome
  named hnone hsome := absurd (hnone.symm.trans hsome) nofun

protected theorem trans (h : Growth place onTheWay before middle)
    (h' : Growth place onTheWay middle after) : Growth place onTheWay before after where
  kept hl := h'.kept (h.kept hl)
  added {l e} hnone hsome := by
    cases hmiddle : middle.find? l with
    | none => exact h'.added hmiddle hsome
    | some entry =>
      obtain rfl : entry = e := Option.some.inj ((h'.kept hmiddle).symm.trans hsome)
      exact h.added hnone hmiddle
  named {front name e} hnone hsome := by
    cases hmiddle : middle.find? (place ++ front ++ [name]) with
    | none => exact h'.named hmiddle hsome
    | some entry => exact h.named hnone hmiddle

/-- Adding directories with plain names on the way and below the place is a growth. -/
theorem of_addsDirectories {P : Location → Prop} (h : AddsDirectories before after P)
    (hP : ∀ l, P l → onTheWay l ∨ place <+: l)
    (hname : ∀ front name, P (place ++ front ++ [name]) → IsPlainName name) :
    Growth place onTheWay before after where
  kept hl := h.kept hl
  added hnone hsome := Or.inl ⟨(h.added hnone hsome).1, hP _ (h.added hnone hsome).2⟩
  named hnone hsome := hname _ _ (h.added hnone hsome).2

/-- Making directories with plain names below the place is a growth. -/
theorem makeDirectories (tree : FileTree Content) {names : List String}
    (hnames : ∀ name ∈ names, IsPlainName name) :
    Growth place onTheWay tree (tree.makeDirectories place names).2 := by
  have hup : ".." ∉ names := fun h => (hnames _ h).2.2.1 rfl
  refine .of_addsDirectories (makeDirectories_addsDirectories tree place names) ?_ ?_
  · rintro l ⟨first, name, rest, rfl, -, rfl⟩
    rw [follow_eq_append fun h => hup (List.mem_append_left _ h), List.append_assoc]
    exact Or.inr (List.prefix_append _ _)
  · rintro front name ⟨first, name', rest, rfl, -, heq⟩
    obtain ⟨-, hname⟩ := List.append_inj' heq rfl
    exact List.singleton_inj.mp hname ▸ hnames name' (by simp)

/-- Putting a data file where nothing stands is a growth. -/
theorem put {path : Location} {name : String} {rows : List Row} (tree : FileTree Content)
    (hpath : IsDataPath (path ++ [name])) (hname : IsPlainName name)
    (hnone : tree.find? (place ++ (path ++ [name])) = none) :
    Growth place onTheWay tree (tree.put (place ++ (path ++ [name])) (.file (.rows rows))) := by
  have hne : place ++ (path ++ [name]) ≠ [] := by simp
  constructor
  · intro l e hl
    rw [find?_put _ _ _ hne, if_neg fun h => by simp [h, hnone] at hl, hl]
  · intro l e hl hsome
    rw [find?_put _ _ _ hne] at hsome
    split_ifs at hsome with heq
    · cases hsome
      exact Or.inr ⟨path ++ [name], rows, heq, hpath, rfl⟩
    · simp [hl] at hsome
  · intro front other e hl hsome
    rw [find?_put _ _ _ hne] at hsome
    split_ifs at hsome with heq
    · rw [← List.append_assoc] at heq
      obtain ⟨-, hother⟩ := List.append_inj' heq rfl
      exact List.singleton_inj.mp hother ▸ hname
    · exact absurd (hl.symm.trans hsome) nofun

end Growth

/-- Everything stands in a directory, and relative paths start from a directory. -/
structure World.IsSound (world : World) : Prop where
  closed : world.tree.IsClosed
  home : world.tree.find? world.home = some .directory

theorem World.isSound_fresh : World.fresh.IsSound where
  closed := by
    have hnone : ∀ l : Location, l ≠ [] → (FileTree.empty : FileTree Content).find? l = none :=
      fun _ hl => find?_of_ne_nil _ hl
    refine IsClosed.put (fun l name e h => ?_) (find?_nil _) ?_
    · rw [hnone _ (by simp)] at h
      cases h
    · rw [hnone _ (by simp)]
      exact nofun
  home := by rfl

/-- `after` differs from `before` by a growth of the files only, and is sound if `before` is and has
the place. -/
structure World.Grows (place : Location) (onTheWay : Location → Prop)
    (before after : World) : Prop where
  home : after.home = before.home
  journal : after.journal = before.journal
  tree : Growth place onTheWay before.tree after.tree
  sound : before.IsSound → before.tree.find? place = some .directory → after.IsSound

namespace World.Grows

variable {place : Location} {onTheWay : Location → Prop} {before middle after : World}

protected theorem refl (world : World) : world.Grows place onTheWay world :=
  ⟨rfl, rfl, .refl _, fun hsound _ => hsound⟩

protected theorem trans (h : before.Grows place onTheWay middle)
    (h' : middle.Grows place onTheWay after) : before.Grows place onTheWay after :=
  ⟨h'.home.trans h.home, h'.journal.trans h.journal, h.tree.trans h'.tree,
    fun hsound hplace => h'.sound (h.sound hsound hplace) (h.tree.kept hplace)⟩

/-- A world with grown files. -/
theorem of_tree {world : World} {tree : FileTree Content}
    (h : Growth place onTheWay world.tree tree)
    (hclosed : world.IsSound → world.tree.find? place = some .directory → tree.IsClosed) :
    world.Grows place onTheWay { world with tree } :=
  ⟨rfl, rfl, h, fun hsound hplace => ⟨hclosed hsound hplace, h.kept hsound.home⟩⟩

end World.Grows

namespace Table

/-- The locations on the way to the place of a path, and on the way to its twin if that is another
place. -/
def OnTheWay (home : Location) (path : String) (l : Location) : Prop :=
  Passes (pathStart home path) (pathSteps path) l ∨
    twin (locate home path) ≠ locate home path ∧ Passes [] (twin (locate home path)) l

/-- Names that are followed lead down by one step each at most. -/
theorem length_follow_le (here : Location) (names : List String) :
    (follow here names).length ≤ here.length + names.length := by
  induction names generalizing here with
  | nil => simp
  | cons name names ih =>
    have hstep : (enter here name).length ≤ here.length + 1 := by
      unfold enter
      split_ifs <;> simp
      omega
    have := ih (enter here name)
    rw [follow_cons, List.length_cons]
    omega

/-- The way to the twin of a place does not lead below the place. -/
theorem not_passes_twin_append (place front : Location) (name : String) :
    ¬ Passes [] (twin place) (place ++ front ++ [name]) := by
  rintro ⟨first, last, rest, htwin, -, heq⟩
  have hlength := congrArg List.length htwin
  have hle := length_follow_le [] first
  have hl := congrArg List.length heq
  simp only [twin, List.length_map, List.length_append, List.length_cons, List.length_nil] at *
  omega

/-- Making the directories of the place of a table is a growth. -/
theorem growth_createDirectories (tree : FileTree Content) (home : Location) (path : String) :
    Growth (locate home path) (OnTheWay home path) tree (tree.createDirectories home path).2 := by
  refine .of_addsDirectories (createDirectories_addsDirectories tree home path)
    (fun l hl => Or.inl (Or.inl hl)) ?_
  rintro front name ⟨first, name', rest, hsteps, hup, heq⟩
  obtain ⟨-, hname⟩ := List.append_inj' heq rfl
  rw [List.singleton_inj.mp hname]
  have hmem : name' ∈ pathSteps path := by
    rw [hsteps]
    exact List.mem_append_right _ List.mem_cons_self
  exact isPlainName_of_mem_pathSteps hmem hup

/-- The store at a place is open: the directory that its address would be if taken literally is
there, if it is needed. -/
def IsOpen (tree : FileTree Content) (place : Location) : Prop :=
  twin place = place ∨ ∃ l, tree.makeDirectories [] (twin place) = (.ok l, tree)

/-- A store stays open as long as no directory is lost. -/
theorem IsOpen.of_kept {before after : FileTree Content} {place : Location}
    (h : IsOpen before place)
    (hkept : ∀ l, before.find? l = some .directory → after.find? l = some .directory) :
    IsOpen after place := by
  refine h.imp_right ?_
  rintro ⟨l, hl⟩
  have hok : (before.makeDirectories [] (twin place)).1 = .ok l := by rw [hl]
  refine ⟨l, makeDirectories_of_ok hok fun l' hl' => hkept l' ?_⟩
  rwa [hl] at hl'

/-- Opening the store at the place of a table is a growth, changes nothing below the place, and
fails only if the store is not open. -/
theorem openStore_ensures (world : World) (home : Location) (path : String) :
    (openStore (locate home path)).Ensures world
      (fun _ after => world.Grows (locate home path) (OnTheWay home path) after ∧
        (world.IsSound → after.IsSound) ∧
        (∀ rest ≠ [], after.tree.find? (locate home path ++ rest) =
          world.tree.find? (locate home path ++ rest)) ∧
        IsOpen after.tree (locate home path))
      fun _ after => world.Grows (locate home path) (OnTheWay home path) after ∧
        (world.IsSound → after.IsSound) ∧
        (∀ rest ≠ [], after.tree.find? (locate home path ++ rest) =
          world.tree.find? (locate home path ++ rest)) ∧
        ¬ IsOpen world.tree (locate home path) := by
  unfold openStore
  split_ifs with htwin
  · exact Run.ensures_pure ⟨.refl world, id, fun _ _ => rfl, Or.inl htwin⟩
  set middle := (world.tree.makeDirectories [] (twin (locate home path))).2
  have hadds : AddsDirectories world.tree middle (Passes [] (twin (locate home path))) :=
    makeDirectories_addsDirectories _ _ _
  have hclosed : world.IsSound → middle.IsClosed := fun hsound => hsound.closed.makeDirectories _ _
  have hgrowth : Growth (locate home path) (OnTheWay home path) world.tree middle :=
    .of_addsDirectories hadds (fun l hl => Or.inl (Or.inr ⟨htwin, hl⟩))
      fun front name hpasses => absurd hpasses (not_passes_twin_append _ _ _)
  have hgrows := World.Grows.of_tree hgrowth fun hsound _ => hclosed hsound
  have hbelow : ∀ rest ≠ [], middle.find? (locate home path ++ rest) =
      world.tree.find? (locate home path ++ rest) := by
    intro rest hrest
    rcases List.eq_nil_or_concat rest with rfl | ⟨front, name, rfl⟩
    · exact absurd rfl hrest
    rw [List.concat_eq_append, ← List.append_assoc]
    exact hadds.find?_eq (not_passes_twin_append _ _ _)
  refine Run.ensures_bind (Run.ensures_tree (Run.ensures_bind (Run.ensures_ofOutcome ?_ ?_)))
  · intro l hl
    exact Run.ensures_pure ⟨hgrows, fun hsound => ⟨hclosed hsound, hgrowth.kept hsound.home⟩,
      hbelow, Or.inr ⟨l, makeDirectories_of_ok hl fun _ hl' => hl'⟩⟩
  · intro fault hfault
    refine ⟨hgrows, fun hsound => ⟨hclosed hsound, hgrowth.kept hsound.home⟩, hbelow, ?_⟩
    rintro (heq | ⟨l, hl⟩)
    · exact htwin heq
    · rw [hl] at hfault
      cases hfault

/-- What has an address as a path is that path. -/
theorem eq_of_ofUri_eq_directory {uri path : String} (h : Address.ofUri uri = .directory path) :
    path = uri := by
  unfold Address.ofUri at h
  cases hkind : Address.kind? uri with
  | none => simpa [hkind, eq_comm] using h
  | some kind =>
    simp only [hkind] at h
    split_ifs at h
    exact (Address.directory.inj h).symm

/-- Readers get to the place of the table. -/
structure IsReady (table : Table) (world : World) : Prop where
  address : Address.ofUri table.uri = .directory table.uri
  found : world.tree.resolve world.home table.uri = .ok (locate world.home table.uri)
  isDirectory : world.tree.find? (locate world.home table.uri) = some .directory
  isOpen : IsOpen world.tree (locate world.home table.uri)

/-- Readers get to the place of the table as long as no directory is lost. -/
theorem IsReady.of_kept {table : Table} {before after : World} (h : table.IsReady before)
    (hhome : after.home = before.home)
    (hkept : ∀ l, before.tree.find? l = some .directory → after.tree.find? l = some .directory) :
    table.IsReady after where
  address := h.address
  found := hhome ▸ resolve_of_kept h.found h.isDirectory hkept
  isDirectory := hhome ▸ hkept _ h.isDirectory
  isOpen := hhome ▸ h.isOpen.of_kept hkept

/-- A writer finds or makes the place that the address names and opens it; readers get there
afterwards. -/
theorem placeForWriting_ensures (table : Table) (world : World) :
    table.placeForWriting.Ensures world
      (fun place after => place = locate world.home table.uri ∧
        world.Grows (locate world.home table.uri) (OnTheWay world.home table.uri) after ∧
        IsOpen after.tree (locate world.home table.uri) ∧
        (world.IsSound → after.IsSound ∧
          after.tree.find? (locate world.home table.uri) = some .directory ∧
          (table.uri ≠ "" → table.IsReady after)))
      fun _ after =>
        world.Grows (locate world.home table.uri) (OnTheWay world.home table.uri) after ∧
          (world.IsSound → after.IsSound) := by
  unfold placeForWriting
  cases haddress : Address.ofUri table.uri with
  | store => exact Run.ensures_throw ⟨.refl world, id⟩
  | unknown => exact Run.ensures_throw ⟨.refl world, id⟩
  | directory path =>
    obtain rfl := eq_of_ofUri_eq_directory haddress
    have hgrowth := growth_createDirectories world.tree world.home table.uri
    have hclosed : world.IsSound → (world.tree.createDirectories world.home table.uri).2.IsClosed :=
      fun hsound => hsound.closed.createDirectories _ _
    have hgrows := World.Grows.of_tree hgrowth fun hsound _ => hclosed hsound
    have hsound' : world.IsSound → World.IsSound
        { world with tree := (world.tree.createDirectories world.home table.uri).2 } :=
      fun hsound => ⟨hclosed hsound, hgrowth.kept hsound.home⟩
    refine Run.ensures_bind (Run.ensures_tree (Run.ensures_bind (Run.ensures_home
      (Run.ensures_bind (Run.ensures_ofOutcome ?_ ?_)))))
    · intro place hplace
      obtain rfl := eq_locate_of_createDirectories hplace
      refine Run.ensures_bind ((openStore_ensures _ world.home table.uri).mono ?_ ?_)
      · rintro _ after ⟨hafter, hsound'', -, hopen⟩
        refine Run.ensures_pure ⟨rfl, hgrows.trans hafter, hopen, fun hsound => ?_⟩
        obtain ⟨hdirectory, hresolve⟩ :=
          resolve_of_createDirectories hplace hsound.closed hsound.home
        have hhome : after.home = world.home := hafter.home
        refine ⟨hsound'' (hsound' hsound), hafter.tree.kept hdirectory,
          fun hne => ⟨haddress, ?_, ?_, ?_⟩⟩
        · rw [hhome]
          exact resolve_of_kept (hresolve hne) hdirectory fun _ hl => hafter.tree.kept hl
        · rw [hhome]
          exact hafter.tree.kept hdirectory
        · rw [hhome]
          exact hopen
      · rintro _ after ⟨hafter, hsound'', -, -⟩
        exact ⟨hgrows.trans hafter, hsound'' ∘ hsound'⟩
    · intro fault _
      exact ⟨hgrows, hsound'⟩

/-- Nothing at and below a place is different. -/
def Untouched (place : Location) (before after : FileTree Content) : Prop :=
  ∀ rest, after.find? (place ++ rest) = before.find? (place ++ rest)

/-- A reader finds the place that the address names, if readers get there, and leaves it as it is.
-/
theorem placeForReading_ensures (table : Table) (world : World) :
    table.placeForReading.Ensures world
      (fun place after => place = locate world.home table.uri ∧
        world.Grows (locate world.home table.uri) (OnTheWay world.home table.uri) after ∧
        (world.IsSound → after.IsSound) ∧
        Untouched (locate world.home table.uri) world.tree after.tree ∧ table.IsReady after)
      fun _ after =>
        world.Grows (locate world.home table.uri) (OnTheWay world.home table.uri) after ∧
        (world.IsSound → after.IsSound) ∧
        Untouched (locate world.home table.uri) world.tree after.tree ∧
        ¬ table.IsReady world := by
  unfold placeForReading
  cases haddress : Address.ofUri table.uri with
  | store =>
    exact Run.ensures_throw
      ⟨.refl world, id, fun _ => rfl, fun h => by simp [h.address] at haddress⟩
  | unknown =>
    exact Run.ensures_throw
      ⟨.refl world, id, fun _ => rfl, fun h => by simp [h.address] at haddress⟩
  | directory path =>
    obtain rfl := eq_of_ofUri_eq_directory haddress
    refine Run.ensures_bind (Run.ensures_tree (Run.ensures_bind (Run.ensures_home ?_)))
    cases hresolve : world.tree.resolve world.home table.uri with
    | error fault =>
      exact Run.ensures_throw
        ⟨.refl world, id, fun _ => rfl, fun h => by simp [h.found] at hresolve⟩
    | ok place =>
      obtain rfl := eq_locate_of_resolve hresolve
      simp only
      split_ifs with hdirectory
      · refine Run.ensures_bind (Run.ensures_throw ⟨.refl world, id, fun _ => rfl, fun h => ?_⟩)
        simp [isDirectory_eq_true.mpr h.isDirectory] at hdirectory
      rw [Bool.not_eq_true, Bool.not_eq_false', isDirectory_eq_true] at hdirectory
      have huntouched : ∀ after : World,
          world.Grows (locate world.home table.uri) (OnTheWay world.home table.uri) after →
          (∀ rest ≠ [], after.tree.find? (locate world.home table.uri ++ rest) =
            world.tree.find? (locate world.home table.uri ++ rest)) →
          Untouched (locate world.home table.uri) world.tree after.tree := by
        intro after hafter hbelow rest
        by_cases hrest : rest = []
        · rw [hrest, List.append_nil, hdirectory, hafter.tree.kept hdirectory]
        · exact hbelow rest hrest
      refine Run.ensures_bind ((openStore_ensures _ world.home table.uri).mono ?_ ?_)
      · rintro _ after ⟨hafter, hsound, hbelow, hopen⟩
        refine Run.ensures_pure
          ⟨rfl, hafter, hsound, huntouched after hafter hbelow, haddress, ?_, ?_, ?_⟩
        · rw [hafter.home]
          exact resolve_of_kept hresolve hdirectory fun _ hl => hafter.tree.kept hl
        · rw [hafter.home]
          exact hafter.tree.kept hdirectory
        · rw [hafter.home]
          exact hopen
      · rintro _ after ⟨hafter, hsound, hbelow, hopen⟩
        exact ⟨hafter, hsound, huntouched after hafter hbelow, fun h => hopen h.isOpen⟩

end Table

end LogTable
