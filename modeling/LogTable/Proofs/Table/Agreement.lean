import LogTable.Proofs.FileTree.Visits
import LogTable.Proofs.Table.Lockstep
import LogTable.Proofs.Table.Place
import LogTable.Proofs.Table.Reached

/-!
# Agreement at a table

Two trees agree at the table of a path if whoever goes there sees the same in both
(`Table.AgreeAt`): the same stands where the path leads by and at the paths below the place that
count, and files bar the same locations on the way to the twin.  What else there is may differ.  The
agreement is a lockstep (`Table.AgreeAt.isLockstep`), and trees that agree still do after the place
has been opened or removed in both (`Table.agreeFrom_placeForWriting_of_agreeAt`,
`Table.AgreeAt.removeDirectory`).  A reader on one side only keeps the agreement as well
(`Table.placeForReading_bind_respects`).
-/

namespace LogTable

open FileTree

namespace Table

variable {P : Location → Prop} {home : Location} {uri : String}
  {first second after after' : FileTree Content}

/-- The trees agree where a path leads by, at all paths with `P` below the place that it names, and
on which locations there are directories, and which on the way to the twin are files. -/
structure AgreeAt (P : Location → Prop) (home : Location) (uri : String)
    (first second : FileTree Content) : Prop where
  visited : ∀ l, Visits (pathStart home uri) (pathSteps uri) l → first.find? l = second.find? l
  below : ∀ path, P path →
    first.find? (locate home uri ++ path) = second.find? (locate home uri ++ path)
  isDirectory : ∀ path, first.isDirectory (locate home uri ++ path) =
    second.isDirectory (locate home uri ++ path)
  files : SameFiles (Passes [] (twin (locate home uri))) first second

/-- A path leads by directories only. -/
def IsPassable (home : Location) (uri : String) (tree : FileTree Content) : Prop :=
  ∀ l, Visits (pathStart home uri) (pathSteps uri) l → tree.find? l = some .directory

/-- Directories on the way to the twin make no difference at and below the place of a path that is
passable. -/
theorem IsPassable.find?_of_addsDirectories (h : IsPassable home uri first)
    (hadds : AddsDirectories first after (Passes [] (twin (locate home uri)))) (path : Location) :
    after.find? (locate home uri ++ path) = first.find? (locate home uri ++ path) := by
  rcases List.eq_nil_or_concat path with rfl | ⟨front, name, rfl⟩
  · have hplace := h _ (visits_locate home uri)
    rw [List.append_nil, hplace, hadds.kept hplace]
  · rw [List.concat_eq_append, ← List.append_assoc]
    exact hadds.find?_eq (not_passes_twin_append _ _ _)

/-- A path stays passable as long as no directory is lost. -/
theorem IsPassable.of_kept (h : IsPassable home uri first)
    (hkept : ∀ l, first.find? l = some .directory → after.find? l = some .directory) :
    IsPassable home uri after :=
  fun l hl => hkept l (h l hl)

namespace AgreeAt

protected theorem refl (tree : FileTree Content) : AgreeAt P home uri tree tree where
  visited _ _ := rfl
  below _ _ := rfl
  isDirectory _ := rfl
  files _ _ := Iff.rfl

/-- Trees that are changed alike still agree. -/
theorem of_changedAlike (h : AgreeAt P home uri first second)
    (hchange : ChangedAlike first second after after') : AgreeAt P home uri after after' where
  visited l hl := hchange.find?_eq (h.visited l hl)
  below path hpath := hchange.find?_eq (h.below path hpath)
  isDirectory path := by
    rcases hchange (locate home uri ++ path) with heq | ⟨hfirst, hsecond⟩
    · rw [FileTree.isDirectory, heq, FileTree.isDirectory]
    · have hbefore := h.isDirectory path
      rw [FileTree.isDirectory, FileTree.isDirectory] at hbefore ⊢
      rw [hfirst, hsecond, hbefore]
  files := h.files.of_changedAlike hchange

/-- Directories on the way to the twin of a place that is reached may be missing on the other
side. -/
theorem of_addsDirectories (h : AgreeAt P home uri first second)
    (hpassable : IsPassable home uri first)
    (hadds : AddsDirectories first after (Passes [] (twin (locate home uri)))) :
    AgreeAt P home uri after second where
  visited l hl := by
    have hfirst := hpassable l hl
    rw [hadds.kept hfirst, ← h.visited l hl, hfirst]
  below path hpath := by rw [hpassable.find?_of_addsDirectories hadds, h.below path hpath]
  isDirectory path := by
    rw [← h.isDirectory path, FileTree.isDirectory, hpassable.find?_of_addsDirectories hadds,
      FileTree.isDirectory]
  files := h.files.of_addsDirectories hadds

/-- A file at a path that does not count may be missing on the other side. -/
theorem of_put (h : AgreeAt P home uri first second) (hpassable : IsPassable home uri first)
    {path : Location} (hne : path ≠ []) (hpath : ¬ P path)
    (hfree : first.isDirectory (locate home uri ++ path) = false) (content : Content) :
    AgreeAt P home uri (first.put (locate home uri ++ path) (.file content)) second := by
  have hput : ∀ l, (first.put (locate home uri ++ path) (.file content)).find? l =
      if l = locate home uri ++ path then some (.file content) else first.find? l :=
    fun l => find?_put _ _ _ (by simp [hne])
  constructor
  · intro l hl
    have hdirectory := hpassable l hl
    have hother : l ≠ locate home uri ++ path := by
      rintro rfl
      rw [isDirectory_eq_true.mpr hdirectory] at hfree
      cases hfree
    rw [hput, if_neg hother, h.visited l hl]
  · intro other hother
    have hne' : locate home uri ++ other ≠ locate home uri ++ path := by
      intro heq
      exact hpath (List.append_cancel_left heq ▸ hother)
    rw [hput, if_neg hne', h.below other hother]
  · intro other
    rw [← h.isDirectory other]
    by_cases heq : locate home uri ++ other = locate home uri ++ path
    · rw [heq, hfree, FileTree.isDirectory, hput, if_pos rfl]
      rfl
    · rw [FileTree.isDirectory, hput, if_neg heq, FileTree.isDirectory]
  · intro l hl
    have hother : l ≠ locate home uri ++ path := by
      obtain ⟨front, name, rfl⟩ := (List.eq_nil_or_concat path).resolve_left hne
      rintro rfl
      rw [List.concat_eq_append, ← List.append_assoc] at hl
      exact not_passes_twin_append _ _ _ hl
    rw [hput, if_neg hother]
    exact h.files l hl

/-- If all paths count but those of checkpoint files, an agreement is a lockstep. -/
theorem isLockstep (hP : ∀ path, ¬ IsCheckpointFile path → P path) (home : Location)
    (uri : String) :
    IsLockstep (locate home uri) (AgreeAt P home uri) where
  find?_eq h path hpath := h.below path (hP path hpath)
  isDirectory_eq h path := h.isDirectory path
  put h path hne entry := h.of_changedAlike (.put _ _ (by simp [hne]) entry)

/-- The directories of the path are made alike. -/
theorem createDirectories (h : AgreeAt P home uri first second) :
    (first.createDirectories home uri).1 = (second.createDirectories home uri).1 ∧
      AgreeAt P home uri (first.createDirectories home uri).2
        (second.createDirectories home uri).2 := by
  obtain ⟨houtcome, hchange⟩ := createDirectories_congr h.visited
  exact ⟨houtcome, h.of_changedAlike hchange⟩

/-- The directory of the path is removed alike. -/
theorem removeDirectory (h : AgreeAt P home uri first second)
    (hlast : (fullNames uri).getLast? ≠ some "..") (hne : locate home uri ≠ []) :
    (first.removeDirectory home uri).1 = (second.removeDirectory home uri).1 ∧
      AgreeAt P home uri (first.removeDirectory home uri).2
        (second.removeDirectory home uri).2 := by
  obtain ⟨houtcome, hchange⟩ := removeDirectory_congr hlast hne h.visited
  exact ⟨houtcome, h.of_changedAlike hchange⟩

end AgreeAt

/-! ### Opening and removing on both sides -/

theorem alike_openStore_of_agreeAt (home : Location) (uri : String) :
    (openStore (locate home uri)).Alike (World.Related (AgreeAt P home uri))
      (openStore (locate home uri)) := by
  unfold openStore
  split_ifs
  · exact Run.alike_pure ()
  · refine Run.alike_tree_bind fun first second h => ?_
    have htop : ∀ l : Location, l <+: [] →
        first.find? l = some .directory ∧ second.find? l = some .directory := by
      intro l hl
      rw [List.prefix_nil.mp hl]
      exact ⟨find?_nil _, find?_nil _⟩
    obtain ⟨houtcome, hchange⟩ := makeDirectories_congr_of_files h.files htop
    refine (Run.alike_ofOutcome _ ⟨houtcome, h.of_changedAlike hchange⟩).bind fun _ => ?_
    exact Run.alike_pure ()

section Opening

variable {table : Table} {world world' : World}

/-- Writers get to the place alike. -/
theorem agreeFrom_placeForWriting_of_agreeAt
    (h : World.Related (AgreeAt P home table.uri) world world') (hhome : world.home = home) :
    table.placeForWriting.AgreeFrom (World.Related (AgreeAt P home table.uri))
      table.placeForWriting world world' := by
  unfold placeForWriting
  cases haddress : Address.ofUri table.uri with
  | store => exact Run.alike_throw _ h
  | unknown => exact Run.alike_throw _ h
  | directory path =>
    obtain rfl := eq_of_ofUri_eq_directory haddress
    have hmade := h.2.createDirectories
    refine agreeFrom_tree_bind (agreeFrom_home_bind ?_)
    rw [← h.1, hhome]
    refine (Run.alike_ofOutcome _ hmade h).bind fun place hplace => ?_
    obtain rfl : place = locate home table.uri := by
      cases hanswer : (world.tree.createDirectories home table.uri).1 with
      | error fault => simp [hanswer, Except.mapError] at hplace
      | ok l =>
        rw [Run.start_ofOutcome, hanswer] at hplace
        rw [← Except.ok.inj hplace, eq_locate_of_createDirectories hanswer]
    exact (alike_openStore_of_agreeAt home _).bind fun _ => Run.alike_pure _

/-- Readers get to the place alike. -/
theorem agreeFrom_placeForReading_of_agreeAt
    (h : World.Related (AgreeAt P home table.uri) world world') (hhome : world.home = home) :
    table.placeForReading.AgreeFrom (World.Related (AgreeAt P home table.uri))
      table.placeForReading world world' := by
  unfold placeForReading
  cases haddress : Address.ofUri table.uri with
  | store => exact Run.alike_throw _ h
  | unknown => exact Run.alike_throw _ h
  | directory path =>
    obtain rfl := eq_of_ofUri_eq_directory haddress
    have hresolve : world.tree.resolve home table.uri = world'.tree.resolve home table.uri :=
      resolve_congr h.2.visited
    refine agreeFrom_tree_bind (agreeFrom_home_bind ?_)
    rw [← h.1, hhome, hresolve]
    cases hplace : world'.tree.resolve home table.uri with
    | error fault => exact Run.alike_throw _ h
    | ok place =>
      obtain rfl := eq_locate_of_resolve hplace
      have hdirectory := h.2.isDirectory []
      rw [List.append_nil] at hdirectory
      simp only [hdirectory]
      split_ifs
      · exact Run.alike_throw_bind _ _ _ h
      · exact ((alike_openStore_of_agreeAt home _).bind fun _ => Run.alike_pure _) h

end Opening

/-- A run that gives the place opens it alike, if all paths count but those of checkpoint files, and
the same is read there. -/
theorem opensAlike_of_agreeAt (hP : ∀ path, ¬ IsCheckpointFile path → P path) {run : Run Location}
    {world world' : World}
    (h : run.AgreeFrom (World.Related (AgreeAt P home uri)) run world world')
    (hplace : ∀ place after, run.start world = (.ok place, after) → place = locate home uri)
    (hreads : ∀ after after', run.start world = (.ok (locate home uri), after) →
      run.start world' = (.ok (locate home uri), after') →
      World.Related (AgreeAt P home uri) after after' →
      ReadsAlike (locate home uri) (AgreeAt P home uri) after.tree after'.tree) :
    OpensAlike (AgreeAt P home uri) run world world' where
  agreeFrom := h
  isLockstep place after hrun := by
    obtain rfl := hplace place after hrun
    exact AgreeAt.isLockstep hP home uri
  readsAlike place after after' hrun hrun' hrelated := by
    obtain rfl := hplace place after hrun
    exact hreads after after' hrun hrun' hrelated

/-! ### Readers on one side -/

section OneSide

variable {table : Table} {world : World} {other : FileTree Content}

/-- Opening the store at a place that has been reached keeps an agreement with another tree. -/
theorem openStore_ensures_agreeAt (hhome : world.home = home)
    (hpassable : IsPassable home uri world.tree) (h : AgreeAt P home uri world.tree other) :
    (openStore (locate home uri)).Ensures world
      (fun _ after => after.home = home ∧ IsPassable home uri after.tree ∧
        AgreeAt P home uri after.tree other)
      fun _ after => after.home = home ∧ AgreeAt P home uri after.tree other := by
  have hadds := makeDirectories_addsDirectories world.tree [] (twin (locate home uri))
  have hafter := h.of_addsDirectories hpassable hadds
  unfold openStore
  split_ifs
  · exact Run.ensures_pure ⟨hhome, hpassable, h⟩
  · refine Run.ensures_bind (Run.ensures_tree (Run.ensures_bind (Run.ensures_ofOutcome ?_ ?_)))
    · intro l hl
      exact Run.ensures_pure ⟨hhome, hpassable.of_kept fun _ hl' => hadds.kept hl', hafter⟩
    · exact fun fault hfault => ⟨hhome, hafter⟩

/-- A reader keeps an agreement with another tree, and gets there by directories only. -/
theorem placeForReading_ensures_agreeAt (hhome : world.home = home)
    (h : AgreeAt P home table.uri world.tree other) :
    table.placeForReading.Ensures world
      (fun place after => place = locate home table.uri ∧ after.home = home ∧
        IsPassable home table.uri after.tree ∧ AgreeAt P home table.uri after.tree other)
      fun _ after => after.home = home ∧ AgreeAt P home table.uri after.tree other := by
  unfold placeForReading
  cases haddress : Address.ofUri table.uri with
  | store => exact Run.ensures_throw ⟨hhome, h⟩
  | unknown => exact Run.ensures_throw ⟨hhome, h⟩
  | directory path =>
    obtain rfl := eq_of_ofUri_eq_directory haddress
    refine Run.ensures_bind (Run.ensures_tree (Run.ensures_bind (Run.ensures_home ?_)))
    rw [hhome]
    cases hplace : world.tree.resolve home table.uri with
    | error fault => exact Run.ensures_throw ⟨hhome, h⟩
    | ok place =>
      obtain rfl := eq_locate_of_resolve hplace
      simp only
      split_ifs with hdirectory
      · exact Run.ensures_bind (Run.ensures_throw ⟨hhome, h⟩)
      · have hfind : world.tree.find? (locate home table.uri) = some .directory := by
          rw [← isDirectory_eq_true]
          simpa using hdirectory
        have hpassable : IsPassable home table.uri world.tree := by
          intro l hl
          exact find?_of_visits hplace hfind hl
        refine Run.ensures_bind ((openStore_ensures_agreeAt hhome hpassable h).mono ?_ ?_)
        · intro _ after hafter
          exact Run.ensures_pure ⟨rfl, hafter⟩
        · exact fun _ _ hafter => hafter

/-- What is done once a reader is there keeps an agreement, if it keeps agreements of trees in which
the path is passable. -/
theorem placeForReading_bind_respects {α : Type} {f : Location → Run α}
    (hf : (f (locate home table.uri)).Respects (Stays home fun tree =>
      IsPassable home table.uri tree ∧ AgreeAt P home table.uri tree other)) :
    (table.placeForReading >>= f).Respects
      (Stays home fun tree => AgreeAt P home table.uri tree other) := by
  refine Run.respects_of_ensures fun world => ?_
  by_cases hworld : world.home = home ∧ AgreeAt P home table.uri world.tree other
  · obtain ⟨hhome, hagree⟩ := hworld
    refine Run.ensures_bind ((placeForReading_ensures_agreeAt hhome hagree).mono ?_ ?_)
    · rintro place opened ⟨rfl, hopened⟩
      refine (hf.ensures opened).mono ?_ ?_
      all_goals
        intro _ after hafter _ _
        obtain ⟨hhome', -, hagree'⟩ := hafter hopened.1 hopened.2
        exact ⟨hhome', hagree'⟩
    · exact fun _ after hafter _ _ => hafter
  · refine (Run.ensures_true _ _).mono ?_ ?_
    all_goals
      intro _ after _ hhome hagree
      exact absurd ⟨hhome, hagree⟩ hworld

/-- Taking the snapshot changes nothing. -/
theorem snapshotAt_respects {R : World → World → Prop} (hR : IsEvolution R) (place : Location) :
    (snapshotAt place).Respects R := by
  refine Run.respects_of_ensures fun world => (snapshotAt_ensures place world).mono ?_ ?_
  · rintro _ after ⟨rfl, -⟩
    exact hR.refl _
  · rintro _ after ⟨rfl, -⟩
    exact hR.refl _

/-- Replacing a file at a path that does not count keeps an agreement. -/
theorem replaceFile_respects {path : Location} (hne : path ≠ []) (hpath : ¬ P path)
    (content : Content) :
    (replaceFile (locate home uri ++ path) content).Respects (Stays home fun tree =>
      IsPassable home uri tree ∧ AgreeAt P home uri tree other) := by
  refine Run.respects_stays fun world _ hworld => ?_
  refine (replaceFile_ensures (locate home uri ++ path) content world).mono ?_ ?_
  · rintro _ after ⟨hfree, rfl⟩
    refine ⟨rfl, ?_, hworld.2.of_put hworld.1 hne hpath hfree content⟩
    exact hworld.1.of_kept fun l hl => find?_put_of_directory hfree hl
  · rintro _ after ⟨-, -, rfl⟩
    exact ⟨rfl, hworld⟩

end OneSide

end Table

end LogTable
