import LogTable.Proofs.Evolution
import LogTable.Proofs.Table.Effects

/-!
# Containment

A run on a table stays inside of the directory of the table.  `FileTree.Confined` compares two
trees outside of a location, and `StaysWithin` is the evolution that changes nothing outside of
the place of a table but for directories on the way.  Each operation respects it
(`Operations.respect_staysWithin`).  Main statement: `contained`, for every step and every
scenario, whatever its texts are and however it ends.
-/

namespace LogTable

open FileTree Predicate

namespace FileTree

variable {α : Type} {before middle after tree : FileTree α} {top : Location}
  {outside : Location → Prop}

/-- `after` differs from `before` at and below `top`, where only plain names come into being, and by
further directories `outside`. -/
structure Confined (top : Location) (outside : Location → Prop) (before after : FileTree α) :
    Prop where
  kept : ∀ {l e}, ¬ top <+: l → before.find? l = some e → after.find? l = some e
  added : ∀ {l e}, ¬ top <+: l → before.find? l = none → after.find? l = some e →
    e = .directory ∧ outside l
  named : ∀ {front name e}, before.find? (top ++ front ++ [name]) = none →
    after.find? (top ++ front ++ [name]) = some e → IsPlainName name

namespace Confined

protected theorem refl (tree : FileTree α) : Confined top outside tree tree where
  kept _ h := h
  added _ hnone hsome := by simp [hnone] at hsome
  named hnone hsome := absurd (hnone.symm.trans hsome) nofun

protected theorem trans (h : Confined top outside before middle)
    (h' : Confined top outside middle after) : Confined top outside before after where
  kept hl hsome := h'.kept hl (h.kept hl hsome)
  added {l e} hl hnone hsome := by
    cases hmiddle : middle.find? l with
    | none => exact h'.added hl hmiddle hsome
    | some entry =>
      obtain rfl : entry = e := Option.some.inj ((h'.kept hl hmiddle).symm.trans hsome)
      exact h.added hl hnone hmiddle
  named {front name e} hnone hsome := by
    cases hmiddle : middle.find? (top ++ front ++ [name]) with
    | none => exact h'.named hmiddle hsome
    | some entry => exact h.named hnone hmiddle

theorem mono {outside' : Location → Prop} (h : Confined top outside before after)
    (himp : ∀ l, ¬ top <+: l → outside l → outside' l) : Confined top outside' before after where
  kept := h.kept
  added hl hnone hsome := ⟨(h.added hl hnone hsome).1, himp _ hl (h.added hl hnone hsome).2⟩
  named := h.named

/-- Putting an entry with a plain name below `top`. -/
theorem put {rest : Location} {name : String} (hname : IsPlainName name) (tree : FileTree α)
    (entry : Entry α) : Confined top outside tree (tree.put (top ++ rest ++ [name]) entry) := by
  have hne : top ++ rest ++ [name] ≠ [] := by simp
  have hprefix : top <+: top ++ rest ++ [name] := by
    rw [List.append_assoc]
    exact List.prefix_append _ _
  have hother : ∀ l, ¬ top <+: l →
      (tree.put (top ++ rest ++ [name]) entry).find? l = tree.find? l := by
    intro l hl
    have hl' : l ≠ top ++ rest ++ [name] := fun h => hl (by rw [h]; exact hprefix)
    rw [find?_put _ _ _ hne, if_neg hl']
  refine ⟨fun hl hsome => (hother _ hl).trans hsome, fun hl hnone hsome => ?_,
    fun {front name' e} hnone hsome => ?_⟩
  · rw [hother _ hl, hnone] at hsome
    cases hsome
  · rw [find?_put _ _ _ hne] at hsome
    split_ifs at hsome with heq
    · obtain ⟨-, hlast⟩ := List.append_inj' heq rfl
      exact List.singleton_inj.mp hlast ▸ hname
    · exact absurd (hnone.symm.trans hsome) nofun

/-- Removing what lies below `top`, or `top` as well. -/
theorem of_find?_eq (h : ∀ l, ¬ top <+: l → after.find? l = before.find? l)
    (hbelow : ∀ l e, after.find? l = some e → before.find? l = some e) :
    Confined top outside before after where
  kept hl hsome := (h _ hl).trans hsome
  added _ hnone hsome := absurd (hnone.symm.trans (hbelow _ _ hsome)) nofun
  named hnone hsome := absurd (hnone.symm.trans (hbelow _ _ hsome)) nofun

theorem removeBelow (tree : FileTree α) (top : Location) :
    Confined top outside tree (tree.removeBelow top) := by
  refine of_find?_eq (fun l hl => ?_) fun l e hsome => ?_
  · rw [find?_removeBelow, if_neg]
    simp [isBelow, hl]
  · rw [find?_removeBelow] at hsome
    split_ifs at hsome
    exact hsome

theorem remove (tree : FileTree α) {top : Location} (hne : top ≠ []) :
    Confined top outside tree (tree.remove top) := by
  refine of_find?_eq (fun l hl => ?_) fun l e hsome => ?_
  · rw [find?_remove _ _ hne, if_neg]
    simpa using hl
  · rw [find?_remove _ _ hne] at hsome
    split_ifs at hsome
    exact hsome

/-- Removing the directory at a path is confined to the location of the path. -/
theorem removeDirectory (tree : FileTree α) (home : Location) (path : String)
    (hne : locate home path ≠ []) :
    Confined (locate home path) outside tree (tree.removeDirectory home path).2 := by
  unfold FileTree.removeDirectory
  cases hresolve : tree.resolve home path with
  | error fault => exact .refl tree
  | ok location =>
    obtain rfl := eq_locate_of_resolve hresolve
    have hbelow : Confined (locate home path) outside tree
        (tree.removeBelow (locate home path)) := .removeBelow tree _
    simp only
    split_ifs
    · exact .refl tree
    · split
      · exact hbelow
      · exact hbelow
      · split <;> exact hbelow
      · exact hbelow.trans (.remove _ hne)

end Confined

end FileTree

/-- A growth is confined to the place. -/
theorem Growth.confined {place : Location} {onTheWay : Location → Prop}
    {before after : FileTree Content} (h : Growth place onTheWay before after) :
    Confined place onTheWay before after where
  kept _ hsome := h.kept hsome
  added hl hnone hsome := by
    rcases h.added hnone hsome with ⟨hentry, hway | hprefix⟩ | ⟨path, rows, rfl, -, -⟩
    · exact ⟨hentry, hway⟩
    · exact absurd hprefix hl
    · exact absurd (List.prefix_append _ _) hl
  named := h.named

/-- A version is confined to the place. -/
theorem Writes.confined {place : Location} {onTheWay : Location → Prop} {version : Nat}
    {groups : List (PartitionValues × List Row)} {files : List DataFile} {actions : List Action}
    {before after : FileTree Content}
    (h : Writes place onTheWay version groups files actions before after) :
    Confined place onTheWay before after := by
  obtain ⟨middle, hgrowth, -, hcommitted⟩ := h.exists_growth
  rw [hcommitted.eq_put]
  exact hgrowth.confined.trans
    (.put (Log.isPlainName_versionText_append version (by decide)) middle _)

/-! ### Runs -/

/-- The home is kept, and from there nothing is changed outside of the place but for directories
on the way. -/
def StaysWithin (home place : Location) (onTheWay : Location → Prop) (world after : World) : Prop :=
  world.home = home → after.home = home ∧ Confined place onTheWay world.tree after.tree

theorem isEvolution_staysWithin (home place : Location) (onTheWay : Location → Prop) :
    IsEvolution (StaysWithin home place onTheWay) where
  refl world hworld := ⟨hworld, .refl world.tree⟩
  trans h h' hworld := ⟨(h' (h hworld).1).1, (h hworld).2.trans (h' (h hworld).1).2⟩
  record world _ hworld := ⟨hworld, .refl world.tree⟩

/-- Changes that are confined stay within the place. -/
theorem World.Changes.staysWithin {events : List Event}
    {change : FileTree Content → FileTree Content → Prop} {home place : Location}
    {onTheWay : Location → Prop} {world after : World} (h : world.Changes events change after)
    (hconfined : Confined place onTheWay world.tree after.tree) :
    StaysWithin home place onTheWay world after :=
  fun hworld => ⟨h.home.trans hworld, hconfined⟩

namespace Table

/-- Writing a checkpoint is confined to the place. -/
theorem Checkpointed.confined {place : Location} {onTheWay : Location → Prop} {snapshot : Snapshot}
    {pointed : Bool} {before after : FileTree Content}
    (h : Checkpointed place onTheWay snapshot pointed before after) :
    Confined place onTheWay before after := by
  obtain ⟨-, -, -, middle, ⟨hgrowth, -⟩, rfl⟩ := h
  have hwritten : Confined place onTheWay before
      (middle.put (Log.checkpointPath place snapshot.version) (.file (.checkpoint snapshot))) :=
    hgrowth.confined.trans
      (.put (Log.isPlainName_versionText_append snapshot.version (by decide)) middle _)
  cases pointed with
  | false => exact hwritten
  | true => exact hwritten.trans (.put (isPlainName_of_cons rfl (by decide) (by decide)) _ _)

variable (table : Table) (world : World)

theorem append_ensures_confined (rows : List Row) (partitionBy : List String) :
    (table.append rows partitionBy).Ensures world
      (fun _ after => StaysWithin world.home (locate world.home table.uri)
        (OnTheWay world.home table.uri) world after)
      fun _ after => StaysWithin world.home (locate world.home table.uri)
        (OnTheWay world.home table.uri) world after := by
  refine (append_ensures table rows partitionBy world).mono ?_ ?_
  · rintro version after ⟨hchanges, -⟩
    obtain ⟨_, _, _, -, hwrites, -⟩ := hchanges.tree
    exact hchanges.staysWithin hwrites.confined
  · intro _ after hchanges
    rcases hchanges.tree with hgrowth | ⟨_, _, _, _, -, hwrites, -⟩
    · exact hchanges.staysWithin hgrowth.confined
    · exact hchanges.staysWithin hwrites.confined

theorem delete_ensures_confined [Engine] (predicate : String) :
    (table.delete predicate).Ensures world
      (fun _ after => StaysWithin world.home (locate world.home table.uri)
        (OnTheWay world.home table.uri) world after)
      fun _ after => StaysWithin world.home (locate world.home table.uri)
        (OnTheWay world.home table.uri) world after := by
  refine (delete_ensures table predicate world).mono ?_ ?_
  · rintro outcome after ⟨hchanges, -⟩
    obtain ⟨_, _, _, _, -, -, -, -, -, ⟨-, -, hgrowth⟩ | ⟨-, -, _, hwrites⟩⟩ := hchanges.tree
    · exact hchanges.staysWithin hgrowth.confined
    · exact hchanges.staysWithin hwrites.confined
  · intro _ after hchanges
    exact hchanges.staysWithin hchanges.tree.confined

theorem checkpoint_ensures_confined :
    table.checkpoint.Ensures world
      (fun _ after => StaysWithin world.home (locate world.home table.uri)
        (OnTheWay world.home table.uri) world after)
      fun _ after => StaysWithin world.home (locate world.home table.uri)
        (OnTheWay world.home table.uri) world after := by
  refine (checkpoint_ensures table world).mono ?_ ?_
  · rintro version after ⟨_, -, hchanges, -⟩
    exact hchanges.staysWithin hchanges.tree.confined
  · rintro _ after ⟨hchanges, -⟩
    rcases hchanges.tree with ⟨hgrowth, -⟩ | ⟨_, hcheckpointed⟩
    · exact hchanges.staysWithin hgrowth.confined
    · exact hchanges.staysWithin hcheckpointed.confined

theorem scan_ensures_confined :
    table.scan.Ensures world
      (fun _ after => StaysWithin world.home (locate world.home table.uri)
        (OnTheWay world.home table.uri) world after)
      fun _ after => StaysWithin world.home (locate world.home table.uri)
        (OnTheWay world.home table.uri) world after := by
  refine (scan_ensures table world).mono ?_ ?_
  · rintro _ after ⟨hchanges, -⟩
    exact hchanges.staysWithin hchanges.tree.1.confined
  · rintro _ after ⟨hchanges, -⟩
    exact hchanges.staysWithin hchanges.tree.1.confined

end Table

/-- Removing a table stays within its place. -/
theorem StorageMode.resetLocal_ensures_confined (storage : StorageMode) {path : String}
    {world : World} (hne : locate world.home path ≠ []) (onTheWay : Location → Prop) :
    (storage.resetLocal path).Ensures world
      (fun _ after => StaysWithin world.home (locate world.home path) onTheWay world after)
      fun _ after => StaysWithin world.home (locate world.home path) onTheWay world after := by
  have hconfined : Confined (locate world.home path) onTheWay world.tree
      (world.tree.removeDirectory world.home path).2 := .removeDirectory _ _ _ hne
  unfold resetLocal
  split_ifs
  · exact Run.ensures_pure fun _ => ⟨rfl, .refl world.tree⟩
  · refine Run.ensures_bind (Run.ensures_tree (Run.ensures_bind (Run.ensures_home ?_)))
    generalize world.tree.removeDirectory world.home path = removed at hconfined
    obtain ⟨outcome, tree⟩ := removed
    refine Run.ensures_bind (Run.ensures_setTree ?_)
    split
    · exact Run.ensures_bind (Run.ensures_record (Run.ensures_pure fun _ => ⟨rfl, hconfined⟩))
    · exact Run.ensures_pure fun _ => ⟨rfl, hconfined⟩
    · exact Run.ensures_throw fun _ => ⟨rfl, hconfined⟩

/-- A run whose worlds have some home only has to stay within the place when it starts there. -/
theorem Run.respects_staysWithin {α : Type} {run : Run α} {home place : Location}
    {onTheWay : Location → Prop}
    (h : ∀ world : World, world.home = home → run.Ensures world
      (fun _ after => StaysWithin home place onTheWay world after)
      fun _ after => StaysWithin home place onTheWay world after) :
    run.Respects (StaysWithin home place onTheWay) :=
  fun world hworld => (h world hworld).after hworld

/-- The operations on the table at an address stay within the place that the address names. -/
theorem Operations.respect_staysWithin [Engine] (storage : StorageMode) (home : Location)
    {uri : String} (hne : locate home uri ≠ []) :
    Respect (StaysWithin home (locate home uri) (Table.OnTheWay home uri)) storage uri where
  evolution := isEvolution_staysWithin _ _ _
  append rows partitionBy := Run.respects_staysWithin fun world hworld => by
    subst hworld
    exact Table.append_ensures_confined ⟨uri⟩ world rows partitionBy
  delete predicate := Run.respects_staysWithin fun world hworld => by
    subst hworld
    exact Table.delete_ensures_confined ⟨uri⟩ world predicate
  checkpoint := Run.respects_staysWithin fun world hworld => by
    subst hworld
    exact Table.checkpoint_ensures_confined ⟨uri⟩ world
  scan := Run.respects_staysWithin fun world hworld => by
    subst hworld
    exact Table.scan_ensures_confined ⟨uri⟩ world
  resetLocal := Run.respects_staysWithin fun world hworld => by
    subst hworld
    exact storage.resetLocal_ensures_confined hne _

/-! ### Names without a local address -/

/-- The address of a table in an object store is not one of files. -/
theorem Address.ofUri_objectStore (path : String) : ofUri ("s3://" ++ path) = .store := by
  have hlist : ("s3://" ++ path).toList = 's' :: '3' :: ':' :: '/' :: '/' :: path.toList := by
    rw [String.toList_append]
    rfl
  have hkind : kind? ("s3://" ++ path) = some "s3" := by
    unfold kind?
    rw [hlist]
    simp [isKindCharacter]
  rw [ofUri, hkind]
  rfl

/-- The files stay as they are. -/
def LeavesFiles (world after : World) : Prop :=
  after.tree = world.tree

theorem isEvolution_leavesFiles : IsEvolution LeavesFiles where
  refl _ := rfl
  trans h h' := Eq.trans h' h
  record _ _ := rfl

/-- The operations on a table in an object store leave the files as they are. -/
theorem Operations.respect_leavesFiles [Engine] (store : ObjectStore) {uri : String}
    (h : Address.ofUri uri = .store) : Respect LeavesFiles (.objectStore store) uri := by
  have hwriting : Table.placeForWriting ⟨uri⟩ = throw (.table .opening) := by
    rw [Table.placeForWriting, h]
  have hreading : Table.placeForReading ⟨uri⟩ = throw (.table .opening) := by
    rw [Table.placeForReading, h]
  refine ⟨isEvolution_leavesFiles, fun rows partitionBy => ?_, fun predicate => ?_, ?_, ?_,
    fun _ => rfl⟩
  · rw [Table.append, hwriting]
    exact fun _ => rfl
  · rw [Table.delete, hwriting]
    exact fun _ => rfl
  · rw [Table.checkpoint, hreading]
    exact fun _ => rfl
  · rw [Table.scan, hreading]
    exact fun _ => rfl

/-- The address of an accepted name in an object store is one of a store. -/
theorem StorageMode.ofUri_of_tableUri {store : ObjectStore} {name root uri : String}
    (h : (objectStore store).tableUri name root = .ok uri) : Address.ofUri uri = .store := by
  unfold tableUri at h
  simp only at h
  split_ifs at h
  rw [← Except.ok.inj h, String.append_assoc, String.append_assoc, String.append_assoc]
  exact Address.ofUri_objectStore _

/-! ### The containment of runs -/

/-- What a run on the table of a name may have done to the files.  Without a local address: nothing.
Otherwise it may have changed what lies at and below one child of the root, where all new names are
plain, and added directories on the way to that child and to its twin. -/
structure Contained (storage : StorageMode) (name root : String) (before after : World) : Prop where
  rejected : ∀ fault, storage.tableUri name root = .error fault → after.tree = before.tree
  remote : ∀ store, storage = .objectStore store → after.tree = before.tree
  inside : ∀ uri, storage = .localFiles → storage.tableUri name root = .ok uri →
    ∃ segment, plainSegment? (trimSlashes name) = some segment ∧
      Confined (locate before.home root ++ [segment])
        (fun l => Passes (pathStart before.home root) (pathSteps root) l ∨
          Passes [] (Table.twin (locate before.home root ++ [segment])) l)
        before.tree after.tree

/-- A run is contained if it is so in each of the cases that the address of the table can have. -/
theorem contained_of_cases [Engine] {α : Type} {run : Run α} {storage : StorageMode}
    {name root : String} {world : World}
    (hrejected : ∀ fault, storage.tableUri name root = .error fault → run.Respects LeavesFiles)
    (hrun : ∀ R uri, storage.tableUri name root = .ok uri → Operations.Respect R storage uri →
      run.Respects R) :
    Contained storage name root world (run.start world).2 where
  rejected fault h := hrejected fault h world
  remote store hstorage := by
    cases huri : storage.tableUri name root with
    | error fault => exact hrejected fault huri world
    | ok uri =>
      subst hstorage
      exact hrun _ uri huri (Operations.respect_leavesFiles store
        (StorageMode.ofUri_of_tableUri huri)) world
  inside uri hstorage huri := by
    subst hstorage
    obtain ⟨segment, hsegment, -, hstart, hsteps⟩ :=
      StorageMode.pathSteps_of_tableUri huri world.home
    obtain ⟨segment', hsegment', -, hlocate⟩ := StorageMode.locate_of_tableUri huri world.home
    obtain rfl : segment' = segment := Option.some.inj (hsegment'.symm.trans hsegment)
    have hne : locate world.home uri ≠ [] := by simp [hlocate]
    obtain ⟨-, hconfined⟩ :=
      hrun _ uri huri (Operations.respect_staysWithin .localFiles world.home hne) world rfl
    refine ⟨segment', hsegment, ?_⟩
    rw [hlocate] at hconfined
    refine hconfined.mono ?_
    rintro l hl (hway | ⟨-, htwin⟩)
    · rw [hstart, hsteps] at hway
      rcases passes_append_singleton hway with hroot | rfl
      · exact Or.inl hroot
      · exact absurd (List.prefix_refl _) hl
    · rw [hlocate] at htwin
      exact Or.inr htwin

/-- Every step and every scenario stays inside of the directory of its table, whatever the name, the
root and the other texts are, whatever the machine holds, and whether it succeeds or fails. -/
theorem contained [Engine] :
    (∀ (step : Step) (storage : StorageMode) (name root : String) (world : World),
      Contained storage name root world ((step.run storage name root).start world).2) ∧
    ∀ (scenario : Scenario) (storage : StorageMode) (clock : Clock) (world : World),
      Contained storage scenario.table scenario.localRoot world
        ((scenario.run storage clock).start world).2 := by
  constructor
  · intro step storage name root world
    refine contained_of_cases (fun fault huri => ?_) fun R uri huri hrespect => ?_
    · rw [Step.run, huri]
      exact fun _ => rfl
    · rw [Step.run, huri, Except.mapError, Run.ofExcept_ok, pure_bind]
      exact step.respects_runAt hrespect
  · intro scenario storage clock world
    refine contained_of_cases (fun fault huri => ?_) fun R uri huri hrespect => ?_
    · rw [Scenario.run, huri]
      exact fun _ => rfl
    · exact scenario.respects_run hrespect clock huri

end LogTable
