import LogTable.Proofs.FileTree.Location
import Mathlib.Data.List.DropRight
import Mathlib.Tactic.Set

/-!
# Accepted table names

A name is accepted if, without the slashes around it, it consists of one plain segment.  Main
statement: the address of an accepted name below a local root leads where the root leads and then
to that segment (`pathSteps_of_tableUri`, `locate_of_tableUri`), whatever dots and slashes the name
and the root are written with.
-/

namespace LogTable

open FileTree

/-- A name that stands for itself in a path: it is not empty, no dots, and has no slash. -/
def IsPlainName (name : String) : Prop :=
  name ≠ "" ∧ name ≠ "." ∧ name ≠ ".." ∧ '/' ∉ name.toList

/-- What lies between separators holds no separator. -/
theorem not_mem_of_mem_splitOn {a : Char} {cs segment : List Char} (h : segment ∈ cs.splitOn a) :
    a ∉ segment := by
  induction cs generalizing segment with
  | nil =>
    simp only [List.splitOn_nil, List.mem_singleton] at h
    simp [h]
  | cons c cs ih =>
    rw [List.splitOn_cons_eq_if_modifyHead] at h
    split_ifs at h with hc
    · rcases List.mem_cons.mp h with rfl | h
      · simp
      · exact ih h
    · obtain ⟨first, rest, heq⟩ := List.exists_cons_of_ne_nil (List.splitOn_ne_nil a cs)
      rw [heq, List.modifyHead_cons] at h
      rw [heq] at ih
      rcases List.mem_cons.mp h with rfl | h
      · rw [List.mem_cons, not_or]
        exact ⟨fun hac => hc (by simp [hac]), ih List.mem_cons_self⟩
      · exact ih (List.mem_cons_of_mem _ h)

/-- A step of a path that does not go up is a plain name. -/
theorem isPlainName_of_mem_pathSteps {path name : String} (h : name ∈ pathSteps path)
    (hup : name ≠ "..") : IsPlainName name := by
  obtain ⟨hempty, hdot⟩ := ne_of_mem_pathSteps h
  refine ⟨hempty, hdot, hup, ?_⟩
  simp only [pathSteps, fullNames, pathNames, List.mem_filter, List.mem_map] at h
  obtain ⟨⟨⟨segment, hmem, rfl⟩, -⟩, -⟩ := h
  rw [String.toList_ofList]
  exact not_mem_of_mem_splitOn hmem

/-- The names of a path with a slash in it are those in front of the slash and those behind it. -/
theorem pathNames_append_slash (first second : String) :
    pathNames (first ++ "/" ++ second) = pathNames first ++ pathNames second := by
  have hsplit : PathPart.segments (first ++ "/" ++ second) =
      PathPart.segments first ++ PathPart.segments second := by
    simp only [PathPart.segments, String.toList_append]
    rw [List.append_assoc]
    exact List.splitOn_append_cons_self _ _
  simp only [pathNames, hsplit, List.map_append]

theorem fullNames_append_slash (first second : String) :
    fullNames (first ++ "/" ++ second) = fullNames first ++ fullNames second := by
  simp only [fullNames, pathNames_append_slash, List.filter_append]

@[simp] theorem fullNames_empty : fullNames "" = [] := by
  simp [fullNames, pathNames, PathPart.segments]

@[simp] theorem pathSteps_empty : pathSteps "" = [] := by
  simp [pathSteps]

theorem pathNames_ne_nil (path : String) : pathNames path ≠ [] := by
  simp [pathNames, PathPart.segments]

/-- A text without slashes is the only name of its path. -/
theorem pathNames_of_not_mem {name : String} (hslash : '/' ∉ name.toList) :
    pathNames name = [name] := by
  have hsegments : PathPart.segments name = [name.toList] := List.splitOn_eq_singleton hslash
  simp [pathNames, hsegments]

theorem fullNames_of_not_mem {name : String} (hslash : '/' ∉ name.toList) (hne : name ≠ "") :
    fullNames name = [name] := by
  simp [fullNames, pathNames_of_not_mem hslash, hne]

namespace PathPart

/-- The part that a name between slashes stands for, if it stands for one. -/
def ofName (name : String) : PathPart :=
  if name = ".." then up else plain name

/-- The parts of a path behind its front are its steps. -/
theorem filterMap_ofSegment? (path : String) :
    (segments path).filterMap ofSegment? = (pathSteps path).map ofName := by
  unfold pathSteps fullNames pathNames
  induction segments path with
  | nil => rfl
  | cons segment rest ih =>
    rw [List.filterMap_cons, ih, List.map_cons]
    have hempty : String.ofList segment = "" ↔ segment = [] := String.ofList_eq_empty_iff
    have hdot : String.ofList segment = "." ↔ segment = ['.'] := by
      rw [← String.toList_inj, String.toList_ofList]
      rfl
    have hup : String.ofList segment = ".." ↔ segment = ['.', '.'] := by
      rw [← String.toList_inj, String.toList_ofList]
      rfl
    unfold ofSegment?
    by_cases h1 : segment = []
    · simp [h1]
    by_cases h2 : segment = ['.']
    · simp [h2]
    by_cases h3 : segment = ['.', '.']
    · simp [h3, ofName]
    · simp [h1, h2, h3, hempty, hdot, hup, ofName]

end PathPart

/-- A path of one plain part has that part as its only step. -/
theorem pathSteps_of_plainSegment? {path segment : String} (h : plainSegment? path = some segment) :
    pathSteps path = [segment] ∧ IsPlainName segment := by
  have hparts : PathPart.ofText path = [.plain segment] := by
    unfold plainSegment? at h
    split at h
    · rename_i heq
      rw [heq, Option.some.inj h]
    · cases h
  have hrest : (PathPart.segments path).filterMap PathPart.ofSegment? = [.plain segment] := by
    unfold PathPart.ofText at hparts
    split at hparts
    · cases hparts
    · cases hparts
    · exact hparts
  rw [PathPart.filterMap_ofSegment?] at hrest
  obtain ⟨name, hsteps, hname⟩ := List.map_eq_singleton_iff.mp hrest
  unfold PathPart.ofName at hname
  split_ifs at hname with hup
  obtain rfl := PathPart.plain.inj hname
  exact ⟨hsteps, isPlainName_of_mem_pathSteps (hsteps ▸ List.mem_singleton_self name) hup⟩

/-- No slash is left in front of a trimmed name. -/
theorem head?_trimSlashes (name : String) : (trimSlashes name).toList.head? ≠ some '/' := by
  unfold trimSlashes
  rw [String.toList_ofList]
  set front := name.toList.dropWhile (· == '/') with hfront
  intro hhead
  have hprefix : (front.reverse.dropWhile (· == '/')).reverse <+: front :=
    List.rdropWhile_prefix (· == '/') front
  obtain ⟨rest, hrest⟩ := List.head?_eq_some_iff.mp hhead
  rw [hrest] at hprefix
  obtain ⟨more, hmore⟩ := hprefix
  have hnot := List.head?_dropWhile_not (· == '/') name.toList
  rw [← hfront, ← hmore] at hnot
  simp at hnot

/-- The path of a name below a root has the names of the root and then those of the name. -/
theorem fullNames_joinPath {root name : String} (hname : name.toList.head? ≠ some '/') :
    fullNames (joinPath root name ++ "/") = fullNames root ++ fullNames name := by
  have hend : ∀ path : String, fullNames (path ++ "/") = fullNames path := fun path => by
    rw [← String.append_empty (s := path ++ "/"), fullNames_append_slash, fullNames_empty,
      List.append_nil]
  unfold joinPath
  rw [if_neg hname, hend]
  split_ifs with hroot hslash
  · simp [hroot]
  · -- the root ends in a slash, which parts it from the name
    obtain ⟨front, hfront⟩ := List.getLast?_eq_some_iff.mp hslash
    obtain rfl : root = String.ofList front ++ "/" := by
      rw [← String.toList_inj, hfront, String.toList_append, String.toList_ofList]
      rfl
    rw [fullNames_append_slash, hend]
  · exact fullNames_append_slash root name

/-- The path of a name below a root takes the steps of the root and then those of the name. -/
theorem pathSteps_joinPath {root name : String} (hname : name.toList.head? ≠ some '/') :
    pathSteps (joinPath root name ++ "/") = pathSteps root ++ pathSteps name := by
  simp only [pathSteps, fullNames_joinPath hname, List.filter_append]

/-- The path of a name below a root starts where the root starts. -/
theorem pathStart_joinPath {root name : String} (home : Location)
    (hname : name.toList.head? ≠ some '/') (hne : name ≠ "") :
    pathStart home (joinPath root name ++ "/") = pathStart home root := by
  have hhead : ∀ first second : String, first ≠ "" →
      (first ++ second).toList.head? = first.toList.head? := by
    intro first second hfirst
    rw [String.toList_append, List.head?_append_of_ne_nil]
    simpa using hfirst
  unfold pathStart joinPath
  rw [if_neg hname]
  by_cases hroot : root = ""
  · rw [if_pos hroot, hhead name "/" hne, if_neg hname, hroot]
    rfl
  by_cases hslash : root.toList.getLast? = some '/'
  · rw [if_neg hroot, if_pos hslash, String.append_assoc, hhead root _ hroot]
  · rw [if_neg hroot, if_neg hslash, String.append_assoc, String.append_assoc,
      hhead root _ hroot]

namespace StorageMode

/-- The address of an accepted name is its path below the root, with a slash at the end. -/
theorem tableUri_localFiles_eq_ok_iff {name root uri : String} :
    localFiles.tableUri name root = .ok uri ↔
      (plainSegment? (trimSlashes name)).isSome ∧
        uri = joinPath root (trimSlashes name) ++ "/" := by
  unfold tableUri
  have hempty : trimSlashes name = "" → plainSegment? (trimSlashes name) = none := fun h => by
    rw [h]
    rfl
  simp only [Option.isNone_iff_eq_none, Option.isSome_iff_ne_none]
  split_ifs with h1 h2
  · simp [hempty h1]
  · simp [h2]
  · simp [h2, eq_comm]

/-- The address of an accepted name leads where the root leads and then to its segment. -/
theorem pathSteps_of_tableUri {name root uri : String}
    (h : localFiles.tableUri name root = .ok uri) (home : Location) :
    ∃ segment, plainSegment? (trimSlashes name) = some segment ∧ IsPlainName segment ∧
      pathStart home uri = pathStart home root ∧ pathSteps uri = pathSteps root ++ [segment] := by
  obtain ⟨hsome, rfl⟩ := tableUri_localFiles_eq_ok_iff.mp h
  obtain ⟨segment, hsegment⟩ := Option.isSome_iff_exists.mp hsome
  obtain ⟨hsteps, hplain⟩ := pathSteps_of_plainSegment? hsegment
  have hhead := head?_trimSlashes name
  have hne : trimSlashes name ≠ "" := fun hempty => by simp [hempty] at hsteps
  exact ⟨segment, hsegment, hplain, pathStart_joinPath home hhead hne,
    (pathSteps_joinPath hhead).trans (by rw [hsteps])⟩

/-- The place of a table with an accepted name is a child of the location of the root. -/
theorem locate_of_tableUri {name root uri : String} (h : localFiles.tableUri name root = .ok uri)
    (home : Location) :
    ∃ segment, plainSegment? (trimSlashes name) = some segment ∧ IsPlainName segment ∧
      locate home uri = locate home root ++ [segment] := by
  obtain ⟨segment, hsegment, hplain, hstart, hsteps⟩ := pathSteps_of_tableUri h home
  refine ⟨segment, hsegment, hplain, ?_⟩
  rw [locate, hstart, hsteps, follow_append, follow_cons, follow_nil, enter_of_ne hplain.2.2.1]
  rfl

/-- The place of a table with an accepted name is not the top. -/
theorem locate_ne_nil_of_tableUri {name root uri : String}
    (h : localFiles.tableUri name root = .ok uri) (home : Location) : locate home uri ≠ [] := by
  obtain ⟨segment, -, -, hlocate⟩ := locate_of_tableUri h home
  simp [hlocate]

/-- The address of an accepted name is not empty. -/
theorem ne_empty_of_tableUri {name root uri : String}
    (h : localFiles.tableUri name root = .ok uri) : uri ≠ "" := by
  rintro rfl
  obtain ⟨segment, -, -, -, hsteps⟩ := pathSteps_of_tableUri h []
  simp at hsteps

/-- The address of an accepted name does not end in two dots. -/
theorem getLast?_fullNames_ne_up {name root uri : String}
    (h : localFiles.tableUri name root = .ok uri) : (fullNames uri).getLast? ≠ some ".." := by
  intro hlast
  obtain ⟨segment, -, hplain, -, hsteps⟩ := pathSteps_of_tableUri h []
  obtain ⟨front, hfront⟩ := List.getLast?_eq_some_iff.mp hlast
  have hend : pathSteps root ++ [segment] = front.filter (· ≠ ".") ++ [".."] := by
    rw [← hsteps, pathSteps, hfront, List.filter_append]
    rfl
  exact hplain.2.2.1 (List.singleton_inj.mp (List.append_inj' hend rfl).2)

/-- The address of an accepted name without slashes ends in that name. -/
theorem getLast?_fullNames {name root uri : String} (h : localFiles.tableUri name root = .ok uri)
    (hslash : '/' ∉ (trimSlashes name).toList) :
    (fullNames uri).getLast? = some (trimSlashes name) ∧ IsPlainName (trimSlashes name) := by
  obtain ⟨hsome, rfl⟩ := tableUri_localFiles_eq_ok_iff.mp h
  obtain ⟨segment, hsegment⟩ := Option.isSome_iff_exists.mp hsome
  obtain ⟨hsteps, hplain⟩ := pathSteps_of_plainSegment? hsegment
  have hne : trimSlashes name ≠ "" := fun hempty => by simp [hempty] at hsteps
  have hnames := fullNames_of_not_mem hslash hne
  have hmem : segment ∈ pathSteps (trimSlashes name) := hsteps ▸ List.mem_singleton_self segment
  rw [pathSteps, hnames] at hmem
  obtain rfl := List.mem_singleton.mp (List.mem_of_mem_filter hmem)
  rw [fullNames_joinPath (head?_trimSlashes name), hnames]
  exact ⟨List.getLast?_concat, hplain⟩

end StorageMode

end LogTable
