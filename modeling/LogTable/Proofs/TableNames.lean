import LogTable.Proofs.TableUri

/-!
# Names of children

Which table names are accepted, and what for.  A name without slashes at its ends is accepted
exactly if its first part is no dots and all that comes behind it are empty parts and single dots
(`IsChildName`, `plainSegment?_eq_some_iff`): these are the names of one child of the root, however
they are written.  Main statement: `StorageMode.tableUri_outcome`.
-/

namespace LogTable

open FileTree

/-! ### Slashes at the ends -/

/-- No slash is left at the end of a trimmed name. -/
theorem getLast?_trimSlashes (name : String) :
    (trimSlashes name).toList.getLast? ≠ some '/' := by
  unfold trimSlashes
  rw [String.toList_ofList, List.getLast?_reverse]
  intro hhead
  have hnot := List.head?_dropWhile_not (· == '/') (name.toList.dropWhile (· == '/')).reverse
  rw [hhead] at hnot
  simp at hnot

/-- A further slash in front of a name is trimmed. -/
theorem trimSlashes_slash_append (name : String) :
    trimSlashes ("/" ++ name) = trimSlashes name := by
  simp [trimSlashes]

/-- A further slash at the end of a name is trimmed. -/
theorem trimSlashes_append_slash (name : String) :
    trimSlashes (name ++ "/") = trimSlashes name := by
  have hslash : ("/" : String).toList = ['/'] := rfl
  unfold trimSlashes
  rw [String.toList_append, hslash, List.dropWhile_append]
  split_ifs with hempty
  · rw [List.isEmpty_iff.mp hempty]
    rfl
  · simp

/-! ### Parts of a name -/

/-- The first part of a text between slashes is `segment`, which is no dots, and all other parts are
empty or a single dot. -/
def IsChildName (segment text : String) : Prop :=
  segment ≠ "." ∧ segment ≠ ".." ∧
    ∃ rest, pathNames text = segment :: rest ∧ ∀ part ∈ rest, part = "" ∨ part = "."

/-- The first part of a text is empty only if a slash comes first, or nothing at all. -/
theorem ne_nil_of_segments {text : String} {first : List Char} {rest : List (List Char)}
    (h : PathPart.segments text = first :: rest) (hhead : text.toList.head? ≠ some '/')
    (hne : text ≠ "") : first ≠ [] := by
  rintro rfl
  have htext : ['/'].intercalate ([] :: rest) = text.toList := by
    rw [← h]
    exact List.intercalate_splitOn '/'
  cases rest with
  | nil => exact hne (String.toList_eq_nil_iff.mp (by simpa using htext.symm))
  | cons second rest =>
    rw [List.intercalate_cons_cons] at htext
    exact hhead (by rw [← htext]; rfl)

/-- The names of a path behind a first part that is neither empty nor a single dot are its parts. -/
theorem PathPart.ofText_of_segments {text : String} {first : List Char} {rest : List (List Char)}
    (h : segments text = first :: rest) (hne : first ≠ []) (hdot : first ≠ ['.']) :
    ofText text = (pathSteps text).map ofName := by
  rw [← filterMap_ofSegment?, ofText, h]
  split
  · exact absurd (List.cons.inj ‹first :: rest = _›).1 hdot
  · exact absurd (List.cons.inj ‹first :: rest = _›).1 hne
  · rfl

/-- A path in front of which a single dot stands has other parts than a plain one. -/
theorem plainSegment?_of_dot {text : String} {rest : List (List Char)}
    (h : PathPart.segments text = ['.'] :: rest) : plainSegment? text = none := by
  rw [plainSegment?, PathPart.ofText, h]
  rfl

/-- A text that starts with another character than a slash is the path of a single plain part
exactly if this part comes first and all others stand for none. -/
theorem plainSegment?_eq_some_iff {text segment : String}
    (hhead : text.toList.head? ≠ some '/') (hne : text ≠ "") :
    plainSegment? text = some segment ↔ IsChildName segment text := by
  obtain ⟨first, rest, hsegments⟩ := List.exists_cons_of_ne_nil
    (show PathPart.segments text ≠ [] from List.splitOn_ne_nil _ _)
  have hfirst : first ≠ [] := ne_nil_of_segments hsegments hhead hne
  have hnames : pathNames text = String.ofList first :: rest.map String.ofList := by
    rw [pathNames, hsegments, List.map_cons]
  by_cases hdot : first = ['.']
  · subst hdot
    rw [plainSegment?_of_dot hsegments]
    constructor
    · intro hplain
      cases hplain
    · rintro ⟨hsegment, -, names, heq, -⟩
      rw [hnames] at heq
      exact absurd (List.cons.inj heq).1.symm hsegment
  have hsteps : pathSteps text =
      String.ofList first :: ((rest.map String.ofList).filter (· ≠ "")).filter (· ≠ ".") := by
    have hname : String.ofList first ≠ "." := fun h =>
      hdot (by rw [← String.toList_ofList (l := first), h]; rfl)
    rw [pathSteps, fullNames, hnames]
    simp [hfirst, hname]
  constructor
  · intro hplain
    obtain ⟨hsingle, -, hsegment, hup, -⟩ := pathSteps_of_plainSegment? hplain
    rw [hsteps, List.cons.injEq] at hsingle
    refine ⟨hsegment, hup, rest.map String.ofList, hsingle.1 ▸ hnames, fun part hpart => ?_⟩
    by_contra hother
    rw [not_or] at hother
    have hmem : part ∈ ((rest.map String.ofList).filter (· ≠ "")).filter (· ≠ ".") := by
      simpa [hother] using hpart
    rw [hsingle.2] at hmem
    cases hmem
  · rintro ⟨-, hup, names, heq, hrest⟩
    obtain ⟨rfl, rfl⟩ := List.cons.inj (hnames.symm.trans heq)
    have hnone : ((rest.map String.ofList).filter (· ≠ "")).filter (· ≠ ".") = [] := by
      refine List.filter_eq_nil_iff.mpr fun part hpart => ?_
      obtain ⟨hpart, hempty⟩ := List.mem_filter.mp hpart
      simpa using (hrest part hpart).resolve_left (by simpa using hempty)
    rw [plainSegment?, PathPart.ofText_of_segments hsegments hfirst hdot, hsteps, hnone]
    simp [PathPart.ofName, hup]

namespace StorageMode

/-- The name is not refused; an address may still be missing for want of a bucket. -/
def AcceptsName (mode : StorageMode) (name root : String) : Prop :=
  (∃ uri, mode.tableUri name root = .ok uri) ∨ mode.tableUri name root = .error .bucketMissing

/-- What the address of a trimmed name comes to, by the name. -/
theorem tableUri_cases (mode : StorageMode) (name root : String) :
    trimSlashes name = "" ∧ mode.tableUri name root = .error .emptyTableName ∨
      trimSlashes name ≠ "" ∧ (¬ ∃ segment, IsChildName segment (trimSlashes name)) ∧
        mode.tableUri name root = .error (.notOneSegment (trimSlashes name)) ∨
      trimSlashes name ≠ "" ∧ (∃ segment, IsChildName segment (trimSlashes name)) ∧
        mode.tableUri name root =
          match mode with
          | localFiles => .ok (joinPath root (trimSlashes name) ++ "/")
          | objectStore store =>
            if store.bucket = "" then .error .bucketMissing
            else .ok ("s3://" ++ store.bucket ++ "/" ++ trimSlashes name ++ "/") := by
  unfold tableUri
  by_cases hempty : trimSlashes name = ""
  · exact Or.inl ⟨hempty, if_pos hempty⟩
  simp only [if_neg hempty]
  have hplain : (plainSegment? (trimSlashes name)).isNone = true ↔
      ¬ ∃ segment, IsChildName segment (trimSlashes name) := by
    rw [Option.isNone_iff_eq_none, Option.eq_none_iff_forall_ne_some, not_exists]
    simp only [← plainSegment?_eq_some_iff (head?_trimSlashes name) hempty, ne_eq]
  by_cases hchild : ∃ segment, IsChildName segment (trimSlashes name)
  · exact Or.inr (Or.inr ⟨hempty, hchild, if_neg fun hnone => hplain.mp hnone hchild⟩)
  · exact Or.inr (Or.inl ⟨hempty, hchild, if_pos (hplain.mpr hchild)⟩)

/-- A name that is accepted is refused neither as empty nor as a whole. -/
theorem AcceptsName.ne_error {mode : StorageMode} {name root : String}
    (h : mode.AcceptsName name root) :
    mode.tableUri name root ≠ .error .emptyTableName ∧
      ∀ text, mode.tableUri name root ≠ .error (.notOneSegment text) := by
  rcases h with ⟨uri, heq⟩ | heq <;> rw [heq] <;> exact ⟨nofun, nofun⟩

/-- A name is accepted if it is the name of a child once it has been trimmed, in every mode and
below every root. -/
theorem acceptsName_iff (mode : StorageMode) (name root : String) :
    mode.AcceptsName name root ↔
      trimSlashes name ≠ "" ∧ ∃ segment, IsChildName segment (trimSlashes name) := by
  rcases mode.tableUri_cases name root with ⟨hempty, heq⟩ | ⟨-, hnone, heq⟩ | ⟨hne, hchild, heq⟩
  · exact ⟨fun h => absurd heq h.ne_error.1, fun h => absurd hempty h.1⟩
  · exact ⟨fun h => absurd heq (h.ne_error.2 _), fun h => absurd h.2 hnone⟩
  · refine ⟨fun _ => ⟨hne, hchild⟩, fun _ => ?_⟩
    rw [AcceptsName, heq]
    cases mode with
    | localFiles => exact Or.inl ⟨_, rfl⟩
    | objectStore store =>
      simp only
      split_ifs
      · exact Or.inr rfl
      · exact Or.inl ⟨_, rfl⟩

/-- The address of a table leads through the parts of the root and then to the child that the name
means. -/
theorem exists_isChildName_of_tableUri {name root uri : String}
    (h : localFiles.tableUri name root = .ok uri) :
    ∃ segment, IsChildName segment (trimSlashes name) ∧
      pathSteps uri = pathSteps root ++ [segment] ∧
      ∀ home, locate home uri = locate home root ++ [segment] := by
  obtain ⟨segment, hsegment, -, -, hsteps⟩ := pathSteps_of_tableUri h []
  obtain ⟨hne, -⟩ := (acceptsName_iff localFiles name root).mp (Or.inl ⟨uri, h⟩)
  refine ⟨segment, (plainSegment?_eq_some_iff (head?_trimSlashes name) hne).mp hsegment, hsteps,
    fun home => ?_⟩
  obtain ⟨segment', hsegment', -, hlocate⟩ := locate_of_tableUri h home
  rw [hlocate, Option.some.inj (hsegment'.symm.trans hsegment)]

/-- What the address of a table comes to, for every name, root and mode.  The name is trimmed; if
nothing is left it is refused as empty, and if it is not the name of one child it is refused as a
whole.  Any other name has an address, unless there is no bucket for it.  Hence neither the mode nor
the root has a say in which names are accepted, slashes around a name do not count, and the address
of a local table leads through the parts of the root and then to the child alone. -/
theorem tableUri_outcome (mode : StorageMode) (name root : String) :
    (mode.tableUri name root = .error .emptyTableName ↔ trimSlashes name = "") ∧
    (trimSlashes name ≠ "" →
      (mode.tableUri name root = .error (.notOneSegment (trimSlashes name)) ↔
        ¬ ∃ segment, IsChildName segment (trimSlashes name)) ∧
      ((∃ segment, IsChildName segment (trimSlashes name)) →
        mode.tableUri name root =
          match mode with
          | localFiles => .ok (joinPath root (trimSlashes name) ++ "/")
          | objectStore store =>
            if store.bucket = "" then .error .bucketMissing
            else .ok ("s3://" ++ store.bucket ++ "/" ++ trimSlashes name ++ "/"))) ∧
    (∀ (mode' : StorageMode) (root' : String),
      mode.AcceptsName name root ↔ mode'.AcceptsName name root') ∧
    (mode.tableUri ("/" ++ name) root = mode.tableUri name root ∧
      mode.tableUri (name ++ "/") root = mode.tableUri name root) ∧
    ∀ uri, localFiles.tableUri name root = .ok uri →
      ∃ segment, IsChildName segment (trimSlashes name) ∧
        pathSteps uri = pathSteps root ++ [segment] ∧
        ∀ home, locate home uri = locate home root ++ [segment] := by
  have haccepts := mode.acceptsName_iff name root
  refine ⟨?_, fun hne => ?_, fun mode' root' => ?_, ⟨?_, ?_⟩,
    fun uri => exists_isChildName_of_tableUri⟩
  · rcases mode.tableUri_cases name root with ⟨hempty, heq⟩ | ⟨hne, -, heq⟩ | ⟨hne, hchild, -⟩
    · exact ⟨fun _ => hempty, fun _ => heq⟩
    · rw [heq]
      exact ⟨nofun, fun hempty => absurd hempty hne⟩
    · exact ⟨fun herror => absurd herror (haccepts.mpr ⟨hne, hchild⟩).ne_error.1,
        fun hempty => absurd hempty hne⟩
  · rcases mode.tableUri_cases name root with ⟨hempty, -⟩ | ⟨-, hnone, heq⟩ | ⟨-, hchild, heq⟩
    · exact absurd hempty hne
    · exact ⟨⟨fun _ => hnone, fun _ => heq⟩, fun hchild => absurd hchild hnone⟩
    · exact ⟨⟨fun herror => absurd herror ((haccepts.mpr ⟨hne, hchild⟩).ne_error.2 _),
        fun hnone => absurd hchild hnone⟩, fun _ => heq⟩
  · rw [acceptsName_iff, acceptsName_iff]
  · unfold tableUri
    rw [trimSlashes_slash_append]
  · unfold tableUri
    rw [trimSlashes_append_slash]

end StorageMode

end LogTable
