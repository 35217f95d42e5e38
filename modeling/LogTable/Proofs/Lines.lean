import LogTable.Journal
import Mathlib.Data.String.Basic
import Mathlib.Tactic.SplitIfs

/-!
# Lines of the log

The line of an event has a line break only if one of its plain texts has one
(`Event.isOneLine_line`): numbers have none, and quoted texts have none whatever they quote.  Then
its first line is all of it (`Event.logLine_eq_line`, `Event.furtherLines_eq_nil`); what stands
behind a line break is a line of its own (`IsOneLine.splitOn_append`).  The beginning of a line
tells failures and appends from all other events (`Event.isErrorLine_line`,
`Event.isAppendLine_line`), and lines of the log from other output (`LogLine.ofText?_eq_none`,
`LogLine.ofText?_append`).
-/

namespace LogTable

/-- The text has no line break. -/
def IsOneLine (text : String) : Prop :=
  '\n' ∉ text.toList

instance : DecidablePred IsOneLine :=
  fun text => inferInstanceAs (Decidable ('\n' ∉ text.toList))

theorem isOneLine_append {first second : String} :
    IsOneLine (first ++ second) ↔ IsOneLine first ∧ IsOneLine second := by
  unfold IsOneLine
  rw [String.toList_append, List.mem_append, not_or]

theorem IsOneLine.append {first second : String} (h : IsOneLine first) (h' : IsOneLine second) :
    IsOneLine (first ++ second) :=
  isOneLine_append.mpr ⟨h, h'⟩

/-- A text with a label and a value behind it. -/
theorem IsOneLine.field {front label value : String} (hfront : IsOneLine front)
    (hlabel : IsOneLine label) (hvalue : IsOneLine value) : IsOneLine (front ++ label ++ value) :=
  (hfront.append hlabel).append hvalue

/-- A text made of the characters of a text without line breaks has none. -/
theorem IsOneLine.of_subset {first second : String} (h : IsOneLine first)
    (hsubset : second.toList ⊆ first.toList) : IsOneLine second :=
  fun hmem => h (hsubset hmem)

theorem isOneLine_intercalate {separator : String} {texts : List String}
    (hseparator : IsOneLine separator) (h : ∀ text ∈ texts, IsOneLine text) :
    IsOneLine (String.intercalate separator texts) := by
  induction texts with
  | nil => simp [IsOneLine]
  | cons text texts ih =>
    have ih := ih fun other hother => h other (List.mem_cons_of_mem _ hother)
    have htext := h text List.mem_cons_self
    cases texts with
    | nil => simpa using htext
    | cons next texts =>
      rw [String.intercalate_cons_cons]
      exact (htext.append hseparator).append ih

/-- Digits are no line breaks. -/
theorem not_mem_toDigits {base : Nat} (hbase : 1 < base) (n : Nat) :
    '\n' ∉ Nat.toDigits base n := by
  induction n using Nat.strongRecOn with
  | ind n ih =>
    rw [Nat.toDigits_eq_if hbase]
    split_ifs with hlt
    · simp
    · rw [List.mem_append, not_or]
      exact ⟨ih _ (Nat.div_lt_self (by omega) hbase), by simp⟩

theorem isOneLine_repr (n : Nat) : IsOneLine n.repr := by
  unfold IsOneLine
  rw [Nat.toList_repr]
  exact not_mem_toDigits (by decide +kernel) n

/-- No character is written between quotes as a line break. -/
theorem Text.not_mem_quotedChar (c : Char) : '\n' ∉ quotedChar c := by
  unfold quotedChar
  split_ifs with hnul htab hreturn hbreak hescaped
  · decide
  · decide
  · decide
  · decide
  · rcases hescaped with rfl | rfl <;> decide
  · simp only [List.mem_append, not_or]
    exact ⟨⟨by decide, not_mem_toDigits (by decide +kernel) c.toNat⟩, by decide⟩
  · simpa using Ne.symm hbreak

/-- A quoted text has no line breaks, whatever is quoted. -/
theorem Text.isOneLine_quoted (text : String) : IsOneLine (quoted text) := by
  unfold IsOneLine quoted
  rw [String.toList_ofList]
  simp only [List.mem_append, List.mem_cons, List.mem_flatMap, not_or, not_exists, not_and]
  exact ⟨⟨by decide, fun c _ => not_mem_quotedChar c⟩, by decide, by simp⟩

namespace Event

theorem isOneLine_bracketed {items : List String} (h : ∀ item ∈ items, IsOneLine item) :
    IsOneLine (bracketed items) := by
  have hitems : IsOneLine (String.intercalate ", " items) :=
    isOneLine_intercalate (by decide +kernel) h
  exact (IsOneLine.append (by decide +kernel) hitems).append (by decide +kernel)

/-- Names and values of options are quoted. -/
theorem isOneLine_braced [OptionOrder] (options : Options) : IsOneLine (braced options) := by
  unfold braced
  refine (IsOneLine.append (by decide +kernel) ?_).append (by decide +kernel)
  refine isOneLine_intercalate (by decide +kernel) fun entry hentry => ?_
  obtain ⟨⟨name, value⟩, -, rfl⟩ := List.mem_map.mp hentry
  exact (Text.isOneLine_quoted name).field (by decide +kernel) (Text.isOneLine_quoted value)

theorem isOneLine_optional (version : Option Nat) : IsOneLine (optional version) := by
  cases version with
  | none => decide
  | some version =>
    exact (IsOneLine.append (by decide +kernel) (isOneLine_repr version)).append
      (by decide +kernel)

/-- The texts of an event that its line shows as they are. -/
def texts : Event → List String
  | loadingConfiguration path => [path]
  | starting _ table => [table]
  | storageSelected uri _ => [uri]
  | tableRemoved path => [path]
  | batchAppended uri _ _ => [uri]
  | rowsDeleted uri _ _ _ => [uri]
  | checkpointCreated uri _ => [uri]
  | tableSummary uri _ _ _ _ => [uri]
  | done _ _ _ _ => []
  | failed message => [message]

/-- A line has no line break if the texts that it shows as they are have none. -/
theorem isOneLine_line [OptionOrder] {event : Event} (h : ∀ text ∈ event.texts, IsOneLine text) :
    IsOneLine event.line := by
  -- a line is a label, a value, and so on: the labels are given, the values are in turn
  -- among the texts, or quoted, or numbers
  cases event with
  | loadingConfiguration path =>
    exact IsOneLine.append (by decide +kernel) (h path (by simp [texts]))
  | starting mode table =>
    have hmode := Text.isOneLine_quoted mode.word
    exact (IsOneLine.append (by decide +kernel) hmode).field (by decide +kernel)
      (h table (by simp [texts]))
  | storageSelected uri options =>
    have huri : IsOneLine uri := h uri (by simp [texts])
    exact (IsOneLine.append (by decide +kernel) huri).field (by decide +kernel)
      (isOneLine_braced options)
  | tableRemoved path => exact IsOneLine.append (by decide +kernel) (h path (by simp [texts]))
  | batchAppended uri version rows =>
    have huri : IsOneLine uri := h uri (by simp [texts])
    exact ((IsOneLine.append (by decide +kernel) huri).field (by decide +kernel)
      (isOneLine_repr version)).field (by decide +kernel) (isOneLine_repr rows)
  | rowsDeleted uri predicate version rows =>
    have huri : IsOneLine uri := h uri (by simp [texts])
    have hcounts := (IsOneLine.append (by decide +kernel : IsOneLine " version=")
      (isOneLine_repr version)).field (by decide +kernel : IsOneLine " rows_deleted=")
      (isOneLine_repr rows)
    exact ((IsOneLine.append (by decide +kernel) huri).field (by decide +kernel)
      (Text.isOneLine_quoted predicate)).append hcounts
  | checkpointCreated uri version =>
    have huri : IsOneLine uri := h uri (by simp [texts])
    exact (IsOneLine.append (by decide +kernel) huri).field (by decide +kernel)
      (isOneLine_repr version)
  | tableSummary uri version rowsWritten rows files =>
    have huri : IsOneLine uri := h uri (by simp [texts])
    have hcounts := ((isOneLine_repr rowsWritten).field (by decide +kernel : IsOneLine " rows=")
      (isOneLine_repr rows)).field (by decide +kernel : IsOneLine " files=") (isOneLine_repr files)
    exact (((IsOneLine.append (by decide +kernel) huri).field (by decide +kernel)
      (isOneLine_repr version)).append (by decide +kernel)).append hcounts
  | done versions deleted checkpoint rows =>
    have hversions : IsOneLine (bracketed (versions.map toString)) :=
      isOneLine_bracketed fun item hitem => by
        obtain ⟨version, -, rfl⟩ := List.mem_map.mp hitem
        exact isOneLine_repr version
    have hdeleted := (IsOneLine.append (by decide +kernel : IsOneLine " rows_deleted=")
      (isOneLine_repr deleted)).append (by decide +kernel : IsOneLine " checkpoint=")
    have hrows := IsOneLine.append (by decide +kernel : IsOneLine " rows=") (isOneLine_repr rows)
    exact (((IsOneLine.append (by decide +kernel) hversions).append hdeleted).append
      (isOneLine_optional checkpoint)).append hrows
  | failed message => exact IsOneLine.append (by decide +kernel) (h message (by simp [texts]))

end Event

/-! ### Splitting into lines -/

section

open String

/-- The search for line breaks does what splitting a list does: `found` are the parts before, `l`
the characters that are passed, `m` those of the part that the search is in, and `r` those to
come. -/
theorem splitOnAux_eq (l m r : List Char) (found : List String) :
    (ofList (l ++ m ++ r)).splitOnAux "\n" ⟨utf8Len l⟩ ⟨utf8Len l + utf8Len m⟩ 0 found =
      found.reverse ++ (List.splitOnPPrepend (· == '\n') r m.reverse).map ofList := by
  induction r generalizing l m found with
  | nil =>
    have hend : Pos.Raw.atEnd (ofList (l ++ m)) ⟨utf8Len l + utf8Len m⟩ = true := by
      rw [atEnd_iff, rawEndPos_ofList, utf8Len_append]
      exact Pos.Raw.le_refl
    have hpart := extract_of_valid l m []
    rw [List.append_nil] at hpart ⊢
    unfold splitOnAux
    rw [if_pos hend, hpart]
    simp [List.splitOnPPrepend]
  | cons c r ih =>
    have hsize := Char.utf8Size_pos c
    have hend : ¬ Pos.Raw.atEnd (ofList (l ++ m ++ c :: r)) ⟨utf8Len l + utf8Len m⟩ = true := by
      rw [atEnd_iff, rawEndPos_ofList, utf8Len_append, utf8Len_append, utf8Len_cons,
        Pos.Raw.mk_le_mk]
      omega
    have hget : Pos.Raw.get (ofList (l ++ m ++ c :: r)) ⟨utf8Len l + utf8Len m⟩ = c := by
      simpa [-ofList_append] using get_of_valid (l ++ m) (c :: r)
    have hnext : Pos.Raw.next (ofList (l ++ m ++ c :: r)) ⟨utf8Len l + utf8Len m⟩ =
        ⟨utf8Len l + utf8Len m + c.utf8Size⟩ := by
      simpa [-ofList_append] using next_of_valid (l ++ m) c r
    have hbreak : Pos.Raw.get "\n" 0 = '\n' := by decide
    unfold splitOnAux
    rw [if_neg hend, hget, hbreak, List.splitOnPPrepend_cons_eq_if]
    by_cases hc : c = '\n'
    · -- the part ends here, and the next one starts behind the line break
      subst hc
      have hpart := extract_of_valid l m ('\n' :: r)
      have hrest := ih (l ++ m ++ ['\n']) [] (ofList m :: found)
      have hback : Pos.Raw.unoffsetBy ⟨utf8Len l + utf8Len m + '\n'.utf8Size⟩
          (Pos.Raw.next "\n" 0) = ⟨utf8Len l + utf8Len m⟩ := rfl
      have hend : Pos.Raw.atEnd "\n" (Pos.Raw.next "\n" 0) = true := by decide
      simp only [beq_self_eq_true, if_true, hnext, hend, hback, hpart]
      simpa [-ofList_append, Nat.add_assoc] using hrest
    · have hrest := ih l (m ++ [c]) found
      have hback : Pos.Raw.unoffsetBy ⟨utf8Len l + utf8Len m⟩ 0 = ⟨utf8Len l + utf8Len m⟩ := rfl
      rw [if_neg (by simpa using hc), if_neg (by simpa using hc), hback, hnext]
      simpa [-ofList_append, Nat.add_assoc] using hrest

/-- The lines of a text are the parts of its characters between the line breaks. -/
theorem splitOn_eq_map (text : String) :
    text.splitOn "\n" = (text.toList.splitOn '\n').map ofList := by
  have hsplit := splitOnAux_eq [] [] text.toList []
  simpa [splitOn, List.splitOn] using hsplit

end

/-- A text without line breaks is one line. -/
theorem IsOneLine.splitOn_eq {text : String} (h : IsOneLine text) : text.splitOn "\n" = [text] := by
  have hparts : text.toList.splitOn '\n' = [text.toList] :=
    List.splitOnP_eq_singleton fun c hc => beq_eq_false_iff_ne.mpr (ne_of_mem_of_not_mem hc h)
  rw [splitOn_eq_map, hparts, List.map_singleton, String.ofList_toList]

/-- The first line of a text ends at the first line break. -/
theorem IsOneLine.splitOn_append {front : String} (h : IsOneLine front) (rest : String) :
    (front ++ "\n" ++ rest).splitOn "\n" = front :: rest.splitOn "\n" := by
  have hlist : (front ++ "\n" ++ rest).toList = front.toList ++ '\n' :: rest.toList := by
    rw [String.toList_append, String.toList_append, List.append_assoc]
    rfl
  have hparts : (front.toList ++ '\n' :: rest.toList).splitOn '\n' =
      front.toList :: rest.toList.splitOn '\n' :=
    List.splitOnP_append_cons_of_forall_mem
      (fun c hc => beq_eq_false_iff_ne.mpr (ne_of_mem_of_not_mem hc h)) '\n' rfl rest.toList
  rw [splitOn_eq_map, hlist, hparts, List.map_cons, String.ofList_toList, splitOn_eq_map]

namespace Event

variable [OptionOrder] {event : Event}

/-- The log shows a line without line breaks as a whole. -/
theorem logLine_eq_line (h : IsOneLine event.line) : event.logLine = event.line := by
  rw [logLine, h.splitOn_eq, List.headD_cons]

/-- An event whose line has no line break has no further lines. -/
theorem furtherLines_eq_nil (h : IsOneLine event.line) : event.furtherLines = [] := by
  rw [furtherLines, h.splitOn_eq, List.tail_cons]

end Event

/-! ### Beginnings of lines -/

/-- The line is one of a failure. -/
def isErrorLine (line : String) : Bool :=
  "ERROR ".toList.isPrefixOf line.toList

/-- The line is one of an append. -/
def isAppendLine (line : String) : Bool :=
  "INFO lake_writer::table: appended batch ".toList.isPrefixOf line.toList

theorem toList_prefix_append {start text : String} (h : start.toList <+: text.toList)
    (rest : String) : start.toList <+: (text ++ rest).toList := by
  rw [String.toList_append]
  exact h.trans (List.prefix_append _ _)

/-- A text does not start with what its front rules out. -/
theorem isPrefixOf_eq_false {start front text : List Char} (h : start.isPrefixOf front = false)
    (h' : front.isPrefixOf start = false) (hfront : front <+: text) :
    start.isPrefixOf text = false := by
  rw [Bool.eq_false_iff] at h h' ⊢
  intro hstart
  rcases List.prefix_or_prefix_of_prefix (List.isPrefixOf_iff_prefix.mp hstart) hfront with
    hstart | hstart
  · exact h (List.isPrefixOf_iff_prefix.mpr hstart)
  · exact h' (List.isPrefixOf_iff_prefix.mpr hstart)

namespace LogLine

/-- A text that does not start with a digit is no line of the log. -/
theorem ofText?_eq_none {text : String} {c : Char} (htext : [c] <+: text.toList)
    (hc : c.isDigit = false) : ofText? text = none := by
  obtain ⟨cs, htext⟩ := htext
  have hshape : timeShape = '0' :: timeShape.tail := by decide +kernel
  have htime : isTime ((c :: cs).take timeShape.length) = false := by
    rw [isTime, hshape, List.length_cons, List.take_succ_cons, List.zip_cons_cons, List.all_cons]
    simp [hc]
  unfold ofText?
  simp only [← htext, List.singleton_append, List.splitAt_eq, htime, Bool.false_and,
    Bool.false_eq_true, if_false]

/-- What stands behind a line of the log without a break between them belongs to the line. -/
theorem ofText?_append {text line : String} (h : ofText? text = some line) (rest : String) :
    ofText? (text ++ rest) = some (line ++ rest) := by
  have htext : (text ++ rest).toList = text.toList ++ rest.toList := String.toList_append
  unfold ofText? at h ⊢
  simp only [htext, List.splitAt_eq] at h ⊢
  split_ifs at h with hline
  obtain rfl := Option.some.inj h
  simp only [Bool.and_eq_true, decide_eq_true_eq] at hline
  obtain ⟨⟨htime, hblank⟩, hlevel⟩ := hline
  obtain ⟨level, hmem, hword⟩ := List.any_eq_true.mp hlevel
  -- the text reaches behind its time, and there are words behind the blanks
  have hlength : timeShape.length ≤ text.toList.length := by
    have htake : (text.toList.take timeShape.length).length = timeShape.length := by
      simpa using (Bool.and_eq_true_iff.mp htime).1
    rw [← htake]
    exact List.length_take_le' _ _
  have hword := List.isPrefixOf_iff_prefix.mp hword
  have hwords : ((text.toList.drop timeShape.length).dropWhile (· = ' ')).isEmpty = false := by
    rw [List.isEmpty_eq_false_iff]
    intro hnone
    rw [hnone, List.prefix_nil] at hword
    simp at hword
  have hblank' : (text.toList.drop timeShape.length ++ rest.toList).head? = some ' ' := by
    rw [List.head?_append, hblank, Option.some_or]
  have hlevel' : (levels.any fun level => (level ++ " ").toList.isPrefixOf
      ((text.toList.drop timeShape.length).dropWhile (· = ' ') ++ rest.toList)) = true :=
    List.any_eq_true.mpr ⟨level, hmem, List.isPrefixOf_iff_prefix.mpr
      (hword.trans (List.prefix_append _ _))⟩
  rw [List.take_append_of_le_length hlength, List.drop_append_of_le_length hlength,
    List.dropWhile_append, hwords, hblank', htime]
  simp only [Bool.false_eq_true, if_false, hlevel', decide_true, Bool.and_self, if_true,
    String.ofList_append, String.ofList_toList]

end LogLine

namespace Event

/-- The event is a failure. -/
def isFailure : Event → Bool
  | failed _ => true
  | _ => false

/-- The event is an append. -/
def isAppend : Event → Bool
  | batchAppended _ _ _ => true
  | _ => false

/-- What the line of an event starts with, whatever its values are. -/
def heading : Event → String
  | loadingConfiguration _ => "DEBUG lake_demo: loading configuration config="
  | starting _ _ => "INFO lake_demo::cmd::run: starting mode="
  | storageSelected _ _ => "INFO lake_writer::scenario: storage selected uri="
  | tableRemoved _ => "INFO lake_writer::storage: removed existing local table path="
  | batchAppended _ _ _ => "INFO lake_writer::table: appended batch uri="
  | rowsDeleted _ _ _ _ => "INFO lake_writer::table: deleted rows uri="
  | checkpointCreated _ _ => "INFO lake_writer::table: checkpoint created uri="
  | tableSummary _ _ _ _ _ => "INFO lake_writer::scenario: table summary uri="
  | done _ _ _ _ => "INFO lake_demo::cmd::run: done versions="
  | failed _ => "ERROR lake_demo: lake-demo failed error="

theorem heading_prefix_line [OptionOrder] (event : Event) :
    event.heading.toList <+: event.line.toList := by
  have hstart : ∀ (start rest : String), start.toList <+: (start ++ rest).toList :=
    fun start rest => toList_prefix_append (List.prefix_refl _) rest
  cases event with
  | loadingConfiguration path => exact hstart _ path
  | starting mode table =>
    exact toList_prefix_append (toList_prefix_append (hstart _ _) " table=") table
  | storageSelected uri options =>
    exact toList_prefix_append (toList_prefix_append (hstart _ uri) " options=") (braced options)
  | tableRemoved path => exact hstart _ path
  | batchAppended uri version rows =>
    exact toList_prefix_append (toList_prefix_append (toList_prefix_append (toList_prefix_append
      (hstart _ uri) " version=") version.repr) " rows=") rows.repr
  | rowsDeleted uri predicate version rows =>
    exact toList_prefix_append (toList_prefix_append (toList_prefix_append
      (hstart _ uri) " predicate=") (Text.quoted predicate)) _
  | checkpointCreated uri version =>
    exact toList_prefix_append (toList_prefix_append (hstart _ uri) " version=") version.repr
  | tableSummary uri version rowsWritten rows files =>
    exact toList_prefix_append (toList_prefix_append (toList_prefix_append (toList_prefix_append
      (hstart _ uri) " version=") version.repr) " rows_written=") _
  | done versions deleted checkpoint rows =>
    exact toList_prefix_append (toList_prefix_append (toList_prefix_append
      (hstart _ (bracketed _)) _) (optional checkpoint)) _
  | failed message => exact hstart _ message

/-- The lines of failures are exactly the ones that start as such. -/
theorem isErrorLine_line [OptionOrder] (event : Event) :
    isErrorLine event.line = event.isFailure := by
  have hheading := event.heading_prefix_line
  cases event with simp only [heading] at hheading
  | failed =>
    exact List.isPrefixOf_iff_prefix.mpr (.trans (by decide +kernel) hheading)
  | _ => exact isPrefixOf_eq_false (by decide +kernel) (by decide +kernel) hheading

/-- The lines of appends are exactly the ones that start as such. -/
theorem isAppendLine_line [OptionOrder] (event : Event) :
    isAppendLine event.line = event.isAppend := by
  have hheading := event.heading_prefix_line
  cases event with simp only [heading] at hheading
  | batchAppended =>
    exact List.isPrefixOf_iff_prefix.mpr (.trans (by decide +kernel) hheading)
  | _ => exact isPrefixOf_eq_false (by decide +kernel) (by decide +kernel) hheading

end Event

end LogTable
