import LogTable.Proofs.Batch.Ids

/-!
# Outcomes of batches

What `Batch.generate` comes to, for every first id, number of rows, time and message.  The ids of a
batch go up and its instants go back, one day for each row, so the ids overflow exactly if the last
one does, and the first row that is out of range is the one after the days that the calendar has
before the time (`Instant.daysElapsed`).  A column has room for less than two gibibytes of text,
which long messages exceed.  Main statement: `Batch.generate_outcome`.
-/

namespace LogTable

namespace Instant

/-- The instant lies on the calendar. -/
def IsOnCalendar (t : Instant) : Prop :=
  earliest.nanos ≤ t.nanos ∧ t.nanos ≤ latest.nanos

/-- The number of whole days from the start of the calendar to an instant. -/
def daysElapsed (t : Instant) : Nat :=
  ((t.nanos - earliest.nanos) / nanosPerDay).toNat

variable {t : Instant}

/-- The calendar reaches back from an instant exactly by the days that have elapsed. -/
theorem daysBefore?_eq (h : t.IsOnCalendar) (days : Nat) :
    t.daysBefore? days =
      if days ≤ t.daysElapsed then some ⟨t.nanos - days * nanosPerDay⟩ else none := by
  have hreach : earliest.nanos ≤ t.nanos - days * nanosPerDay ↔ days ≤ t.daysElapsed := by
    have hstart := h.1
    unfold daysElapsed nanosPerDay
    omega
  unfold daysBefore?
  simp only [hreach]

/-- Whole days make no difference to the rounding to microseconds. -/
theorem micros_daysBefore (t : Instant) (days : Nat) :
    micros ⟨t.nanos - days * nanosPerDay⟩ = t.micros - days * Civil.microsPerDay := by
  simp only [micros, nanosPerDay, Civil.microsPerDay]
  omega

/-- The microseconds of an instant on the calendar, and of the instants some days before it, are
64-bit integers. -/
theorem micros_daysBefore_mem (h : t.IsOnCalendar) {days : Nat} (hdays : days ≤ t.daysElapsed) :
    -2 ^ 63 ≤ t.micros - days * Civil.microsPerDay ∧
      t.micros - days * Civil.microsPerDay < 2 ^ 63 := by
  obtain ⟨hstart, hend⟩ := h
  unfold daysElapsed nanosPerDay at hdays
  unfold micros Civil.microsPerDay
  simp only [earliest, latest, ofParts] at hstart hend hdays
  constructor <;> omega

end Instant

/-- The user of a row is named for the parity of its id as an integer. -/
theorem Row.userLabel_eq (id : Int64) :
    userLabel id = if id.toInt % 2 = 0 then "even_user" else "odd_user" := by
  have hparity : id % 2 = 0 ↔ id.toInt % 2 = 0 := by
    rw [← Int64.toInt_inj, Int64.toInt_mod]
    exact Int.dvd_iff_tmod_eq_zero.symm.trans Int.dvd_iff_emod_eq_zero
  simp only [userLabel, hparity]

/-- The only fault of a checked sum is that it overflows. -/
theorem eq_addOverflow_of_checkedAdd {a b : Int} {abort : Abort}
    (h : checkedAdd a b = .error abort) : abort = .addOverflow := by
  unfold checkedAdd at h
  split_ifs at h
  cases h
  rfl

namespace Batch

variable {start : Int64} {count : Nat} {time : Instant}

/-- Ids that fit are made in order. -/
theorem ids_of_le (hlimit : count < idLimit) (hfit : start.toInt + count ≤ 2 ^ 63) :
    ids start count = .ok ((List.range count).map fun i : Nat => .ofInt (start.toInt + i)) := by
  rw [ids_eq_ok_iff, List.map_map]
  refine ⟨hlimit, List.map_congr_left fun i hi => ?_⟩
  have hlow := start.le_toInt
  have hi := List.mem_range.mp hi
  exact Int64.toInt_ofInt_of_le (by omega) (by omega)

/-- Ids overflow if the last one is too large. -/
theorem ids_eq_addOverflow (hlimit : count < idLimit) (hpos : 1 ≤ count)
    (hlarge : 2 ^ 63 - 1 < start.toInt + (count - 1)) :
    ids start count = .error .addOverflow := by
  cases hids : ids start count with
  | ok l =>
    have hlast : start.toInt + (count - 1 : Nat) ∈ l.map Int64.toInt := by
      rw [(ids_eq_ok_iff.mp hids).2]
      exact List.mem_map_of_mem (List.mem_range.mpr (by omega))
    obtain ⟨n, -, hn⟩ := List.mem_map.mp hlast
    have hlt := n.toInt_lt
    omega
  | error abort =>
    unfold ids at hids
    rw [if_neg (Nat.not_le.mpr hlimit)] at hids
    obtain ⟨i, -, hsum⟩ := exists_of_mapM_eq_error hids
    rw [eq_addOverflow_of_checkedAdd hsum]

/-- The instants of a batch that stays on the calendar. -/
theorem stamps_of_le (htime : time.IsOnCalendar) (hcount : count ≤ time.daysElapsed + 1) :
    stamps time count =
      .ok ((List.range count).map fun i : Nat => time.micros - i * Civil.microsPerDay) := by
  unfold stamps
  rw [mapM_eq_ok_iff, List.forall₂_map_right_iff, List.forall₂_same]
  intro i hi
  have hi := List.mem_range.mp hi
  simp only [Instant.daysBefore?_eq htime, if_pos (show i ≤ time.daysElapsed by omega),
    Instant.micros_daysBefore]

/-- The first row of a batch that leaves the calendar is the one after the days that have
elapsed. -/
theorem stamps_eq_error (htime : time.IsOnCalendar) (hcount : time.daysElapsed + 1 < count) :
    stamps time count = .error (.rowOutOfRange (time.daysElapsed + 1)) := by
  refine mapM_range_eq_error hcount (fun i hi => ?_) ?_
  · simp only [Instant.daysBefore?_eq htime, if_pos (Nat.le_of_lt_succ hi)]
    exact ⟨_, rfl⟩
  · simp only [Instant.daysBefore?_eq htime, if_neg (Nat.not_succ_le_self _)]

/-- A batch overflows before its instants are looked at. -/
theorem generate_of_ids_eq_error {message : String} {abort : Abort}
    (h : ids start count = .error abort) :
    generate start count time message = .error (.abort abort) := by
  have hgenerated := generated start count time message
  generalize generate start count time message = outcome at hgenerated ⊢
  cases hgenerated with
  | noIds hids => rw [Except.error.inj (h.symm.trans hids)]
  | tooMany hids | noStamps hids | tooLong hids | rows hids => exact nomatch h.symm.trans hids

/-- A batch whose ids can be made, and for which there is memory, comes to what its instants come
to, unless its messages are too long for a column. -/
theorem generate_of_ids_eq_ok {message : String} {l : List Int64} (h : ids start count = .ok l)
    (hlimit : count < textLimit) :
    generate start count time message =
      match stamps time count with
      | .ok stamps =>
        if columnLimit < count * message.utf8ByteSize then .error (.abort .internal)
        else .ok (List.zipWith (row message) l stamps)
      | .error fault => .error (.settings fault) := by
  have hgenerated := generated start count time message
  generalize generate start count time message = outcome at hgenerated ⊢
  cases hgenerated with
  | noIds hids => exact nomatch h.symm.trans hids
  | tooMany hids hmany => exact absurd hlimit (Nat.not_lt.mpr hmany)
  | noStamps hids _ hstamps => rw [hstamps]
  | tooLong hids _ hstamps hlong =>
    rw [hstamps]
    exact (if_pos hlong).symm
  | rows hids _ hstamps hfits =>
    obtain rfl := Except.ok.inj (h.symm.trans hids)
    rw [hstamps]
    exact (if_neg (Nat.not_lt.mpr hfits)).symm

/-- The rows of a batch on the calendar whose ids fit. -/
theorem row_eq {start : Int64} {time : Instant} {message : String} {i : Nat}
    (htime : time.IsOnCalendar) (hdays : i ≤ time.daysElapsed) (hfit : start.toInt + i < 2 ^ 63) :
    let r := row message (.ofInt (start.toInt + i)) (time.micros - i * Civil.microsPerDay)
    r.id.toInt = start.toInt + i ∧
      r.message = message ∧
      r.lastModified = time.micros - i * 86400000000 ∧
      (-2 ^ 63 ≤ r.lastModified ∧ r.lastModified < 2 ^ 63) ∧
      r.user = if (start.toInt + i) % 2 = 0 then "even_user" else "odd_user" := by
  have hlow := start.le_toInt
  have hid : (Int64.ofInt (start.toInt + i)).toInt = start.toInt + i :=
    Int64.toInt_ofInt_of_le (by omega) (by omega)
  simp only [row, hid, Row.userLabel_eq]
  exact ⟨trivial, trivial, rfl, Instant.micros_daysBefore_mem htime hdays, trivial⟩

/-- What a batch comes to.  If its last id is too large it overflows, whatever the time.  Otherwise
it is refused exactly if it has more rows than the calendar has days up to the time, and then the
first row that is out of range is named, whatever the ids and the message.  If it is not refused, it
is given up exactly if its messages together have more bytes than a column can hold.  Otherwise it
has its rows in order, each with its id, the message, the time some whole days before, rounded down
to microseconds, which are a 64-bit integer, and the user that belongs to the parity of the id. -/
theorem generate_outcome (start : Int64) (count : Nat) (time : Instant) (message : String)
    (hcount : count < 2 ^ 59) (htime : time.IsOnCalendar) :
    (1 ≤ count → 2 ^ 63 - 1 < start.toInt + (count - 1) →
      generate start count time message = .error (.abort .addOverflow)) ∧
    (¬ (1 ≤ count ∧ 2 ^ 63 - 1 < start.toInt + (count - 1)) →
      ((∃ failure, generate start count time message = .error failure) ↔
        time.daysElapsed + 1 < count ∨ 2 ^ 31 - 1 < count * message.utf8ByteSize) ∧
      ((∃ fault, generate start count time message = .error (.fault fault)) ↔
        time.daysElapsed + 1 < count) ∧
      (time.daysElapsed + 1 < count → generate start count time message =
        .error (.settings (.rowOutOfRange (time.daysElapsed + 1)))) ∧
      (count ≤ time.daysElapsed + 1 → 2 ^ 31 - 1 < count * message.utf8ByteSize →
        generate start count time message = .error (.abort .internal)) ∧
      (count ≤ time.daysElapsed + 1 → count * message.utf8ByteSize ≤ 2 ^ 31 - 1 →
        ∃ rows, generate start count time message = .ok rows ∧
          rows.length = count ∧ ∀ (i : Nat) (hi : i < rows.length),
            rows[i].id.toInt = start.toInt + i ∧
            rows[i].message = message ∧
            rows[i].lastModified = time.micros - i * 86400000000 ∧
            (-2 ^ 63 ≤ rows[i].lastModified ∧ rows[i].lastModified < 2 ^ 63) ∧
            rows[i].user =
              if (start.toInt + i) % 2 = 0 then "even_user" else "odd_user")) := by
  have hidLimit : count < idLimit := by
    unfold idLimit UInt64.size
    omega
  have htextLimit : count < textLimit := by
    unfold textLimit UInt64.size
    omega
  have hcolumnLimit : columnLimit = 2 ^ 31 - 1 := rfl
  constructor
  · intro hpos hlarge
    exact generate_of_ids_eq_error (ids_eq_addOverflow hidLimit hpos hlarge)
  · intro hfit
    have hhigh := start.toInt_lt
    have hids := ids_of_le hidLimit (show start.toInt + count ≤ 2 ^ 63 by omega)
    rw [generate_of_ids_eq_ok hids htextLimit, hcolumnLimit]
    rcases Nat.lt_or_ge (time.daysElapsed + 1) count with hlate | hearly
    · rw [stamps_eq_error htime hlate]
      exact ⟨⟨fun _ => .inl hlate, fun _ => ⟨_, rfl⟩⟩, ⟨fun _ => hlate, fun _ => ⟨_, rfl⟩⟩,
        fun _ => rfl, fun hle => by omega, fun hle => by omega⟩
    rw [stamps_of_le htime hearly]
    by_cases hlong : 2 ^ 31 - 1 < count * message.utf8ByteSize
    · simp only [if_pos hlong]
      exact ⟨⟨fun _ => .inr hlong, fun _ => ⟨_, rfl⟩⟩, ⟨nofun, fun h => by omega⟩,
        fun h => by omega, fun _ _ => trivial, fun _ h => by omega⟩
    · simp only [if_neg hlong]
      refine ⟨⟨nofun, fun h => by omega⟩, ⟨nofun, fun h => by omega⟩, fun h => by omega,
        fun _ h => absurd h hlong, fun _ _ => ⟨_, rfl, by simp, fun i hi => ?_⟩⟩
      have hi : i < count := by simpa using hi
      simp only [List.getElem_zipWith, List.getElem_map, List.getElem_range]
      exact row_eq htime (by omega) (by omega)

/-- A day after the start of the calendar there is room for two rows, unless their ids overflow or
their messages are too long. -/
theorem generate_outcome_second_day :
    let time : Instant := .ofParts (-8334601142400) 1999
    3 < 2 ^ 59 ∧ time.IsOnCalendar ∧ time.daysElapsed = 1 ∧
      generate (Int64.maxValue - 1) 3 time "a" = .error (.abort .addOverflow) ∧
      generate (-1) 3 time "a" = .error (.settings (.rowOutOfRange 2)) ∧
      ∃ rows, generate (-1) 2 time "a" = .ok rows ∧ rows.length = 2 := by
  intro time
  have htime : time.IsOnCalendar := ⟨by decide, by decide⟩
  have hover := (generate_outcome (Int64.maxValue - 1) 3 time "a" (by decide) htime).1
  obtain ⟨-, -, hlate, -, -⟩ :=
    (generate_outcome (-1) 3 time "a" (by decide) htime).2 (by decide)
  obtain ⟨-, -, -, -, hrows⟩ :=
    (generate_outcome (-1) 2 time "a" (by decide) htime).2 (by decide)
  obtain ⟨rows, hrows, hlength, -⟩ := hrows (by decide) (by decide)
  exact ⟨by decide, htime, by decide, hover (by decide) (by decide), hlate (by decide), rows,
    hrows, hlength⟩

/-- The number of bytes of a letter that is repeated. -/
theorem utf8ByteSize_replicate (c : Char) (n : Nat) :
    (String.ofList (List.replicate n c)).utf8ByteSize = n * c.utf8Size := by
  induction n with
  | zero => simp
  | succ n ih =>
    rw [List.replicate_succ, String.ofList_cons, String.utf8ByteSize_append,
      String.utf8ByteSize_singleton, ih, Nat.succ_mul, Nat.add_comm]

/-- The messages of 2048 rows, a mebibyte each, have one byte too many for a column, although their
ids fit and the calendar has enough days. -/
theorem generate_mebibytes_eq_error :
    let time : Instant := .ofParts 1771185600 0
    let message := String.ofList (List.replicate 1048576 'a')
    2048 < 2 ^ 59 ∧ time.IsOnCalendar ∧ (1 : Int64).toInt + (2048 - 1) ≤ 2 ^ 63 - 1 ∧
      2048 ≤ time.daysElapsed + 1 ∧
      generate 1 2048 time message = .error (.abort .internal) := by
  intro time message
  have htime : time.IsOnCalendar := ⟨by decide, by decide⟩
  have hdays : 2048 ≤ time.daysElapsed + 1 := by decide
  have hids : ids 1 2048 = .ok _ := ids_of_le (by decide) (by decide)
  have hlong : columnLimit < 2048 * message.utf8ByteSize := by
    rw [utf8ByteSize_replicate]
    decide
  refine ⟨by decide, htime, by decide, hdays, ?_⟩
  rw [generate_of_ids_eq_ok hids (by decide), stamps_of_le htime hdays]
  exact if_pos hlong

end Batch

end LogTable
