import LogTable.Proofs.TableUri
import LogTable.Table.Commit
import Mathlib.Data.List.Nodup
import Mathlib.Data.List.Perm.Subperm
import Mathlib.Data.List.Range
import Mathlib.Tactic.Linarith

/-!
# Names of the files of a table

Versions are written in twenty digits, so that a name of the log stands for at most one version
(`versionOf?_eq_some_iff`).  Data files get names that no file in their directory has
(`find?_freshName`).  All names that a table makes are plain.
-/

namespace LogTable

/-! ### Plain names -/

/-- A name without slashes that does not start with a dot is plain. -/
theorem isPlainName_of_cons {name : String} {c : Char} {cs : List Char}
    (h : name.toList = c :: cs) (hc : c ≠ '.') (hslash : '/' ∉ name.toList) : IsPlainName name := by
  have hne : ∀ dots : String, dots.toList.head? ≠ some c → name ≠ dots := by
    rintro dots hdots rfl
    simp [h] at hdots
  exact ⟨hne "" (by simp), hne "." (by simpa using Ne.symm hc),
    hne ".." (by simpa using Ne.symm hc), hslash⟩

/-- Percent encoding that does not keep slashes writes none. -/
theorem not_mem_percentEncoded {keep : Char → Bool} {text : String} (hkeep : keep '/' = false) :
    '/' ∉ (Text.percentEncoded keep text).toList := by
  have hdigit : ∀ n < 16, '/' ≠ Text.hexDigit n := by decide
  intro hmem
  simp only [Text.percentEncoded, String.toList_ofList, List.mem_flatMap] at hmem
  obtain ⟨c, -, hc⟩ := hmem
  split_ifs at hc with h
  · rw [← List.mem_singleton.mp hc, hkeep] at h
    exact absurd h.2 (by simp)
  · obtain ⟨byte, -, hbyte⟩ := List.mem_flatMap.mp hc
    have hlt := byte.toNat_lt
    simp only [Text.percentByte, List.mem_cons, List.not_mem_nil, or_false] at hbyte
    rcases hbyte with h | h | h
    · exact absurd h (by decide)
    · exact hdigit _ (by omega) h
    · exact hdigit _ (by omega) h

/-- The directory for a value of a column starts with a letter. -/
theorem exists_toList_directoryName (column : Column) (cell : Cell) :
    ∃ c cs, (Partition.directoryName column cell).toList = c :: cs ∧ c ≠ '.' ∧ c ≠ '_' := by
  obtain ⟨c, cs, hname, hc⟩ : ∃ c cs, column.name.toList = c :: cs ∧ c ≠ '.' ∧ c ≠ '_' := by
    cases column <;> exact ⟨_, _, rfl, by decide⟩
  rw [Partition.directoryName, String.toList_append, String.toList_append, hname]
  exact ⟨c, _, rfl, hc⟩

/-- The directory for a value of a column has a plain name, whatever the value is. -/
theorem isPlainName_directoryName (column : Column) (cell : Cell) :
    IsPlainName (Partition.directoryName column cell) := by
  obtain ⟨c, cs, hlist, hdot, -⟩ := exists_toList_directoryName column cell
  refine isPlainName_of_cons hlist hdot ?_
  simp only [Partition.directoryName, String.toList_append, List.mem_append, not_or]
  refine ⟨⟨?_, by decide⟩, not_mem_percentEncoded (by decide)⟩
  cases column <;> decide

/-! ### Digits -/

/-- What digits stand for is below the power of ten with as many zeros. -/
theorem ofDigitChars_lt {digits : List Char} (h : ∀ d ∈ digits, d.isDigit) :
    Nat.ofDigitChars 10 digits 0 < 10 ^ digits.length := by
  induction digits with
  | nil => simp
  | cons d digits ih =>
    rw [List.forall_mem_cons] at h
    obtain ⟨hlow, hhigh⟩ := Char.isDigit_iff_toNat.mp h.1
    have hd : d.toNat - '0'.toNat ≤ 9 := by
      change d.toNat ≤ 57 at hhigh
      change d.toNat - 48 ≤ 9
      omega
    have hrest := ih h.2
    rw [Nat.ofDigitChars_cons, Nat.ofDigitChars_eq_ofDigitChars_zero, Nat.mul_zero, Nat.zero_add,
      List.length_cons, Nat.pow_succ]
    nlinarith

/-- Equally many digits that stand for the same number are the same. -/
theorem eq_of_ofDigitChars_eq {first second : List Char} (hfirst : ∀ d ∈ first, d.isDigit)
    (hsecond : ∀ d ∈ second, d.isDigit) (hlength : first.length = second.length)
    (h : Nat.ofDigitChars 10 first 0 = Nat.ofDigitChars 10 second 0) : first = second := by
  induction first generalizing second with
  | nil => exact (List.length_eq_zero_iff.mp hlength.symm).symm
  | cons c cs ih =>
    cases second with
    | nil => cases hlength
    | cons d ds =>
      rw [List.forall_mem_cons] at hfirst hsecond
      have hlen : cs.length = ds.length := Nat.succ.inj hlength
      simp only [Nat.ofDigitChars_cons, Nat.mul_zero, Nat.zero_add] at h
      rw [Nat.ofDigitChars_eq_ofDigitChars_zero (l := cs),
        Nat.ofDigitChars_eq_ofDigitChars_zero (l := ds), hlen] at h
      have hcs := ofDigitChars_lt hfirst.2
      have hds := ofDigitChars_lt hsecond.2
      rw [hlen] at hcs
      have hhead : c.toNat - '0'.toNat = d.toNat - '0'.toNat := by
        have hdiv := congrArg (· / 10 ^ ds.length) h
        simpa only [Nat.mul_add_div (Nat.pow_pos (by decide : 0 < 10)), Nat.div_eq_of_lt hcs,
          Nat.div_eq_of_lt hds, Nat.add_zero] using hdiv
      have htail : cs = ds := ih hfirst.2 hsecond.2 hlen (by rw [hhead] at h; omega)
      have hc := (Char.isDigit_iff_toNat.mp hfirst.1).1
      have hd := (Char.isDigit_iff_toNat.mp hsecond.1).1
      rw [htail, Char.toNat_inj.mp (by omega : c.toNat = d.toNat)]

namespace Log

/-! ### Versions in names -/

/-- The number of versions that twenty digits tell apart. -/
def digitsLimit : Nat := 10 ^ 20

/-- The digits of a version: its own, behind as many zeros as are missing. -/
theorem toList_versionText (version : Nat) :
    (versionText version).toList =
      List.replicate (20 - (Nat.toDigits 10 version).length) '0' ++ Nat.toDigits 10 version := by
  have hlength : version.repr.length = (Nat.toDigits 10 version).length := by
    rw [← String.length_toList, Nat.toList_repr]
  simp [versionText, Civil.padded, String.toList_append, String.toList_ofList, hlength]

theorem isDigit_of_mem_versionText {version : Nat} {d : Char}
    (h : d ∈ (versionText version).toList) : d.isDigit := by
  rw [toList_versionText, List.mem_append] at h
  rcases h with h | h
  · rw [List.eq_of_mem_replicate h]
    rfl
  · exact Nat.isDigit_of_mem_toDigits (by decide) (by decide) h

theorem length_versionText {version : Nat} (h : version < digitsLimit) :
    (versionText version).toList.length = 20 := by
  have hle : (Nat.toDigits 10 version).length ≤ 20 :=
    (Nat.length_toDigits_le_iff (by decide) (by decide)).mpr h
  rw [toList_versionText, List.length_append, List.length_replicate]
  omega

theorem ofDigitChars_versionText (version : Nat) :
    Nat.ofDigitChars 10 (versionText version).toList 0 = version := by
  simp [toList_versionText, Nat.ofDigitChars_append]

/-- A name stands for a version exactly if it is the name of the version. -/
theorem versionOf?_eq_some_iff {ending name : String} {version : Nat} :
    versionOf? ending name = some version ↔
      version < digitsLimit ∧ name = versionText version ++ ending := by
  unfold versionOf?
  constructor
  · intro h
    simp only at h
    split_ifs at h with hname
    obtain ⟨hlength, hall, hdrop⟩ := hname
    have hdigits : ∀ d ∈ name.toList.take 20, d.isDigit := List.all_eq_true.mp hall
    have hversion : Nat.ofDigitChars 10 (name.toList.take 20) 0 = version := Option.some.inj h
    have hlt : version < digitsLimit := by
      have := ofDigitChars_lt hdigits
      rwa [hlength, hversion] at this
    have htake : name.toList.take 20 = (versionText version).toList :=
      eq_of_ofDigitChars_eq hdigits (fun d hd => isDigit_of_mem_versionText hd)
        (hlength.trans (length_versionText hlt).symm)
        (hversion.trans (ofDigitChars_versionText version).symm)
    refine ⟨hlt, ?_⟩
    rw [← String.toList_inj, String.toList_append, ← htake, ← hdrop, List.take_append_drop]
  · rintro ⟨hlt, rfl⟩
    have hlength := length_versionText hlt
    have htake : (versionText version ++ ending).toList.take 20 = (versionText version).toList := by
      rw [String.toList_append, ← hlength, List.take_left]
    have hdrop : (versionText version ++ ending).toList.drop 20 = ending.toList := by
      rw [String.toList_append, ← hlength, List.drop_left]
    have hall : (versionText version).toList.all Char.isDigit = true :=
      List.all_eq_true.mpr fun d hd => isDigit_of_mem_versionText hd
    simp only [htake, hdrop, hlength, hall, and_self, if_true]
    exact congrArg some (ofDigitChars_versionText version)

/-- The files of the log have plain names. -/
theorem isPlainName_versionText_append {ending : String} (version : Nat)
    (hending : '/' ∉ ending.toList) : IsPlainName (versionText version ++ ending) := by
  have hdigits : ∀ d ∈ (versionText version).toList, d ≠ '.' ∧ d ≠ '/' := by
    intro d hd
    have hdigit := isDigit_of_mem_versionText hd
    constructor <;> rintro rfl <;> exact absurd hdigit (by decide)
  have hne : (versionText version).toList ≠ [] := by
    rw [toList_versionText]
    simp [Nat.toDigits_ne_nil]
  obtain ⟨c, cs, hcs⟩ := List.exists_cons_of_ne_nil hne
  have hlist : (versionText version ++ ending).toList = c :: (cs ++ ending.toList) := by
    simp [hcs]
  refine isPlainName_of_cons hlist (hdigits c (by simp [hcs])).1 ?_
  rw [String.toList_append, List.mem_append, not_or]
  exact ⟨fun h => (hdigits _ h).2 rfl, hending⟩

end Log

namespace Table

/-! ### Fresh names -/

/-- The name of a data file, character by character. -/
theorem toList_dataName (version serial : Nat) :
    (dataName version serial).toList =
      "part-".toList ++ Nat.toDigits 10 version ++ "-".toList ++ Nat.toDigits 10 serial ++
        ".parquet".toList := by
  change ("part-" ++ version.repr ++ "-" ++ serial.repr ++ ".parquet").toList = _
  simp only [String.toList_append, Nat.toList_repr]

/-- The numbers of data files tell them apart. -/
theorem dataName_injective (version : Nat) : Function.Injective (dataName version) := by
  intro i j h
  have hlist := congrArg String.toList h
  simp only [toList_dataName, List.append_assoc, List.append_cancel_left_eq] at hlist
  have hdigits := List.append_cancel_right hlist
  simpa using congrArg (fun digits => Nat.ofDigitChars 10 digits 0) hdigits

/-- Data files have plain names. -/
theorem isPlainName_dataName (version serial : Nat) : IsPlainName (dataName version serial) := by
  have hdigits : ∀ n : Nat, '/' ∉ Nat.toDigits 10 n := fun n h =>
    absurd (Nat.isDigit_of_mem_toDigits (by decide) (by decide) h) (by decide)
  refine isPlainName_of_cons (toList_dataName version serial) (by decide) ?_
  simp only [toList_dataName, List.mem_append, not_or]
  exact ⟨⟨⟨⟨by decide, hdigits _⟩, by decide⟩, hdigits _⟩, by decide⟩

/-- The search for a free number ends at one, if there is one within its reach. -/
theorem firstFree_eq_false (taken : Nat → Bool) {fuel n k : Nat} (hn : n ≤ k) (hk : k ≤ n + fuel)
    (hfree : taken k = false) : taken (firstFree taken fuel n) = false := by
  induction fuel generalizing n with
  | zero =>
    obtain rfl : n = k := by omega
    exact hfree
  | succ fuel ih =>
    rw [firstFree]
    split_ifs with htaken
    · have hne : n ≠ k := fun h => by simp [h, hfree] at htaken
      exact ih (by omega) (by omega)
    · simpa using htaken

/-- A tree holds fewer data files than there are names for them. -/
theorem exists_find?_dataName_eq_none (tree : FileTree Content) (directory : Location)
    (version : Nat) :
    ∃ k ≤ tree.entries.length, tree.find? (directory ++ [dataName version k]) = none := by
  by_contra! hall
  have hinjective : Function.Injective fun k => directory ++ [dataName version k] := fun i j h =>
    dataName_injective version (by simpa using h)
  have hsubset : (List.range (tree.entries.length + 1)).map
      (fun k => directory ++ [dataName version k]) ⊆ tree.entries.map Prod.fst := by
    intro l hl
    obtain ⟨k, hk, rfl⟩ := List.mem_map.mp hl
    obtain ⟨entry, hentry⟩ :=
      Option.ne_none_iff_exists'.mp (hall k (Nat.lt_succ_iff.mp (List.mem_range.mp hk)))
    exact List.mem_map_of_mem (f := Prod.fst) ((tree.find?_eq_some_iff (by simp)).mp hentry)
  have hle := (List.subperm_of_subset (List.nodup_range.map hinjective) hsubset).length_le
  simp at hle

/-- Nothing stands at the name for a new data file. -/
theorem find?_freshName (tree : FileTree Content) (directory : Location) (version : Nat) :
    tree.find? (directory ++ [freshName tree directory version]) = none := by
  obtain ⟨k, hk, hfree⟩ := exists_find?_dataName_eq_none tree directory version
  have hnone := firstFree_eq_false
    (fun n => (tree.find? (directory ++ [dataName version n])).isSome) (Nat.zero_le k)
    (by omega : k ≤ 0 + tree.entries.length) (by simp [hfree])
  simpa [freshName] using hnone

end Table

end LogTable
