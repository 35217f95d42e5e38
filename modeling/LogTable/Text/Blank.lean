/-!
# Blank characters

The characters with the Unicode property `White_Space`.  They separate the words of a predicate and
decide whether a predicate holds anything at all: `isBlank` is the class, `isBlankText` says that a
text consists of nothing else.
-/

namespace LogTable.Text

/-- The characters with the Unicode property `White_Space`. -/
def isBlank (c : Char) : Bool :=
  let n := c.toNat
  (0x09 ≤ n && n ≤ 0x0d) || n == 0x20 || n == 0x85 || n == 0xa0 || n == 0x1680 ||
    (0x2000 ≤ n && n ≤ 0x200a) || n == 0x2028 || n == 0x2029 || n == 0x202f || n == 0x205f ||
    n == 0x3000

/-- A text is blank when all of its characters are, so the empty text is blank. -/
def isBlankText (s : String) : Bool :=
  s.toList.all isBlank

@[simp] theorem isBlankText_empty : isBlankText "" = true := by
  simp [isBlankText]

end LogTable.Text
