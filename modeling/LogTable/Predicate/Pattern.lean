import LogTable.Text.Case

/-!
# Text patterns

In a pattern `%` stands for any run of characters, `_` for any single one, and a backslash takes the
character after it literally.  `Pattern.ofText` reads a pattern and `Pattern.covers` matches it
against a whole text.
-/

namespace LogTable.Predicate

/-- One item of a pattern. -/
inductive PatternItem where
  /-- Any run of characters. -/
  | run
  /-- Any single character. -/
  | any
  | literal (c : Char)
  deriving DecidableEq, Repr

/-- A pattern for texts. -/
abbrev Pattern : Type := List PatternItem

namespace Pattern

/-- The pattern that a list of characters stands for.  A backslash at the end stands for itself. -/
def ofChars : List Char → Pattern
  | [] => []
  | '\\' :: c :: rest => .literal c :: ofChars rest
  | c :: rest =>
    (if c = '%' then .run else if c = '_' then .any else .literal c) :: ofChars rest

/-- The pattern that a text stands for. -/
def ofText (text : String) : Pattern :=
  ofChars text.toList

/-- The ends of a list, from the whole list down to the empty one. -/
def ends {α : Type} : List α → List (List α)
  | [] => [[]]
  | c :: cs => (c :: cs) :: ends cs

/-- The pattern matches the whole list of characters. -/
def covers : Pattern → List Char → Bool
  | [], cs => cs.isEmpty
  | .run :: p, cs => (ends cs).any (covers p)
  | .any :: p, cs => match cs with
    | [] => false
    | _ :: cs => covers p cs
  | .literal l :: p, cs => match cs with
    | [] => false
    | c :: cs => l == c && covers p cs

/-- The pattern consists of runs only, and of at least one. -/
def isOnlyRuns (p : Pattern) : Bool :=
  p ≠ [] && p.all (· == .run)

/-- The pattern with its characters folded. -/
def folded (p : Pattern) : Pattern :=
  p.map fun
    | .literal c => .literal (Text.foldChar c)
    | item => item

/-- The text matches the pattern; with `foldCase` lower and upper case count as the same. -/
def matchesText (foldCase : Bool) (pattern text : String) : Bool :=
  if foldCase then (ofText pattern).folded.covers (text.toList.map Text.foldChar)
  else (ofText pattern).covers text.toList

end Pattern

end LogTable.Predicate
