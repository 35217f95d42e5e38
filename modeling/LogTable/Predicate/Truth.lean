/-!
# Truth values

Predicates have three truth values: `some b` is known, and `none` is the unknown truth of a
statement about a missing value.  The connectives are known as soon as one side settles them.
-/

namespace LogTable.Predicate

/-- A truth value; `none` is unknown. -/
abbrev Truth : Type := Option Bool

namespace Truth

/-- Both hold. -/
def and : Truth → Truth → Truth
  | some false, _ => some false
  | _, some false => some false
  | some true, some true => some true
  | _, _ => none

/-- One of the two holds. -/
def or : Truth → Truth → Truth
  | some true, _ => some true
  | _, some true => some true
  | some false, some false => some false
  | _, _ => none

/-- The opposite; the opposite of unknown is unknown. -/
def not : Truth → Truth
  | some b => some (!b)
  | none => none

/-- The statement is known to hold. -/
def holds (t : Truth) : Bool :=
  t = some true

end Truth

end LogTable.Predicate
