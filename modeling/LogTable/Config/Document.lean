/-!
# Configuration documents

A configuration file is a document: a table of keys and items.  `Item` is what can stand behind a
key, in full generality; what a run makes of a document is the matter of `Settings`.
-/

namespace LogTable

/-- What stands behind a key of a document. -/
inductive Item where
  | text (s : String)
  | integer (n : Int)
  /-- A number with a fraction or an exponent, as written. -/
  | real (digits : String)
  | boolean (b : Bool)
  /-- A date or a time, as written. -/
  | moment (s : String)
  | list (items : List Item)
  | table (entries : List (String × Item))

/-- The keys of a document with what stands behind them. -/
abbrev Document : Type := List (String × Item)

namespace Item

/-- The text of an item that is one. -/
def text? : Item → Option String
  | text s => some s
  | _ => none

/-- The truth value of an item that is one. -/
def boolean? : Item → Option Bool
  | boolean b => some b
  | _ => none

/-- The number of an item that is a whole number and not negative. -/
def count? : Item → Option Nat
  | integer n => if 0 ≤ n then some n.toNat else none
  | _ => none

/-- The texts of an item that is a list of texts. -/
def texts? : Item → Option (List String)
  | list items => items.mapM text?
  | _ => none

end Item

end LogTable
