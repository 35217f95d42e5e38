import LogTable.Predicate.Term
import LogTable.Predicate.Token

/-!
# Grammar of predicates

`Term.ofTokens?` reads the term at the front of a list of tokens, and `Term.ofText?` the one at the
front of a text; what follows a complete term does not count.  An operator extends the term on its
left if it binds more strongly than the place where the term stands asks for (`Strength`), and terms
nest at most `Grammar.nestingLimit` deep.
-/

namespace LogTable.Predicate

/-- Reads something at the front of a list of tokens. -/
abbrev Reader (α : Type) : Type := StateT (List Token) Option α

namespace Reader

/-- The token at the front. -/
def peek? : Reader (Option Token) := do
  return (← get).head?

/-- Takes the token at the front. -/
def next : Reader Token := do
  match ← get with
  | [] => failure
  | token :: rest =>
    set rest
    return token

/-- Takes the token at the front if it passes a test, and says whether it did. -/
def takeIf (test : Token → Bool) : Reader Bool := do
  match ← get with
  | [] => return false
  | token :: rest =>
    if test token then
      set rest
      return true
    else return false

/-- Takes a keyword if it stands at the front. -/
def takeKeyword (keyword : String) : Reader Bool :=
  takeIf (·.isKeyword keyword)

/-- Takes a symbol if it stands at the front. -/
def takeSymbol (s : String) : Reader Bool :=
  takeIf (· == .symbol s)

/-- Takes a keyword, which has to stand at the front. -/
def keyword (keyword : String) : Reader Unit := do
  if ← takeKeyword keyword then return () else failure

/-- Takes a symbol, which has to stand at the front. -/
def symbol (s : String) : Reader Unit := do
  if ← takeSymbol s then return () else failure

end Reader

/-- How strongly an operator binds. -/
abbrev Strength : Type := Nat

namespace Strength

def loose : Strength := 0
def or : Strength := 5
def and : Strength := 10
def not : Strength := 15
def is : Strength := 17
def like : Strength := 19
def compare : Strength := 20
def bitOr : Strength := 21
def bitXor : Strength := 22
def bitAnd : Strength := 23
def sum : Strength := 30
def product : Strength := 40
def cast : Strength := 50

end Strength

namespace Grammar

open Reader

/-- How deep terms nest. -/
def nestingLimit : Nat := 50

/-- An operator that stands between two terms. -/
inductive Connective where
  | and
  | or
  | arithmetic (op : ArithmeticOp)
  | compare (op : CompareOp)
  | concat
  | is
  | among
  | between
  | like (foldCase : Bool)
  | cast
  /-- An operator that no predicate contains. -/
  | foreign
  deriving DecidableEq, Repr

/-- An operator with its strength, and whether a `not` stands in front of it. -/
structure Operator where
  connective : Connective
  strength : Strength
  negated : Bool := false
  deriving DecidableEq, Repr

/-- The symbols that stand between two terms. -/
def symbolOperators : List (String × Operator) :=
  [("=", ⟨.compare .equal, .compare, false⟩),
    ("==", ⟨.compare .equal, .compare, false⟩),
    ("<>", ⟨.compare .unequal, .compare, false⟩),
    ("!=", ⟨.compare .unequal, .compare, false⟩),
    ("<", ⟨.compare .less, .compare, false⟩),
    ("<=", ⟨.compare .lessEqual, .compare, false⟩),
    (">", ⟨.compare .greater, .compare, false⟩),
    (">=", ⟨.compare .greaterEqual, .compare, false⟩),
    ("+", ⟨.arithmetic .add, .sum, false⟩),
    ("-", ⟨.arithmetic .subtract, .sum, false⟩),
    ("*", ⟨.arithmetic .multiply, .product, false⟩),
    ("/", ⟨.arithmetic .divide, .product, false⟩),
    ("%", ⟨.arithmetic .remainder, .product, false⟩),
    ("&", ⟨.arithmetic .bitAnd, .bitAnd, false⟩),
    ("|", ⟨.arithmetic .bitOr, .bitOr, false⟩),
    ("^", ⟨.arithmetic .bitXor, .bitXor, false⟩),
    ("||", ⟨.concat, .product, false⟩),
    ("::", ⟨.cast, .cast, false⟩),
    ("<<", ⟨.foreign, .bitXor, false⟩),
    (">>", ⟨.foreign, .bitXor, false⟩),
    ("<=>", ⟨.foreign, .compare, false⟩),
    ("~", ⟨.foreign, .compare, false⟩),
    ("!~", ⟨.foreign, .compare, false⟩),
    ("~*", ⟨.foreign, .compare, false⟩),
    ("!~*", ⟨.foreign, .compare, false⟩),
    ("~~", ⟨.foreign, .compare, false⟩),
    ("->", ⟨.foreign, .is, false⟩),
    ("&&", ⟨.foreign, .cast, false⟩),
    ("!", ⟨.foreign, .cast, false⟩),
    ("[", ⟨.foreign, .cast, false⟩)]

/-- The keywords that stand between two terms. -/
def keywordOperators : List (String × Operator) :=
  [("AND", ⟨.and, .and, false⟩),
    ("OR", ⟨.or, .or, false⟩),
    ("IS", ⟨.is, .is, false⟩),
    ("IN", ⟨.among, .compare, false⟩),
    ("BETWEEN", ⟨.between, .compare, false⟩),
    ("LIKE", ⟨.like false, .like, false⟩),
    ("ILIKE", ⟨.like true, .like, false⟩),
    ("XOR", ⟨.foreign, .bitAnd, false⟩),
    ("DIV", ⟨.foreign, .product, false⟩),
    ("OVERLAPS", ⟨.foreign, .compare, false⟩),
    ("OPERATOR", ⟨.foreign, .compare, false⟩),
    ("RLIKE", ⟨.foreign, .like, false⟩),
    ("REGEXP", ⟨.foreign, .like, false⟩),
    ("SIMILAR", ⟨.foreign, .like, false⟩)]

/-- The keywords that a `not` can stand in front of. -/
def negatable : List String :=
  ["IN", "BETWEEN", "LIKE", "ILIKE", "RLIKE", "REGEXP", "SIMILAR"]

/-- The operator at the front of a list of tokens, and what follows it. -/
def operator? : List Token → Option (Operator × List Token)
  | [] => none
  | .symbol s :: rest => (symbolOperators.lookup s).map (·, rest)
  | token :: rest =>
    if token.isKeyword "NOT" then
      match rest with
      | [] => none
      | token :: rest =>
        (keywordOperators.find? fun e => e.1 ∈ negatable && token.isKeyword e.1).map fun e =>
          ({ e.2 with negated := true }, rest)
    else if token.isKeyword "AT" then
      match rest with
      | time :: zone :: rest =>
        if time.isKeyword "TIME" && zone.isKeyword "ZONE" then
          some (⟨.foreign, .product, false⟩, rest)
        else none
      | _ => none
    else (keywordOperators.find? fun e => token.isKeyword e.1).map fun e => (e.2, rest)

/-- The names of kinds that a number in parentheses can follow. -/
def sizedKinds : List (String × Kind) :=
  [("TINYINT", .int .w8), ("SMALLINT", .int .w16), ("INT2", .int .w16), ("INT", .int .w32),
    ("INTEGER", .int .w32), ("INT4", .int .w32), ("BIGINT", .int .w64), ("INT8", .int .w64),
    ("VARCHAR", .text), ("NVARCHAR", .text), ("CHAR", .text), ("CHARACTER", .text),
    ("STRING", .text), ("FLOAT", .single)]

/-- The names of kinds that nothing follows. -/
def plainKinds : List (String × Kind) :=
  [("BOOL", .bool), ("BOOLEAN", .bool), ("TEXT", .text), ("REAL", .single), ("FLOAT4", .single),
    ("FLOAT8", .real), ("TIMESTAMPTZ", .time)]

/-- Reads the name of a kind. -/
def kind : Reader Kind := do
  let token ← next
  match sizedKinds.find? fun e => token.isKeyword e.1 with
  | some (name, kind) =>
    if name == "CHAR" || name == "CHARACTER" then
      let _ ← takeKeyword "VARYING"
    if ← takeSymbol "(" then
      match ← next with
      | .number _ => symbol ")"
      | _ => failure
    return kind
  | none =>
    match plainKinds.find? fun e => token.isKeyword e.1 with
    | some (_, kind) => return kind
    | none =>
      if token.isKeyword "DOUBLE" then
        let _ ← takeKeyword "PRECISION"
        return .real
      else if token.isKeyword "TIMESTAMP" then
        if ← takeIf fun t => t.isKeyword "WITH" || t.isKeyword "WITHOUT" then
          keyword "TIME"
          keyword "ZONE"
        return .time
      else failure

/-- Reads a text in front of which its kind is written, if one stands there. -/
def typedText? : Reader (Option Term) := fun tokens =>
  match (do
    let kind ← kind
    match ← next with
    | .text content => return Term.cast false kind (.text content)
    | _ => failure : Reader Term) tokens with
  | some (term, rest) => some (some term, rest)
  | none => some (none, tokens)

/-- Reads one or more items with commas between them; `fuel` bounds their number. -/
def commaSeparated {α : Type} (item : Reader α) : Nat → Reader (List α)
  | 0 => failure
  | fuel + 1 => do
    let first ← item
    if ← takeSymbol "," then return first :: (← commaSeparated item fuel) else return [first]

/-- Reads the branches of a `case` whose first `when` is taken; `fuel` bounds their number. -/
def branches (nested : Strength → Reader Term) : Nat → Reader (List (Term × Term))
  | 0 => failure
  | fuel + 1 => do
    let condition ← nested .loose
    keyword "THEN"
    let result ← nested .loose
    if ← takeKeyword "WHEN" then return (condition, result) :: (← branches nested fuel)
    else return [(condition, result)]

/-- Reads what follows the word `case`. -/
def cases (nested : Strength → Reader Term) : Reader Term := do
  let operand ← if ← takeKeyword "WHEN" then pure none
    else
      let operand ← nested .loose
      keyword "WHEN"
      pure (some operand)
  let branches ← branches nested (← get).length
  let otherwise ← if ← takeKeyword "ELSE" then some <$> nested .loose else pure none
  keyword "END"
  return .cases operand branches otherwise

/-- Reads what follows the word `cast`. -/
def castCall (nested : Strength → Reader Term) (lenient : Bool) : Reader Term := do
  symbol "("
  let operand ← nested .loose
  keyword "AS"
  let kind ← kind
  symbol ")"
  return .cast lenient kind operand

/-- The keywords that no column or function is named by. -/
def reservedWords : List String :=
  ["USER", "CURRENT_USER", "SESSION_USER", "CURRENT_CATALOG", "CURRENT_TIMESTAMP", "CURRENT_TIME",
    "CURRENT_DATE", "LOCALTIME", "LOCALTIMESTAMP"]

/-- Reads a column or a call of a function whose name is taken; `name` names the column and
`functionName` the function. -/
def named (nested : Strength → Reader Term) (name functionName : String) : Reader Term := do
  if ← takeSymbol "(" then
    match Function.ofName? functionName with
    | none => failure
    | some function =>
      if ← takeSymbol ")" then return .call function []
      else
        let arguments ← commaSeparated (nested .loose) (← get).length
        symbol ")"
        return .call function arguments
  else if ← takeSymbol "." then failure
  else return .column name

/-- Reads a term without operators between its parts. -/
def operand (nested : Strength → Reader Term) : Reader Term := do
  if let some term ← typedText? then return term
  match ← next with
  | .number digits => return .number false digits
  | .text content => return .text content
  | .quotedName name => named nested name name
  | .symbol "-" => return (← nested .product).minus
  | .symbol "+" => return .plus (← nested .product)
  | .symbol "(" =>
    let inner ← nested .loose
    symbol ")"
    return inner
  | .word name =>
    let token := Token.word name
    if token.isKeyword "TRUE" then return .bool true
    else if token.isKeyword "FALSE" then return .bool false
    else if token.isKeyword "NULL" then return .null
    else if token.isKeyword "NOT" then return .not (← nested .not)
    else if token.isKeyword "CASE" then cases nested
    else if token.isKeyword "CAST" then castCall nested false
    else if token.isKeyword "TRY_CAST" || token.isKeyword "SAFE_CAST" then castCall nested true
    else if reservedWords.any token.isKeyword then failure
    else named nested name (Text.lower name)
  | _ => failure

/-- Reads what follows the word `is` behind a term. -/
def testOf (nested : Strength → Reader Term) (t : Term) : Reader Term := do
  let negated ← takeKeyword "NOT"
  if ← takeKeyword "NULL" then return .test .null negated t
  else if ← takeKeyword "TRUE" then return .test .true negated t
  else if ← takeKeyword "FALSE" then return .test .false negated t
  else if ← takeKeyword "UNKNOWN" then return .test .unknown negated t
  else
    keyword "DISTINCT"
    keyword "FROM"
    return .distinct negated t (← nested .loose)

/-- Reads what follows an operator behind the term `t`. -/
def application (nested : Strength → Reader Term) (operator : Operator) (t : Term) :
    Reader Term := do
  let right : Reader Term := do
    if (← peek?).any fun token => ["ANY", "ALL", "SOME"].any token.isKeyword then failure
    nested operator.strength
  match operator.connective with
  | .and => return .and t (← right)
  | .or => return .or t (← right)
  | .arithmetic op => return .arithmetic op t (← right)
  | .compare op => return .compare op t (← right)
  | .concat => return .concat t (← right)
  | .is => testOf nested t
  | .among =>
    symbol "("
    let items ← commaSeparated (nested .loose) (← get).length
    symbol ")"
    return .among operator.negated t items
  | .between =>
    let low ← nested .compare
    keyword "AND"
    return .between operator.negated t low (← nested .compare)
  | .like foldCase =>
    let pattern ← right
    if ← takeKeyword "ESCAPE" then
      match ← next with
      | .text "\\" => return .like foldCase operator.negated t pattern
      | _ => failure
    else return .like foldCase operator.negated t pattern
  | .cast => return .cast false (← kind) t
  | .foreign => failure

/-- Extends a term by the operators behind it that bind more strongly than `strength`; `fuel` bounds
their number. -/
def extend (nested : Strength → Reader Term) (strength : Strength) : Nat → Term → Reader Term
  | 0, t => return t
  | fuel + 1, t => do
    match operator? (← get) with
    | none => return t
    | some (operator, rest) =>
      if strength < operator.strength then
        set rest
        extend nested strength fuel (← application nested operator t)
      else return t

/-- Reads a term that stands at a place of the given strength; terms nest at most `depth` deep. -/
def term : (depth : Nat) → Strength → Reader Term
  | 0, _ => failure
  | depth + 1, strength => do
    let first ← operand (term depth)
    if ← takeKeyword "COLLATE" then failure
    extend (term depth) strength (← get).length first

end Grammar

namespace Term

/-- The term at the front of a list of tokens, if there is one. -/
def ofTokens? (tokens : List Token) : Option Term :=
  ((Grammar.term Grammar.nestingLimit .loose).run tokens).map Prod.fst

/-- The term at the front of a text, if all of the text splits into tokens. -/
def ofText? (s : String) : Option Term :=
  (Token.ofText? s).bind ofTokens?

end Term

end LogTable.Predicate
