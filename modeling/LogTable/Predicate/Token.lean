import LogTable.Text.Blank
import LogTable.Text.Case
import LogTable.Text.Letter

/-!
# Tokens of predicates

`Token.ofText?` splits the text of a predicate into tokens.  Blanks and comments separate tokens and
are dropped; comments run from `--` to the end of the line, or from a slash and a star to their
counterpart, and the latter nest.  Only a quote or a comment that is never closed makes a text
unreadable.
-/

namespace LogTable.Predicate

/-- A token of a predicate. -/
inductive Token where
  /-- A name or keyword as written. -/
  | word (name : String)
  /-- A name between quotes. -/
  | quotedName (name : String)
  | number (digits : String)
  | text (content : String)
  | symbol (s : String)
  /-- A text in a notation, or a character, that no expression contains. -/
  | foreign
  deriving DecidableEq, Repr

namespace Token

/-- The token is the given keyword, in upper or lower case. -/
def isKeyword (keyword : String) : Token → Bool
  | word name => Text.upper name == keyword
  | _ => false

/-- A character that starts a name. -/
def startsName (c : Char) : Bool :=
  Text.isLetter c || c == '_' || c == '#' || c == '@'

/-- A character that continues a name. -/
def continuesName (c : Char) : Bool :=
  startsName c || c.isDigit || c == '$'

/-- What stands before the closing quote, and what follows it.  A doubled quote is one quote. -/
def unquote? (quote : Char) : List Char → Option (List Char × List Char)
  | [] => none
  | c :: rest =>
    if c = quote then
      match rest with
      | [] => some ([], [])
      | d :: more =>
        if d = quote then (unquote? quote more).map fun (inside, after) => (quote :: inside, after)
        else some ([], d :: more)
    else (unquote? quote rest).map fun (inside, after) => (c :: inside, after)

/-- What follows a comment in which `depth` further comments are open. -/
def afterComment? : Nat → List Char → Option (List Char)
  | depth, '*' :: '/' :: rest =>
    match depth with
    | 0 => some rest
    | depth + 1 => afterComment? depth rest
  | depth, '/' :: '*' :: rest => afterComment? (depth + 1) rest
  | depth, _ :: rest => afterComment? depth rest
  | _, [] => none

/-- The exponent of a number at the front of a text: an `e`, an optional sign and digits. -/
def exponentOf : List Char → List Char
  | e :: rest =>
    if e = 'e' ∨ e = 'E' then
      match rest with
      | sign :: more =>
        if sign = '+' ∨ sign = '-' then
          match more.takeWhile Char.isDigit with
          | [] => []
          | digits => e :: sign :: digits
        else
          match rest.takeWhile Char.isDigit with
          | [] => []
          | digits => e :: digits
      | [] => []
    else []
  | [] => []

/-- The number at the front of a text: digits, a point and more digits, and an exponent. -/
def numberOf (cs : List Char) : List Char :=
  let whole := cs.takeWhile Char.isDigit
  let rest := cs.drop whole.length
  let places := match rest with
    | '.' :: rest => '.' :: rest.takeWhile Char.isDigit
    | _ => []
  let front := whole ++ places
  front ++ exponentOf (cs.drop front.length)

/-- The symbols, longer ones before their beginnings. -/
def symbols : List String :=
  ["<=>", "!~*", "<=", "<>", "<<", ">=", ">>", "==", "=>", "!=", "!~", "~~", "~*", "||", "&&", "::",
    ":=", "->", "<", ">", "=", "!", "~", "|", "&", ":", "-", "+", "*", "/", "%", "^", "(", ")", "[",
    "]", "\x7b", "\x7d", ",", ";", ".", "?"]

/-- The token at the front of a text that is not blank there, and what follows it. -/
def next? (c : Char) (rest : List Char) : Option (Token × List Char) :=
  if c = '\x27' then
    (unquote? c rest).map fun (inside, after) => (text (String.ofList inside), after)
  else if c = '\x22' ∨ c = '\x60' then
    (unquote? c rest).map fun (inside, after) => (quotedName (String.ofList inside), after)
  else if rest.head? = some '\x27' ∧ c ∈ ['b', 'B', 'e', 'E', 'n', 'N', 'r', 'R', 'x', 'X'] then
    (unquote? '\x27' rest.tail).map fun (_, after) => (foreign, after)
  else if startsName c then
    let name := c :: rest.takeWhile continuesName
    some (word (String.ofList name), rest.dropWhile continuesName)
  else if c = '0' ∧ rest.head? = some 'x' then
    some (foreign, rest.tail.dropWhile fun d => d.isDigit || ('a' ≤ d.toLower && d.toLower ≤ 'f'))
  else if c.isDigit || (c == '.' && rest.head?.any Char.isDigit) then
    let digits := numberOf (c :: rest)
    let after := (c :: rest).drop digits.length
    -- A capital `L` behind a number only says how wide it is.
    some (number (String.ofList digits), if after.head? = some 'L' then after.tail else after)
  else
    match symbols.find? fun s => s.toList.isPrefixOf (c :: rest) with
    | some s => some (symbol s, (c :: rest).drop s.length)
    | none => some (foreign, rest)

/-- The tokens of a list of characters, unless a quote or comment is never closed. -/
def ofChars? (cs : List Char) : Option (List Token) :=
  match cs with
  | [] => some []
  | c :: rest =>
    if Text.isBlank c then ofChars? rest
    else
      let comment := match c, rest with
        | '-', '-' :: rest => some (some (rest.dropWhile (· ≠ '\n')))
        | '/', '*' :: rest => some (afterComment? 0 rest)
        | _, _ => none
      match comment with
      | some none => none
      | some (some after) =>
        if after.length ≤ rest.length then ofChars? after else none
      | none =>
        match next? c rest with
        | none => none
        | some (token, after) =>
          if after.length ≤ rest.length then (ofChars? after).map (token :: ·) else none
termination_by cs.length

/-- The tokens of a text. -/
def ofText? (s : String) : Option (List Token) :=
  ofChars? s.toList

end Token

end LogTable.Predicate
