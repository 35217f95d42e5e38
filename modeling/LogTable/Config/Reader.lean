import LogTable.Config.Document

/-!
# Reading documents

`Document.ofText?` reads a document that assigns texts, whole numbers, truth values and lists of
them to keys, one key on each line.  A text that holds anything else is refused: dates, numbers with
a fraction, tables and keys with dots have no place in a configuration.
-/

namespace LogTable

namespace Document

/-- A character that comments and texts admit: all but the control characters, and the tab. -/
def isPlain (c : Char) : Bool :=
  c == '\t' || (32 ≤ c.toNat && c.toNat != 127)

/-- A blank within a line. -/
def isSpace (c : Char) : Bool :=
  c == ' ' || c == '\t'

/-- What follows a line end at the front. -/
def afterNewline? : List Char → Option (List Char)
  | '\n' :: rest => some rest
  | '\r' :: '\n' :: rest => some rest
  | _ => none

/-- What follows blanks, line ends and comments; `comment` says that a comment is open. -/
def afterGap? (comment : Bool) : List Char → Option (List Char)
  | [] => some []
  | c :: rest =>
    if c = '\n' then afterGap? false rest
    else if c = '\r' then
      if rest.head? = some '\n' then afterGap? false rest else none
    else if comment then
      if isPlain c then afterGap? true rest else none
    else if isSpace c then afterGap? false rest
    else if c = '#' then afterGap? true rest
    else some (c :: rest)

/-- What follows the end of a line, at which only blanks and a comment may stand. -/
def afterLine? (cs : List Char) : Option (List Char) :=
  match cs.dropWhile isSpace with
  | [] => some []
  | c :: rest =>
    if c = '#' ∨ c = '\n' ∨ c = '\r' then afterGap? false (c :: rest) else none

/-! ### Texts -/

/-- A piece of a quoted text. -/
inductive Piece where
  | inside (cs : List Char)
  /-- The last piece, with the closing quote behind it. -/
  | last (cs : List Char)

/-- The value of a hexadecimal digit. -/
def hexValue? (c : Char) : Option Nat :=
  if c.isDigit then some (c.toNat - 48)
  else if 'a' ≤ c ∧ c ≤ 'f' then some (c.toNat - 87)
  else if 'A' ≤ c ∧ c ≤ 'F' then some (c.toNat - 55)
  else none

/-- The character whose number is written in `width` hexadecimal digits at the front. -/
def numberedChar? (width : Nat) (cs : List Char) : Option (Char × List Char) := do
  let digits ← (cs.take width).mapM hexValue?
  let n := digits.foldl (fun n d => 16 * n + d) 0
  if h : n.isValidChar ∧ digits.length = width then
    return (Char.ofNatAux n h.1, cs.drop width)
  else none

/-- The character that stands behind a backslash. -/
def escaped? : List Char → Option (Char × List Char)
  | 'b' :: rest => some ('\x08', rest)
  | 't' :: rest => some ('\t', rest)
  | 'n' :: rest => some ('\n', rest)
  | 'f' :: rest => some ('\x0c', rest)
  | 'r' :: rest => some ('\r', rest)
  | '\x22' :: rest => some ('\x22', rest)
  | '\\' :: rest => some ('\\', rest)
  | 'u' :: rest => numberedChar? 4 rest
  | 'U' :: rest => numberedChar? 8 rest
  | _ => none

/-- The first piece of a text in double quotes. -/
def basicPiece? : List Char → Option (Piece × List Char)
  | [] => none
  | c :: rest =>
    if c = '\x22' then some (.last [], rest)
    else if c = '\\' then (escaped? rest).map fun (d, rest) => (.inside [d], rest)
    else if isPlain c then some (.inside [c], rest)
    else none

/-- The first piece of a text in single quotes. -/
def literalPiece? : List Char → Option (Piece × List Char)
  | [] => none
  | c :: rest =>
    if c = '\x27' then some (.last [], rest)
    else if isPlain c then some (.inside [c], rest)
    else none

/-- A run of quotes within a text in triple quotes.  Up to two stand for themselves; three close the
text, with up to two more in front of them. -/
def quoteRun? (quote : Char) (cs : List Char) : Option (Piece × List Char) :=
  let n := (cs.takeWhile (· == quote)).length
  let rest := cs.dropWhile (· == quote)
  if n < 3 then some (.inside (List.replicate n quote), rest)
  else if n ≤ 5 then some (.last (List.replicate (n - 3) quote), rest)
  else none

/-- A character of a text over several lines.  Every line end counts as the same character. -/
def lineChar? : List Char → Option (Piece × List Char)
  | [] => none
  | c :: rest =>
    match afterNewline? (c :: rest) with
    | some after => some (.inside ['\n'], after)
    | none => if isPlain c then some (.inside [c], rest) else none

/-- The first piece of a text in three double quotes.  A backslash at the end of a line swallows the
blanks and line ends behind it. -/
def longBasicPiece? : List Char → Option (Piece × List Char)
  | [] => none
  | c :: rest =>
    if c = '\x22' then quoteRun? c (c :: rest)
    else if c = '\\' then
      match afterNewline? (rest.dropWhile isSpace) with
      | some after => (afterBlanks after).map fun rest => (.inside [], rest)
      | none => (escaped? rest).map fun (d, rest) => (.inside [d], rest)
    else lineChar? (c :: rest)
where
  /-- What follows blanks and line ends; a carriage return needs its line feed. -/
  afterBlanks : List Char → Option (List Char)
    | [] => some []
    | c :: rest =>
      if isSpace c || c == '\n' then afterBlanks rest
      else if c = '\r' then
        if rest.head? = some '\n' then afterBlanks rest else none
      else some (c :: rest)

/-- The first piece of a text in three single quotes. -/
def longLiteralPiece? : List Char → Option (Piece × List Char)
  | [] => none
  | c :: rest => if c = '\x27' then quoteRun? c (c :: rest) else lineChar? (c :: rest)

/-- The text whose pieces stand at the front, and what follows its closing quote. -/
def pieces? (piece? : List Char → Option (Piece × List Char)) (cs : List Char) :
    Option (List Char × List Char) :=
  match piece? cs with
  | none => none
  | some (.last inside, rest) => some (inside, rest)
  | some (.inside front, rest) =>
    if rest.length < cs.length then
      (pieces? piece? rest).map fun (inside, rest) => (front ++ inside, rest)
    else none
termination_by cs.length

/-- What follows the quotes of a text over several lines: a line end right behind them does not
count. -/
def afterOpening (cs : List Char) : List Char :=
  (afterNewline? cs).getD cs

/-- The quoted text at the front. -/
def quoted? (cs : List Char) : Option (String × List Char) :=
  let found := match cs with
    | '\x22' :: '\x22' :: '\x22' :: rest => pieces? longBasicPiece? (afterOpening rest)
    | '\x27' :: '\x27' :: '\x27' :: rest => pieces? longLiteralPiece? (afterOpening rest)
    | '\x22' :: rest => pieces? basicPiece? rest
    | '\x27' :: rest => pieces? literalPiece? rest
    | _ => none
  found.map fun (inside, rest) => (String.ofList inside, rest)

/-! ### Numbers -/

/-- The number that digits to a base stand for; underscores may stand between two digits. -/
def digits? (base : Nat) (cs : List Char) : Option Nat :=
  match (cs.splitOn '_').mapM fun group => if group = [] then none else group.mapM hexValue? with
  | none => none
  | some groups =>
    let values := groups.flatten
    if values.all (· < base) then some (values.foldl (fun n d => base * n + d) 0) else none

/-- A character of a number. -/
def isNumberChar (c : Char) : Bool :=
  c == '_' || (hexValue? c).isSome

/-- The whole number at the front, in 64 bits.  A base is marked by a zero and a letter, and then
there is no sign; a decimal number has no needless zeros in front. -/
def integer? (cs : List Char) : Option (Int × List Char) := do
  let found ← match cs with
    | '0' :: 'x' :: rest => unsigned 16 rest
    | '0' :: 'o' :: rest => unsigned 8 rest
    | '0' :: 'b' :: rest => unsigned 2 rest
    | '+' :: rest => decimal 1 rest
    | '-' :: rest => decimal (-1) rest
    | rest => decimal 1 rest
  if Int64.minValue.toInt ≤ found.1 ∧ found.1 ≤ Int64.maxValue.toInt then some found else none
where
  /-- The digits at the front, to a base. -/
  unsigned (base : Nat) (cs : List Char) : Option (Int × List Char) :=
    (digits? base (cs.takeWhile isNumberChar)).map fun n =>
      (Int.ofNat n, cs.dropWhile isNumberChar)
  /-- The decimal digits at the front, with a sign. -/
  decimal (sign : Int) (cs : List Char) : Option (Int × List Char) :=
    let front := cs.takeWhile isNumberChar
    if front.head? = some '0' ∧ front ≠ ['0'] then none
    else (unsigned 10 cs).map fun (n, rest) => (sign * n, rest)

/-! ### Items and lines -/

/-- The items of a list, up to its closing bracket; `fuel` bounds their number. -/
def items? (item? : List Char → Option (Item × List Char)) :
    Nat → List Char → Option (List Item × List Char)
  | 0, _ => none
  | fuel + 1, cs => do
    match ← afterGap? false cs with
    | ']' :: rest => return ([], rest)
    | cs =>
      let (item, cs) ← item? cs
      match ← afterGap? false cs with
      | ',' :: rest =>
        let (items, rest) ← items? item? fuel rest
        return (item :: items, rest)
      | ']' :: rest => return ([item], rest)
      | _ => none

/-- What follows a word at the front. -/
def afterWord? (word : String) (cs : List Char) : Option (List Char) :=
  if word.toList.isPrefixOf cs then some (cs.drop word.length) else none

/-- The item at the front; lists nest at most `depth` deep. -/
def item? : (depth : Nat) → List Char → Option (Item × List Char)
  | 0, _ => none
  | depth + 1, cs =>
    match cs with
    | '[' :: rest =>
      (items? (item? depth) (rest.length + 1) rest).map fun (items, rest) => (.list items, rest)
    | cs =>
      match quoted? cs with
      | some (s, rest) => some (.text s, rest)
      | none =>
        match afterWord? "true" cs, afterWord? "false" cs with
        | some rest, _ => some (.boolean true, rest)
        | _, some rest => some (.boolean false, rest)
        | none, none => (integer? cs).map fun (n, rest) => (.integer n, rest)

/-- A character of a key without quotes. -/
def isKeyChar (c : Char) : Bool :=
  c.isAlphanum || c == '_' || c == '-'

/-- The key at the front. -/
def key? (cs : List Char) : Option (String × List Char) :=
  match cs with
  | '\x22' :: rest => (pieces? basicPiece? rest).map fun (k, rest) => (String.ofList k, rest)
  | '\x27' :: rest => (pieces? literalPiece? rest).map fun (k, rest) => (String.ofList k, rest)
  | cs =>
    let word := cs.takeWhile isKeyChar
    if word = [] then none else some (String.ofList word, cs.dropWhile isKeyChar)

/-- The key and the item that a line assigns to it, and what follows the line. -/
def assignment? (cs : List Char) : Option ((String × Item) × List Char) := do
  let (key, cs) ← key? cs
  match cs.dropWhile isSpace with
  | '=' :: rest =>
    let cs := rest.dropWhile isSpace
    let (item, cs) ← item? cs.length cs
    let rest ← afterLine? cs
    return ((key, item), rest)
  | _ => none

/-- The assignments of a text, none of which repeats a key of `seen`; `fuel` bounds their number. -/
def assignments? : (fuel : Nat) → (seen : List String) → List Char → Option Document
  | 0, _, _ => none
  | fuel + 1, seen, cs => do
    match ← afterGap? false cs with
    | [] => return []
    | cs =>
      let (entry, rest) ← assignment? cs
      if entry.1 ∈ seen then none
      else return entry :: (← assignments? fuel (entry.1 :: seen) rest)

/-- A text without the byte order mark in front of it. -/
def withoutMark (cs : List Char) : List Char :=
  match cs with
  | '\ufeff' :: rest => rest
  | cs => cs

/-- The document that a text stands for. -/
def ofText? (s : String) : Option Document :=
  let cs := withoutMark s.toList
  assignments? (cs.length + 1) [] cs

end Document

end LogTable
