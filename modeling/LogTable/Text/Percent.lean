/-!
# Percent encoding

`percentEncoded` writes a text with every byte of its UTF-8 form that is not kept as a percent sign
and two hexadecimal digits.
-/

namespace LogTable.Text

/-- The hexadecimal digit for a number below sixteen. -/
def hexDigit (n : Nat) : Char :=
  if n < 10 then Char.ofNat (48 + n) else Char.ofNat (55 + n)

/-- A byte as a percent sign and two hexadecimal digits. -/
def percentByte (b : UInt8) : List Char :=
  ['%', hexDigit (b.toNat / 16), hexDigit (b.toNat % 16)]

/-- A text with the characters that are not kept written as the percent signs of their bytes.  Only
ASCII characters are ever kept. -/
def percentEncoded (keep : Char → Bool) (s : String) : String :=
  String.ofList <| s.toList.flatMap fun c =>
    if c.toNat < 128 ∧ keep c then [c]
    else (String.singleton c).toUTF8.toList.flatMap percentByte

end LogTable.Text
