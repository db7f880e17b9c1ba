import FrontZone.Json
/-!
# Writing JSON

Documents are written without blanks, members in the order in which they stand. Strings escape the
quote, the backslash and the control characters below the blank, the common ones by letter and the
others by number; everything else is written as it is.
-/

namespace FrontZone

namespace Json

/-! ## Strings -/

/-- The lower-case hexadecimal digit of a number below 16. -/
def hexDigit (n : Nat) : Char :=
  if n < 10 then Char.ofNat (48 + n) else Char.ofNat (87 + n)

/-- How a character is written inside a string. -/
def escapeChar (c : Char) : List Char :=
  if c = '"' then ['\\', '"']
  else if c = '\\' then ['\\', '\\']
  else if c.toNat = 8 then ['\\', 'b']
  else if c.toNat = 9 then ['\\', 't']
  else if c.toNat = 10 then ['\\', 'n']
  else if c.toNat = 12 then ['\\', 'f']
  else if c.toNat = 13 then ['\\', 'r']
  else if c.toNat < 32 then ['\\', 'u', '0', '0', hexDigit (c.toNat / 16), hexDigit (c.toNat % 16)]
  else [c]

/-- A string in quotes. -/
def writeText (s : List Char) : List Char :=
  '"' :: s.flatMap escapeChar ++ ['"']

/-- A string in quotes; one that is no text is written as the escape of a lone surrogate. -/
def writeString : Option String → List Char
  | some s => writeText s.toList
  | none => ['"', '\\', 'u', 'd', '8', '0', '0', '"']

/-! ## Numbers -/

/-- The decimal digits of a number. -/
def natDigits (n : Nat) : List Char := Nat.toDigits 10 n

/-- An integer in decimal. -/
def writeInt (n : Int) : List Char :=
  if n < 0 then '-' :: natDigits n.natAbs else natDigits n.natAbs

/-- An exponent, with its sign always shown. -/
def writeExponent (n : Int) : List Char :=
  'e' :: (if n < 0 then '-' else '+') :: natDigits n.natAbs

/-- A decimal: positional if there are at most 16 places before the point, or at most four zeros
between the point and the first digit, else with an exponent; there is always a fraction or an
exponent. -/
def writeDecimal (d : Decimal) : List Char :=
  let digits := natDigits d.digits
  let length : Int := digits.length
  let point := length + d.exponent
  let sign := if d.negative then ['-'] else []
  let zeros (n : Int) := List.replicate n.toNat '0'
  sign ++
    if d.digits = 0 then ['0', '.', '0']
    else if 0 ≤ d.exponent ∧ point ≤ 16 then digits ++ zeros d.exponent ++ ['.', '0']
    else if 0 < point ∧ point ≤ 16 then
      digits.take point.toNat ++ '.' :: digits.drop point.toNat
    else if -5 < point ∧ point ≤ 0 then '0' :: '.' :: zeros (-point) ++ digits
    else
      digits.take 1 ++ (if 1 < length then '.' :: digits.drop 1 else []) ++
        writeExponent (point - 1)

/-! ## Documents -/

mutual
/-- The text of a document. -/
def write : Json → List Char
  | .null => "null".toList
  | .bool true => "true".toList
  | .bool false => "false".toList
  | .integer n => writeInt n
  | .decimal d => writeDecimal d
  | .string s => writeString s
  | .array es => '[' :: writeElements es
  | .object ms => '\x7b' :: writeMembers ms
/-- The elements of an array with what ends it. -/
def writeElements : List Json → List Char
  | [] => [']']
  | e :: es => write e ++ writeMoreElements es
/-- The elements of an array after the first. -/
def writeMoreElements : List Json → List Char
  | [] => [']']
  | e :: es => ',' :: (write e ++ writeMoreElements es)
/-- The members of an object with what ends it. -/
def writeMembers : List (Option String × Json) → List Char
  | [] => ['\x7d']
  | (k, e) :: ms => writeString k ++ ':' :: (write e ++ writeMoreMembers ms)
/-- The members of an object after the first. -/
def writeMoreMembers : List (Option String × Json) → List Char
  | [] => ['\x7d']
  | (k, e) :: ms => ',' :: (writeString k ++ ':' :: (write e ++ writeMoreMembers ms))
end

/-- The text of a document as a string. -/
def compress (j : Json) : String :=
  String.ofList j.write

end Json

end FrontZone
