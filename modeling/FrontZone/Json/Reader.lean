import FrontZone.Json
/-!
# Reading JSON

A strict reader: blanks are the space, the tab and the two line ends, numbers have no leading zeros,
strings hold no control characters and only the standard escapes, and nothing but blanks may follow
the document. Each function takes the characters that are left and gives those left after it. The
depth of a document is bounded by its length, which is the fuel of the descent.
-/

namespace FrontZone

namespace Json

/-! ## Characters -/

/-- The characters that may stand between the parts of a document. -/
def isBlank (c : Char) : Bool :=
  c = ' ' || c = '\t' || c = '\n' || c = '\r'

/-- What is left after leading blanks. -/
def skipBlank (cs : List Char) : List Char :=
  cs.dropWhile isBlank

/-- The value of a hexadecimal digit. -/
def hexValue? (c : Char) : Option Nat :=
  if '0' ≤ c ∧ c ≤ '9' then some (c.toNat - 48)
  else if 'a' ≤ c ∧ c ≤ 'f' then some (c.toNat - 87)
  else if 'A' ≤ c ∧ c ≤ 'F' then some (c.toNat - 55)
  else none

/-- The number of four hexadecimal digits. -/
def hexUnit? (a b c d : Char) : Option Nat := do
  let a ← hexValue? a
  let b ← hexValue? b
  let c ← hexValue? c
  let d ← hexValue? d
  return ((a * 16 + b) * 16 + c) * 16 + d

/-- The character of a one-letter escape. -/
def escapeLetter? (c : Char) : Option Char :=
  if c = '"' ∨ c = '\\' ∨ c = '/' then some c
  else if c = 'b' then some (Char.ofNat 8)
  else if c = 'f' then some (Char.ofNat 12)
  else if c = 'n' then some (Char.ofNat 10)
  else if c = 'r' then some (Char.ofNat 13)
  else if c = 't' then some (Char.ofNat 9)
  else none

/-! ## Strings -/

/-- Whether a UTF-16 unit is the first half of a pair. -/
def isHighSurrogate (u : Nat) : Bool := 0xD800 ≤ u && u < 0xDC00

/-- Whether a UTF-16 unit is the second half of a pair. -/
def isLowSurrogate (u : Nat) : Bool := 0xDC00 ≤ u && u < 0xE000

/-- The character of a pair of UTF-16 units. -/
def pairedChar (high low : Nat) : Char :=
  Char.ofNat (0x10000 + (high - 0xD800) * 0x400 + (low - 0xDC00))

/-- A character before what was read, if that is text. -/
def prepend (c : Char) (r : Option (List Char) × List Char) : Option (List Char) × List Char :=
  (r.1.map (c :: ·), r.2)

/-- What was read is no text. -/
def spoil (r : Option (List Char) × List Char) : Option (List Char) × List Char :=
  (none, r.2)

/-- The rest of a string after its opening quote: its characters, unless an unpaired surrogate
spoils them, and what is left after the closing quote. -/
def readText : List Char → Option (Option (List Char) × List Char)
  | [] => none
  | '"' :: r => some (some [], r)
  | '\\' :: 'u' :: a :: b :: c :: d :: r =>
    match hexUnit? a b c d with
    | none => none
    | some u =>
      if isHighSurrogate u then
        match r with
        | '\\' :: 'u' :: e :: f :: g :: h :: r' =>
          match hexUnit? e f g h with
          | none => none
          | some v =>
            if isLowSurrogate v then (readText r').map (prepend (pairedChar u v))
            else (readText ('\\' :: 'u' :: e :: f :: g :: h :: r')).map spoil
        | r => (readText r).map spoil
      else if isLowSurrogate u then (readText r).map spoil
      else (readText r).map (prepend (Char.ofNat u))
  | '\\' :: c :: r =>
    match escapeLetter? c with
    | none => none
    | some c => (readText r).map (prepend c)
  | c :: r => if c = '\\' ∨ c.toNat < 32 then none else (readText r).map (prepend c)

/-- The rest of a string after its opening quote. -/
def readString (cs : List Char) : Option (Option String × List Char) :=
  (readText cs).map fun r => (r.1.map String.ofList, r.2)

/-! ## Numbers -/

/-- Leading decimal digits, at least one, and what is left. -/
def readDigits (cs : List Char) : Option (List Char × List Char) :=
  match cs.takeWhile Char.isDigit with
  | [] => none
  | ds => some (ds, cs.dropWhile Char.isDigit)

/-- The number that decimal digits stand for. -/
def digitsValue (ds : List Char) : Nat :=
  ds.foldl (fun n d => n * 10 + (d.toNat - 48)) 0

/-- The digits before the point: a single zero, or digits that do not begin with one. -/
def readWhole : List Char → Option (List Char × List Char)
  | '0' :: r => some (['0'], r)
  | cs => readDigits cs

/-- The digits after a point, if there is one. -/
def readFraction : List Char → Option (Option (List Char) × List Char)
  | '.' :: r => (readDigits r).map fun d => (some d.1, d.2)
  | cs => some (none, cs)

/-- The digits of an exponent with their sign. -/
def readSignedDigits : List Char → Option (Int × List Char)
  | '-' :: r => (readDigits r).map fun d => (-(digitsValue d.1 : Int), d.2)
  | '+' :: r => (readDigits r).map fun d => ((digitsValue d.1 : Int), d.2)
  | cs => (readDigits cs).map fun d => ((digitsValue d.1 : Int), d.2)

/-- The exponent, if there is one. -/
def readExponent : List Char → Option (Option Int × List Char)
  | 'e' :: r => (readSignedDigits r).map fun d => (some d.1, d.2)
  | 'E' :: r => (readSignedDigits r).map fun d => (some d.1, d.2)
  | cs => some (none, cs)

/-- Appends digits to a number for as long as it fits 64 bits, and counts those left over. -/
def appendDigits : Nat → List Char → Nat × Nat
  | n, [] => (n, 0)
  | n, d :: ds =>
    let next := n * 10 + (d.toNat - 48)
    if next < 18446744073709551616 then appendDigits next ds else (n, ds.length + 1)

/-- The decimal of its parts, with as many digits as fit 64 bits: digits left over before the point
count as zeros, and those left over after it for nothing. -/
def decimalOf (negative : Bool) (whole fraction : List Char) (exponent : Int) : Decimal :=
  let (n, skipped) := appendDigits 0 whole
  let (digits, cut) := appendDigits n fraction
  ⟨negative, digits, exponent + skipped - (fraction.length - cut)⟩

/-- The number of its parts; minus zero is a decimal. -/
def ofNumberParts (negative : Bool) (whole : List Char) (fraction : Option (List Char))
    (exponent : Option Int) : Json :=
  match fraction, exponent with
  | none, none =>
    let n := digitsValue whole
    if negative then
      if n = 0 then .decimal ⟨true, 0, 0⟩ else .integer (-(n : Int))
    else .integer n
  | _, _ => .decimal (decimalOf negative whole (fraction.getD []) (exponent.getD 0))

/-- A number without its sign. -/
def readUnsigned (negative : Bool) (cs : List Char) : Option (Json × List Char) := do
  let (whole, r) ← readWhole cs
  let (fraction, r) ← readFraction r
  let (exponent, r) ← readExponent r
  return (ofNumberParts negative whole fraction exponent, r)

/-- A number. -/
def readNumber : List Char → Option (Json × List Char)
  | '-' :: r => readUnsigned true r
  | cs => readUnsigned false cs

/-! ## Documents -/

mutual
/-- A document after leading blanks. -/
def readValue : Nat → List Char → Option (Json × List Char)
  | 0, _ => none
  | fuel + 1, cs =>
    match skipBlank cs with
    | '\x7b' :: r =>
      match skipBlank r with
      | '\x7d' :: r => some (.object [], r)
      | r => (readMembers fuel r).map fun p => (.object p.1, p.2)
    | '[' :: r =>
      match skipBlank r with
      | ']' :: r => some (.array [], r)
      | r => (readElements fuel r).map fun p => (.array p.1, p.2)
    | '"' :: r => (readString r).map fun p => (.string p.1, p.2)
    | 'n' :: 'u' :: 'l' :: 'l' :: r => some (.null, r)
    | 't' :: 'r' :: 'u' :: 'e' :: r => some (.bool true, r)
    | 'f' :: 'a' :: 'l' :: 's' :: 'e' :: r => some (.bool false, r)
    | r => readNumber r
/-- The elements of an array that has some, with what ends it. -/
def readElements : Nat → List Char → Option (List Json × List Char)
  | 0, _ => none
  | fuel + 1, cs =>
    match readValue fuel cs with
    | none => none
    | some (v, r) =>
      match skipBlank r with
      | ',' :: r => (readElements fuel r).map fun p => (v :: p.1, p.2)
      | ']' :: r => some ([v], r)
      | _ => none
/-- The members of an object that has some, with what ends it. -/
def readMembers : Nat → List Char → Option (List (Option String × Json) × List Char)
  | 0, _ => none
  | fuel + 1, cs =>
    match readMember fuel cs with
    | none => none
    | some (m, r) =>
      match skipBlank r with
      | ',' :: r => (readMembers fuel r).map fun p => (m :: p.1, p.2)
      | '\x7d' :: r => some ([m], r)
      | _ => none
/-- One member: a string, a colon and a document. -/
def readMember : Nat → List Char → Option ((Option String × Json) × List Char)
  | 0, _ => none
  | fuel + 1, cs =>
    match skipBlank cs with
    | '"' :: r =>
      match readString r with
      | none => none
      | some (k, r) =>
        match skipBlank r with
        | ':' :: r => (readValue fuel r).map fun p => ((k, p.1), p.2)
        | _ => none
    | _ => none
end

/-- The fuel that suffices for a text: every two steps of the descent consume a character. -/
def fuelFor (cs : List Char) : Nat := 3 * cs.length + 3

/-- The document that a text consists of, blanks around it allowed. -/
def read? (cs : List Char) : Option Json :=
  match readValue (fuelFor cs) cs with
  | some (j, r) => if skipBlank r = [] then some j else none
  | none => none

/-- The document that a string consists of. -/
def parse? (s : String) : Option Json := read? s.toList

end Json

end FrontZone
