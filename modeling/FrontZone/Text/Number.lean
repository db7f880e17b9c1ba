/-!
# Numbers as people write them

Decimal integers with an optional sign, within the bounds of a word. The first character that cannot
be taken decides what is wrong: it is no digit, or it carries the number past a bound. A minus sign
is a sign only where negative numbers are allowed.
-/

namespace FrontZone

namespace Text

/-- Why a text is no number of the wanted kind. -/
inductive NumberError where
  | empty
  | invalidDigit
  | tooLarge
  | tooSmall
  deriving Repr, DecidableEq

/-- The reason in words. -/
def NumberError.message : NumberError → String
  | empty => "cannot parse integer from empty string"
  | invalidDigit => "invalid digit found in string"
  | tooLarge => "number too large to fit in target type"
  | tooSmall => "number too small to fit in target type"

/-- Takes in digits up to a bound on the number. -/
def readDigitsUpTo (bound : Nat) (error : NumberError) : List Char → Nat → Except NumberError Nat
  | [], n => .ok n
  | c :: rest, n =>
    if c.isDigit then
      let n := n * 10 + (c.toNat - 48)
      if n ≤ bound then readDigitsUpTo bound error rest n else .error error
    else .error .invalidDigit

/-- The number from `-low` to `high` that a text spells, where `low` is zero if there is no sign. -/
def readInteger (low high : Nat) (s : String) : Except NumberError Int :=
  match s.toList with
  | [] => .error .empty
  | ['+'] => .error .invalidDigit
  | ['-'] => .error .invalidDigit
  | '+' :: rest => (readDigitsUpTo high .tooLarge rest 0).map fun n => (n : Int)
  | '-' :: rest =>
    if low = 0 then .error .invalidDigit
    else (readDigitsUpTo low .tooSmall rest 0).map fun n => -(n : Int)
  | cs => (readDigitsUpTo high .tooLarge cs 0).map fun n => (n : Int)

/-- The signed 32-bit word that a text spells. -/
def readInt32 (s : String) : Except NumberError Int32 :=
  (readInteger 2147483648 2147483647 s).map Int32.ofInt

/-- The unsigned 32-bit word that a text spells. -/
def readUInt32 (s : String) : Except NumberError UInt32 :=
  (readInteger 0 4294967295 s).map fun n => UInt32.ofNat n.toNat

end Text

end FrontZone
