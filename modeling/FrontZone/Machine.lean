import FrontZone.Word
/-!
# Machine arithmetic

The rest of the library computes in exact integers and says of each result how it is brought back to
a word. A machine computes each intermediate result in a word of fixed width, and where that cannot
hold it the program stops or goes on with another number. This module has the operations of such a
machine, each of which either gives the exact result or says what went wrong. Wide numbers have 64
bits. Saturating operations are left out: they are exact by definition.
-/

namespace FrontZone

/-- What can go wrong in one operation. -/
inductive Hazard where
  | divisionByZero
  /-- The exact result does not fit the word. -/
  | overflow
  /-- A number is to be held between bounds of which the lower is above the upper. -/
  | emptyBounds
  /-- A cast to a narrower word changes the number. -/
  | lossyCast
  deriving Repr, DecidableEq

/-- A result, unless something went wrong on the way. -/
abbrev Checked (α : Type) := Except Hazard α

namespace Machine

/-! ## Wide numbers -/

/-- A number that has to fit 64 bits. -/
def wide (n : Int) : Checked Int :=
  if -9223372036854775808 ≤ n ∧ n < 9223372036854775808 then .ok n else .error .overflow

/-- The sum of two numbers. -/
def add (a b : Int) : Checked Int := wide (a + b)

/-- The difference of two numbers. -/
def sub (a b : Int) : Checked Int := wide (a - b)

/-- The product of two numbers. -/
def mul (a b : Int) : Checked Int := wide (a * b)

/-- A number with the other sign. -/
def neg (a : Int) : Checked Int := wide (-a)

/-- The quotient of two numbers, rounded toward zero. -/
def div (a b : Int) : Checked Int :=
  if b = 0 then .error .divisionByZero else wide (a.tdiv b)

/-- The number between two bounds that is nearest to `n`. -/
def clamp (lo hi n : Int) : Checked Int :=
  if lo ≤ hi then .ok (clampInt lo hi n) else .error .emptyBounds

/-! ## Narrower words -/

/-- A number as a signed 32-bit word. -/
def toInt32 (n : Int) : Checked Int32 :=
  if -2147483648 ≤ n ∧ n ≤ 2147483647 then .ok (Int32.ofInt n) else .error .lossyCast

/-- A number as an unsigned 16-bit word. -/
def toUInt16 (n : Int) : Checked UInt16 :=
  if 0 ≤ n ∧ n ≤ 65535 then .ok (UInt16.ofInt n) else .error .lossyCast

/-- The quotient of two signed words, rounded toward zero; only the least word over minus one does
not fit. -/
def divInt32 (a b : Int32) : Checked Int32 :=
  if b = 0 then .error .divisionByZero
  else if a = Int32.minValue ∧ b = -1 then .error .overflow
  else .ok (Int32.ofInt (a.toInt.tdiv b.toInt))

/-- The place that a limited move from one word toward another ends at. -/
def limitedMove (position goal limit : Int32) : Checked Int32 := do
  let lower ← neg limit.toInt
  let step ← clamp lower limit.toInt (← sub goal.toInt position.toInt)
  toInt32 (← add position.toInt step)

/-! ## Counters -/

/-- The next count of a counter of 8 bits. -/
def succUInt8 (n : UInt8) : Checked UInt8 :=
  if n = 255 then .error .overflow else .ok (n + 1)

/-- The count before that of a counter of 8 bits. -/
def predUInt8 (n : UInt8) : Checked UInt8 :=
  if n = 0 then .error .overflow else .ok (n - 1)

/-- The next count of a counter of 16 bits. -/
def succUInt16 (n : UInt16) : Checked UInt16 :=
  if n = 65535 then .error .overflow else .ok (n + 1)

/-- The next count of a counter of 16 bits that stays at its largest value once there. -/
def countUp16 (n : UInt16) : Checked UInt16 :=
  if n = 65535 then .ok n else succUInt16 n

end Machine

end FrontZone
