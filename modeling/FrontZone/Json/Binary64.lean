import FrontZone.Json
/-!
# Decimals as binary64 numbers

A reader that keeps numbers as binary64 sees a decimal only up to rounding. `Decimal.toFloat?` is
that rounding: at most twenty significant digits count (as many as fit 64 bits), and they are scaled
by exact powers of ten. `Decimal.ofFloat` goes back: among the decimals that round to the number it
takes the fewest digits, and of those the nearest to it.
-/

namespace FrontZone

namespace Decimal

/-! ## Rounding -/

/-- Drops last digits until the number fits 64 bits, and counts them. -/
def fitDigits : Nat → Nat → Nat → Nat × Nat
  | 0, n, dropped => (n, dropped)
  | fuel + 1, n, dropped =>
    if n < 18446744073709551616 then (n, dropped) else fitDigits fuel (n / 10) (dropped + 1)

/-- Ten to the power `n`, for `n ≤ 308`. -/
def tenTo (n : Nat) : Float := Float.ofScientific 1 false n

/-- A number times ten to a power, none if it exceeds binary64. -/
def scale (f : Float) (exponent : Int) : Option Float :=
  if 0 ≤ exponent then
    if 308 < exponent then if f == 0 then some f else none
    else
      let f := f * tenTo exponent.toNat
      if f.isInf then none else some f
  else
    let n := exponent.natAbs
    if n ≤ 308 then some (f / tenTo n)
    else if n ≤ 616 then some (f / tenTo 308 / tenTo (n - 308))
    else some (f / tenTo 308 / tenTo 308 / tenTo 308)

/-- The binary64 number that a decimal is taken for, none if it exceeds them. -/
def toFloat? (d : Decimal) : Option Float :=
  let (n, dropped) := fitDigits (Nat.log2 d.digits + 1) d.digits 0
  (scale (UInt64.ofNat n).toFloat (d.exponent + dropped)).map fun f =>
    if d.negative then -f else f

/-! ## The shortest decimal -/

/-- A positive binary64 number as numerators over one denominator: the number itself and the ends of
the interval of numbers that round to it, which belong to it if `closed`. -/
structure Neighbourhood where
  value : Nat
  low : Nat
  high : Nat
  denominator : Nat
  closed : Bool

/-- The neighbourhood of the positive number of these bits. -/
def Neighbourhood.ofBits (bits : UInt64) : Neighbourhood :=
  let fraction := (bits &&& 0xFFFFFFFFFFFFF).toNat
  let field := ((bits >>> 52) &&& 0x7FF).toNat
  let m := if field = 0 then fraction else fraction + 4503599627370496
  let q : Int := (if field = 0 then 1 else field : Nat) - 1077
  let low := if fraction = 0 ∧ 1 < field then 4 * m - 1 else 4 * m - 2
  let up := Nat.pow 2 q.toNat
  ⟨4 * m * up, low * up, (4 * m + 2) * up, Nat.pow 2 (-q).toNat, m % 2 = 0⟩

/-- Whether `c · 10 ^ e` lies in the interval. -/
def Neighbourhood.contains (b : Neighbourhood) (c : Nat) (e : Int) : Bool :=
  let x := c * Nat.pow 10 e.toNat * b.denominator
  let scale := Nat.pow 10 (-e).toNat
  if b.closed then b.low * scale ≤ x && x ≤ b.high * scale
  else b.low * scale < x && x < b.high * scale

/-- The largest `e` such that the value is at least `10 ^ e`. -/
def Neighbourhood.magnitude (b : Neighbourhood) : Int :=
  let whole := b.value / b.denominator
  if 0 < whole then (Nat.toDigits 10 whole).length - 1
  else
    let inverse := b.denominator / b.value
    let e : Nat := (Nat.toDigits 10 inverse).length
    if b.denominator ≤ b.value * Nat.pow 10 (e - 1) then -((e : Int) - 1) else -(e : Int)

/-- The decimal on the grid of `10 ^ e` that stands for the value, if there is one. -/
def Neighbourhood.onGrid (b : Neighbourhood) (e : Int) : Option (Nat × Int) :=
  let num := b.value * Nat.pow 10 (-e).toNat
  let den := b.denominator * Nat.pow 10 e.toNat
  let below := num / den
  let rest := num - below * den
  let first := if 2 * rest < den ∨ (2 * rest = den ∧ below % 2 = 0) then below else below + 1
  let second := if first = below then below + 1 else below
  if b.contains first e then some (first, e)
  else if b.contains second e then some (second, e)
  else none

/-- The first grid, from coarse to fine, that has a decimal for the value. -/
def Neighbourhood.shortest (b : Neighbourhood) : Nat → Int → Nat × Int
  | 0, e => (b.value * Nat.pow 10 (-e).toNat / (b.denominator * Nat.pow 10 e.toNat), e)
  | fuel + 1, e =>
    match b.onGrid e with
    | some r => r
    | none => b.shortest fuel (e - 1)

/-- Drops zeros at the end of the digits. -/
def trimZeros : Nat → Nat → Int → Nat × Int
  | 0, n, e => (n, e)
  | fuel + 1, n, e => if n ≠ 0 ∧ n % 10 = 0 then trimZeros fuel (n / 10) (e + 1) else (n, e)

/-- The shortest decimal that rounds to a finite binary64 number. -/
def ofFloat (f : Float) : Decimal :=
  let bits := f.toBits
  let negative := bits >>> 63 = 1
  let magnitude := bits &&& 0x7FFFFFFFFFFFFFFF
  if magnitude = 0 then ⟨negative, 0, 0⟩
  else
    let b := Neighbourhood.ofBits magnitude
    let (n, e) := b.shortest 17 b.magnitude
    let (n, e) := trimZeros 20 n e
    ⟨negative, n, e⟩

end Decimal

end FrontZone
