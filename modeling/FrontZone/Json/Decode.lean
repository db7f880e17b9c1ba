import FrontZone.Json
/-!
# Taking documents apart

How a document gives the parts of a known type. A record is an object with its members in any order,
members it does not know left aside, or an array of all its parts in order; a choice is the name of
an alternative without parts, or an object of that one name with its parts.
-/

namespace FrontZone

namespace Json

/-! ## Simple parts -/

/-- An integer within bounds. -/
def bounded? (lo hi : Int) : Json → Option Int
  | .integer n => if lo ≤ n ∧ n ≤ hi then some n else none
  | _ => none

/-- A signed 32-bit word. -/
def int32? (j : Json) : Option Int32 := (j.bounded? (-2147483648) 2147483647).map Int32.ofInt

/-- An unsigned 8-bit word. -/
def uint8? (j : Json) : Option UInt8 := (j.bounded? 0 255).map fun n => UInt8.ofNat n.toNat

/-- An unsigned 16-bit word. -/
def uint16? (j : Json) : Option UInt16 := (j.bounded? 0 65535).map fun n => UInt16.ofNat n.toNat

/-- An unsigned 32-bit word. -/
def uint32? (j : Json) : Option UInt32 :=
  (j.bounded? 0 4294967295).map fun n => UInt32.ofNat n.toNat

/-- An unsigned 64-bit word. -/
def uint64? (j : Json) : Option UInt64 :=
  (j.bounded? 0 18446744073709551615).map fun n => UInt64.ofNat n.toNat

/-! ## Records -/

/-- The parts of a record with these names, in this order; absent members of an object give none. -/
def fields? (names : List String) : Json → Option (List (Option Json))
  | .object ms =>
    if ms.all (·.1.isSome) ∧ names.all (fun n => (ms.filter (·.1 = some n)).length ≤ 1) then
      some (names.map fun n => (ms.find? (·.1 = some n)).map (·.2))
    else none
  | .array es => if es.length = names.length then some (es.map some) else none
  | _ => none

/-- A part that has to be there. -/
def required {α : Type} (part? : Json → Option α) (field : Option Json) : Option α :=
  field.bind part?

/-- A part that may be absent or null. -/
def optional {α : Type} (part? : Json → Option α) : Option Json → Option (Option α)
  | none => some none
  | some .null => some none
  | some j => (part? j).map some

/-! ## Choices -/

/-- The name of an alternative with its parts, if any are given. -/
def variant? : Json → Option (String × Option Json)
  | .string (some name) => some (name, none)
  | .object [(some name, parts)] => some (name, some parts)
  | _ => none

/-- Whether an alternative is given without parts, which may also be spelled as null. -/
def isPlain : Option Json → Bool
  | none => true
  | some j => j.isNull

/-- The alternative without parts that a document names. -/
def plain? {α : Type} (table : List (String × α)) (j : Json) : Option α := do
  let (name, parts) ← j.variant?
  if isPlain parts then table.lookup name else none

end Json

end FrontZone
