import FrontZone.Json.Binary64
import FrontZone.Json.Reader
/-!
# JSON values

What a program sees that takes any document: strings are text, the members of an object are in the
order of their names with the last of equal names kept, and a number is a 64-bit integer, signed or
unsigned, or else the binary64 number nearest to it, spelled with the fewest digits. Documents
nested too deeply, with strings that are no text or with numbers out of reach have no value.
-/

namespace FrontZone

namespace Json

/-- How deeply a value may be nested. -/
def maxDepth : Nat := 127

/-- Puts a member in its place by name, in place of one of the same name. -/
def insertMember (m : Option String × Json) :
    List (Option String × Json) → List (Option String × Json)
  | [] => [m]
  | n :: rest =>
    if n.1.getD "" < m.1.getD "" then n :: insertMember m rest
    else if n.1 = m.1 then m :: rest
    else m :: n :: rest

/-- Members in the order of their names, the last of equal names kept. -/
def sortMembers (ms : List (Option String × Json)) : List (Option String × Json) :=
  ms.foldl (fun sorted m => insertMember m sorted) []

mutual
/-- A document with the members of all its objects in the order of their names. -/
def sorted : Json → Json
  | .array es => .array (sortedElements es)
  | .object ms => .object (sortMembers (sortedMembers ms))
  | j => j
/-- Elements with their members in order. -/
def sortedElements : List Json → List Json
  | [] => []
  | e :: es => sorted e :: sortedElements es
/-- The same members in the same order, their documents sorted. -/
def sortedMembers : List (Option String × Json) → List (Option String × Json)
  | [] => []
  | (k, e) :: ms => (k, sorted e) :: sortedMembers ms
end

/-- A number as binary64. -/
def roundedNumber? (d : Decimal) : Option Json :=
  d.toFloat?.map fun f => .decimal (.ofFloat f)

mutual
/-- A document with every number as its value and every string checked to be text. -/
def normal? : Json → Option Json
  | .integer n =>
    if -9223372036854775808 ≤ n ∧ n < 18446744073709551616 then some (.integer n)
    else roundedNumber? ⟨n < 0, n.natAbs, 0⟩
  | .decimal d => roundedNumber? d
  | .string none => none
  | .array es => (normalElements? es).map .array
  | .object ms => (normalMembers? ms).map .object
  | j => some j
/-- Elements made normal. -/
def normalElements? : List Json → Option (List Json)
  | [] => some []
  | e :: es =>
    match normal? e, normalElements? es with
    | some e, some es => some (e :: es)
    | _, _ => none
/-- Members made normal. -/
def normalMembers? : List (Option String × Json) → Option (List (Option String × Json))
  | [] => some []
  | (k, e) :: ms =>
    match k, normal? e, normalMembers? ms with
    | some k, some e, some ms => some ((some k, e) :: ms)
    | _, _, _ => none
end

/-- The value of a document. -/
def value? (j : Json) : Option Json :=
  if j.depth ≤ maxDepth then j.normal?.map sorted else none

/-- The value that a string spells. -/
def parseValue? (s : String) : Option Json := do
  (← parse? s).value?

end Json

end FrontZone
