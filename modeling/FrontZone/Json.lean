/-!
# JSON documents

A document as it is spelled, not as some program would read it: the members of an object keep their
order and may repeat, a number is either a plain integer or a decimal with fraction or exponent (of
which as many digits are kept as fit 64 bits), and a string whose spelling holds an unpaired
surrogate escape is no text at all (`none`), though the document is well formed.
-/

namespace FrontZone

/-- A number spelled with fraction or exponent, or as minus zero: `± digits · 10 ^ exponent`. -/
structure Decimal where
  negative : Bool
  digits : Nat
  exponent : Int
  deriving Repr, DecidableEq

/-- A JSON document. -/
inductive Json where
  | null
  | bool (value : Bool)
  | integer (value : Int)
  | decimal (value : Decimal)
  | string (text : Option String)
  | array (elements : List Json)
  | object (members : List (Option String × Json))
  deriving Repr, Inhabited

namespace Json

/-- A string that is text. -/
def text (s : String) : Json := .string (some s)

/-- An object of members with given names. -/
def record (members : List (String × Json)) : Json :=
  .object (members.map fun m => (some m.1, m.2))

/-- The document of a value that may be absent. -/
def ofOption {α : Type} (f : α → Json) : Option α → Json
  | none => .null
  | some a => f a

/-- The document of a list. -/
def ofList {α : Type} (f : α → Json) (xs : List α) : Json :=
  .array (xs.map f)

/-- The document of an unsigned number. -/
def nat (n : Nat) : Json := .integer n

/-! ## Looking inside -/

/-- The member of an object with a given name, the last one if there are several. -/
def member? (name : String) : Json → Option Json
  | .object ms => (ms.reverse.find? (·.1 = some name)).map (·.2)
  | _ => none

/-- The member of an object with a given name; null if there is none. -/
def member (j : Json) (name : String) : Json :=
  (j.member? name).getD .null

/-- Whether a document is null. -/
def isNull : Json → Bool
  | .null => true
  | _ => false

/-- The text of a string. -/
def asText? : Json → Option String
  | .string t => t
  | _ => none

/-- The value of a boolean. -/
def asBool? : Json → Option Bool
  | .bool b => some b
  | _ => none

/-- The value of an integer. -/
def asInt? : Json → Option Int
  | .integer n => some n
  | _ => none

/-- The value of an integer that is not negative. -/
def asNat? (j : Json) : Option Nat :=
  match j with
  | .integer n => if 0 ≤ n then some n.toNat else none
  | _ => none

/-- The elements of an array. -/
def asArray? : Json → Option (List Json)
  | .array es => some es
  | _ => none

mutual
/-- How deeply arrays and objects are nested. -/
def depth : Json → Nat
  | .array es => depthElements es + 1
  | .object ms => depthMembers ms + 1
  | _ => 0
/-- The greatest depth among elements. -/
def depthElements : List Json → Nat
  | [] => 0
  | e :: es => max (depth e) (depthElements es)
/-- The greatest depth among members. -/
def depthMembers : List (Option String × Json) → Nat
  | [] => 0
  | (_, e) :: ms => max (depth e) (depthMembers ms)
end

end Json

end FrontZone
