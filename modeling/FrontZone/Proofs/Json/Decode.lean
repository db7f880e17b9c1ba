import FrontZone.Json.Decode
import FrontZone.Proofs.Json.RoundTrip
import FrontZone.Wire.Report
import Mathlib.Data.List.Nodup
/-!
# Parts read back

What the pieces of decoding make of the pieces of encoding: words, records, alternatives and parts
that may be absent. `fields?_record` takes a record apart into the documents it was put together
from, as long as no two of its names are the same; everything above it only has to read these
documents back. The last section says which documents are without decimals, as simplification rules
that follow the way documents are put together.
-/

namespace FrontZone

namespace Json

/-! ## Words -/

lemma bounded?_integer {lo hi n : Int} (hlo : lo ≤ n) (hhi : n ≤ hi) :
    (Json.integer n).bounded? lo hi = some n :=
  if_pos ⟨hlo, hhi⟩

/-- A signed word is read back. -/
@[simp]
lemma int32?_int32Json (n : Int32) : (int32Json n).int32? = some n := by
  have hlo := Int32.le_toInt n
  have hhi := Int32.toInt_lt n
  rw [int32?, int32Json, bounded?_integer (by omega) (by omega), Option.map_some, Int32.ofInt_toInt]

lemma bounded?_nat {n : Nat} {hi : Int} (h : n ≤ hi) : (nat n).bounded? 0 hi = some (n : Int) :=
  bounded?_integer (Int.natCast_nonneg n) h

/-- An 8-bit word is read back. -/
@[simp]
lemma uint8?_uint8Json (n : UInt8) : (uint8Json n).uint8? = some n := by
  have hlt := n.toNat_lt
  rw [uint8?, uint8Json, bounded?_nat (by omega), Option.map_some, Int.toNat_natCast,
    UInt8.ofNat_toNat]

/-- A 16-bit word is read back. -/
@[simp]
lemma uint16?_uint16Json (n : UInt16) : (uint16Json n).uint16? = some n := by
  have hlt := n.toNat_lt
  rw [uint16?, uint16Json, bounded?_nat (by omega), Option.map_some,
    Int.toNat_natCast, UInt16.ofNat_toNat]

/-- A 32-bit word is read back. -/
@[simp]
lemma uint32?_uint32Json (n : UInt32) : (uint32Json n).uint32? = some n := by
  have hlt := n.toNat_lt
  rw [uint32?, uint32Json, bounded?_nat (by omega), Option.map_some,
    Int.toNat_natCast, UInt32.ofNat_toNat]

/-! ## Records and alternatives -/

/-- Among members with different names a name finds its own. -/
lemma find?_members {ms : List (String × Json)} (hnodup : (ms.map Prod.fst).Nodup)
    {m : String × Json} (hm : m ∈ ms) :
    (ms.map fun m => (some m.1, m.2)).find? (fun m' => m'.1 = some m.1) = some (some m.1, m.2) := by
  induction ms with
  | nil => exact absurd hm List.not_mem_nil
  | cons m' ms ih =>
    rw [List.map_cons, List.nodup_cons] at hnodup
    rw [List.map_cons]
    rcases List.mem_cons.1 hm with rfl | hm
    · exact List.find?_cons_of_pos (by simp)
    · have hne : m'.1 ≠ m.1 := fun h => hnodup.1 (h ▸ List.mem_map_of_mem hm)
      rw [List.find?_cons_of_neg (by simpa using hne), ih hnodup.2 hm]

lemma length_filter_members {ms : List (String × Json)} (hnodup : (ms.map Prod.fst).Nodup)
    (name : String) :
    ((ms.map fun m => (some m.1, m.2)).filter fun m => m.1 = some name).length ≤ 1 := by
  have hcount := List.nodup_iff_count_le_one.1 hnodup name
  rw [List.count, List.countP_map] at hcount
  rw [← List.countP_eq_length_filter, List.countP_map]
  exact Nat.le_trans (Nat.le_of_eq (List.countP_congr fun m _ => by simp)) hcount

/-- A record is taken apart into the documents of its members. -/
@[simp]
lemma fields?_record {ms : List (String × Json)} {names : List String}
    (hnames : ms.map Prod.fst = names) (hnodup : names.Nodup) :
    (record ms).fields? names = some (ms.map fun m => some m.2) := by
  subst hnames
  rw [record, fields?, if_pos]
  · rw [List.map_map]
    refine congrArg some (List.map_congr_left fun m hm => ?_)
    rw [Function.comp_apply, find?_members hnodup hm]
    rfl
  · constructor
    · simp
    · exact List.all_eq_true.2 fun name _ =>
        decide_eq_true (length_filter_members hnodup name)

@[simp]
lemma variant?_variantJson (name : String) (parts : List (String × Json)) :
    (variantJson name parts).variant? = some (name, some (record parts)) := rfl

@[simp]
lemma asText?_text (s : String) : (text s).asText? = some s := rfl

@[simp]
lemma asBool?_bool (b : Bool) : (Json.bool b).asBool? = some b := rfl

@[simp]
lemma required_some {α : Type} (part? : Json → Option α) (j : Json) :
    required part? (some j) = part? j := rfl

/-- A part that may be absent is read back, if null does not spell one that is there. -/
lemma optional_ofOption {α : Type} {toJson : α → Json} {part? : Json → Option α}
    (hback : ∀ a, part? (toJson a) = some a) (hnull : ∀ a, toJson a ≠ .null) (o : Option α) :
    optional part? (some (ofOption toJson o)) = some o := by
  cases o with
  | none => rfl
  | some a =>
    rw [ofOption, optional, hback a]
    · rfl
    · exact hnull a

/-! ## Documents without decimals -/

attribute [simp] Exact.null Exact.bool Exact.integer Exact.string

@[simp]
lemma exact_text (s : String) : Exact (text s) := .string _

@[simp]
lemma exact_int32Json (n : Int32) : Exact (int32Json n) := .integer _

@[simp]
lemma exact_uint8Json (n : UInt8) : Exact (uint8Json n) := .integer _

@[simp]
lemma exact_uint16Json (n : UInt16) : Exact (uint16Json n) := .integer _

@[simp]
lemma exact_uint32Json (n : UInt32) : Exact (uint32Json n) := .integer _

@[simp]
lemma exact_record {ms : List (String × Json)} : Exact (record ms) ↔ ∀ m ∈ ms, Exact m.2 := by
  refine ⟨fun h => ?_, fun h => ?_⟩
  · cases h with
    | object h => exact fun m hm => h (some m.1, m.2) (List.mem_map_of_mem hm)
  · refine .object fun m hm => ?_
    obtain ⟨m', hm', rfl⟩ := List.mem_map.1 hm
    exact h m' hm'

@[simp]
lemma exact_variantJson {name : String} {parts : List (String × Json)} :
    Exact (variantJson name parts) ↔ ∀ m ∈ parts, Exact m.2 := by
  rw [variantJson, exact_record, List.forall_mem_singleton, exact_record]

lemma exact_ofOption {α : Type} {toJson : α → Json} (h : ∀ a, Exact (toJson a)) (o : Option α) :
    Exact (ofOption toJson o) := by
  cases o with
  | none => exact .null
  | some a => exact h a

end Json

end FrontZone
