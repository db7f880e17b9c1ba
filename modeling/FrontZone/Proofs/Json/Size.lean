import FrontZone.Json.Value
import FrontZone.Json.Writer
import FrontZone.Proofs.Json.Scan
import FrontZone.Wire.Report
import Mathlib.Data.List.Forall2
import Mathlib.Data.String.Basic
/-!
# The size of a written document

A bound on the bytes of a written document that adds up over its parts. `room` counts a comma
behind every element and member, also the last, so that leaving a member out or moving it can only
make the room smaller: `room_sorted_le`. The room of a record follows from a table of its names with
the room of each part (`room_record_le`), and that of a word from the digits of its greatest value.
-/

namespace FrontZone

namespace Json

open String (utf8Len)

/-- The bytes of a text in quotes. -/
def textRoom (s : String) : Nat := utf8Len (writeText s.toList)

mutual
/-- The bytes that suffice for a document. -/
def room : Json → Nat
  | .null => 4
  | .bool _ => 5
  | .integer n => utf8Len (writeInt n)
  | .decimal d => utf8Len (writeDecimal d)
  | .string s => utf8Len (writeString s)
  | .array es => 2 + roomElements es
  | .object ms => 2 + roomMembers ms
/-- The bytes that suffice for elements, each with its comma. -/
def roomElements : List Json → Nat
  | [] => 0
  | e :: es => room e + 1 + roomElements es
/-- The bytes that suffice for members, each with its colon and its comma. -/
def roomMembers : List (Option String × Json) → Nat
  | [] => 0
  | (k, e) :: ms => utf8Len (writeString k) + room e + 2 + roomMembers ms
end

/-! ## Room for what is written -/

mutual
/-- A document is written within its room. -/
theorem utf8Len_write_le : ∀ j : Json, utf8Len (write j) ≤ room j
  | .null => by decide
  | .bool true => by decide
  | .bool false => by decide
  | .integer _ => le_refl _
  | .decimal _ => le_refl _
  | .string _ => le_refl _
  | .array [] => by decide
  | .array (e :: es) => by
    have he := utf8Len_write_le e
    have hes := utf8Len_writeMoreElements_le es
    have hopen : Char.utf8Size '[' = 1 := rfl
    simp only [write, writeElements, room, roomElements, String.utf8Len_cons,
      String.utf8Len_append]
    omega
  | .object [] => by decide
  | .object ((k, e) :: ms) => by
    have he := utf8Len_write_le e
    have hms := utf8Len_writeMoreMembers_le ms
    have hopen : Char.utf8Size '\x7b' = 1 := rfl
    have hcolon : Char.utf8Size ':' = 1 := rfl
    simp only [write, writeMembers, room, roomMembers, String.utf8Len_cons,
      String.utf8Len_append]
    omega
theorem utf8Len_writeMoreElements_le :
    ∀ es : List Json, utf8Len (writeMoreElements es) ≤ roomElements es + 1
  | [] => by decide
  | e :: es => by
    have he := utf8Len_write_le e
    have hes := utf8Len_writeMoreElements_le es
    have hcomma : Char.utf8Size ',' = 1 := rfl
    simp only [writeMoreElements, roomElements, String.utf8Len_cons, String.utf8Len_append]
    omega
theorem utf8Len_writeMoreMembers_le :
    ∀ ms : List (Option String × Json), utf8Len (writeMoreMembers ms) ≤ roomMembers ms + 1
  | [] => by decide
  | (k, e) :: ms => by
    have he := utf8Len_write_le e
    have hms := utf8Len_writeMoreMembers_le ms
    have hcomma : Char.utf8Size ',' = 1 := rfl
    have hcolon : Char.utf8Size ':' = 1 := rfl
    simp only [writeMoreMembers, roomMembers, String.utf8Len_cons, String.utf8Len_append]
    omega
end

/-- A document is sent within its room. -/
lemma utf8ByteSize_compress_le (j : Json) : j.compress.utf8ByteSize ≤ room j := by
  rw [compress, String.utf8ByteSize_ofList]
  exact utf8Len_write_le j

/-! ## Members put in order -/

lemma roomMembers_insertMember_le (m : Option String × Json)
    (ms : List (Option String × Json)) :
    roomMembers (insertMember m ms) ≤ roomMembers (m :: ms) := by
  induction ms with
  | nil => exact le_refl _
  | cons n ms ih =>
    unfold insertMember
    split
    · simp only [roomMembers] at ih ⊢
      omega
    split
    · simp only [roomMembers]
      omega
    · exact le_refl _

lemma roomMembers_sortMembers_le (ms : List (Option String × Json)) :
    roomMembers (sortMembers ms) ≤ roomMembers ms := by
  suffices h : ∀ sorted, roomMembers (ms.foldl (fun s m => insertMember m s) sorted) ≤
      roomMembers sorted + roomMembers ms by
    simpa [sortMembers, roomMembers] using h []
  induction ms with
  | nil => exact fun sorted => le_refl _
  | cons m ms ih =>
    intro sorted
    have hinsert := roomMembers_insertMember_le m sorted
    have hrest := ih (insertMember m sorted)
    simp only [roomMembers, List.foldl_cons] at hinsert hrest ⊢
    omega

mutual
/-- Putting members in order takes no more room. -/
theorem room_sorted_le : ∀ j : Json, room (sorted j) ≤ room j
  | .null => le_refl _
  | .bool _ => le_refl _
  | .integer _ => le_refl _
  | .decimal _ => le_refl _
  | .string _ => le_refl _
  | .array es => Nat.add_le_add_left (roomElements_sorted_le es) 2
  | .object ms => Nat.add_le_add_left
      ((roomMembers_sortMembers_le _).trans (roomMembers_sorted_le ms)) 2
theorem roomElements_sorted_le :
    ∀ es : List Json, roomElements (sortedElements es) ≤ roomElements es
  | [] => le_refl _
  | e :: es => by
    have he := room_sorted_le e
    have hes := roomElements_sorted_le es
    simp only [sortedElements, roomElements]
    omega
theorem roomMembers_sorted_le :
    ∀ ms : List (Option String × Json), roomMembers (sortedMembers ms) ≤ roomMembers ms
  | [] => le_refl _
  | (k, e) :: ms => by
    have he := room_sorted_le e
    have hms := roomMembers_sorted_le ms
    simp only [sortedMembers, roomMembers]
    omega
end

/-! ## Texts -/

lemma utf8Size_hexDigit : ∀ n < 16, (hexDigit n).utf8Size = 1 := by
  decide

/-- No character is written in more than the six of a numbered escape. -/
lemma utf8Len_escapeChar_le (c : Char) : utf8Len (escapeChar c) ≤ 6 * c.utf8Size := by
  have hsix : 6 ≤ 6 * c.utf8Size := Nat.le_mul_of_pos_right 6 c.utf8Size_pos
  unfold escapeChar
  iterate 7
    split
    · exact Nat.le_trans (by decide) hsix
  split
  · next h =>
    have hhigh := utf8Size_hexDigit (c.toNat / 16) (by omega)
    have hlow := utf8Size_hexDigit (c.toNat % 16) (by omega)
    refine Nat.le_trans (Nat.le_of_eq ?_) hsix
    simp only [String.utf8Len_cons, String.utf8Len_nil, hhigh, hlow]
    rfl
  · show 0 + c.utf8Size ≤ _
    omega

/-- A text takes at most six bytes for each of its own, and its quotes. -/
lemma textRoom_le (s : String) : textRoom s ≤ 6 * s.utf8ByteSize + 2 := by
  have hchars (cs : List Char) : utf8Len (cs.flatMap escapeChar) ≤ 6 * utf8Len cs := by
    induction cs with
    | nil => exact le_refl _
    | cons c cs ih =>
      have hc := utf8Len_escapeChar_le c
      rw [List.flatMap_cons, String.utf8Len_append, String.utf8Len_cons]
      omega
  have hbytes : s.utf8ByteSize = utf8Len s.toList := by
    rw [← String.utf8ByteSize_ofList, String.ofList_toList]
  have hquote : Char.utf8Size '"' = 1 := rfl
  have htext := hchars s.toList
  rw [textRoom, writeText, hbytes, List.cons_append, String.utf8Len_cons, String.utf8Len_append,
    String.utf8Len_cons, String.utf8Len_nil]
  omega

/-! ## Words -/

lemma utf8Len_of_ascii {cs : List Char} (h : ∀ c ∈ cs, c.utf8Size = 1) :
    utf8Len cs = cs.length := by
  induction cs with
  | nil => rfl
  | cons c cs ih =>
    rw [String.utf8Len_cons, ih fun c hc => h c (List.mem_cons_of_mem _ hc), h c List.mem_cons_self,
      List.length_cons]

lemma utf8Size_of_isDigit {c : Char} (h : c.isDigit) : c.utf8Size = 1 := by
  rw [Char.utf8Size_eq_one_iff]
  simp only [Char.isDigit, Bool.and_eq_true, decide_eq_true_eq] at h
  exact UInt32.le_trans h.2 (by decide)

lemma utf8Len_natDigits (n : Nat) : utf8Len (natDigits n) = (natDigits n).length :=
  utf8Len_of_ascii fun _ hc => utf8Size_of_isDigit (isDigit_of_mem_natDigits hc)

/-- A number below a power of ten has at most so many digits. -/
lemma utf8Len_natDigits_le {n k : Nat} (hk : 0 < k) (h : n < 10 ^ k) :
    utf8Len (natDigits n) ≤ k := by
  rw [utf8Len_natDigits]
  exact (Nat.length_toDigits_le_iff (by decide) hk).2 h

lemma room_nat (n : Nat) : room (nat n) = utf8Len (natDigits n) := by
  rw [nat, room, writeInt, if_neg (by omega), Int.natAbs_natCast]

@[simp]
lemma room_int32Json (n : Int32) : room (int32Json n) ≤ 11 := by
  have hlo := Int32.le_toInt n
  have hhi := Int32.toInt_lt n
  have hdigits : utf8Len (natDigits n.toInt.natAbs) ≤ 10 :=
    utf8Len_natDigits_le (by decide) (by omega)
  have hminus : Char.utf8Size '-' = 1 := rfl
  rw [int32Json, room, writeInt]
  split
  · rw [String.utf8Len_cons]
    omega
  · omega

@[simp]
lemma room_uint8Json (n : UInt8) : room (uint8Json n) ≤ 3 := by
  have hlt := n.toNat_lt
  rw [uint8Json, room_nat]
  exact utf8Len_natDigits_le (by decide) (by omega)

@[simp]
lemma room_uint16Json (n : UInt16) : room (uint16Json n) ≤ 5 := by
  have hlt := n.toNat_lt
  rw [uint16Json, room_nat]
  exact utf8Len_natDigits_le (by decide) (by omega)

@[simp]
lemma room_uint32Json (n : UInt32) : room (uint32Json n) ≤ 10 := by
  have hlt := n.toNat_lt
  rw [uint32Json, room_nat]
  exact utf8Len_natDigits_le (by decide) (by omega)

@[simp]
lemma room_uint64Json (n : UInt64) : room (uint64Json n) ≤ 20 := by
  have hlt := n.toNat_lt
  rw [uint64Json, room_nat]
  exact utf8Len_natDigits_le (by decide) (by omega)

/-! ## Records, alternatives and lists -/

/-- The room of a record whose parts have these names and need at most so much room. -/
def recordRoom (parts : List (String × Nat)) : Nat :=
  2 + parts.foldr (fun p n => textRoom p.1 + p.2 + 2 + n) 0

/-- A record needs no more room than the table of its parts says. -/
lemma room_record_le {ms : List (String × Json)} (parts : List (String × Nat))
    (h : List.Forall₂ (fun m p => m.1 = p.1 ∧ room m.2 ≤ p.2) ms parts) :
    room (record ms) ≤ recordRoom parts := by
  suffices hsum : roomMembers (ms.map fun m => (some m.1, m.2)) ≤
      parts.foldr (fun p n => textRoom p.1 + p.2 + 2 + n) 0 from Nat.add_le_add_left hsum 2
  induction h with
  | nil => exact le_refl _
  | @cons m p ms parts hpart _ ih =>
    obtain ⟨hname, hroom⟩ := hpart
    simp only [List.map_cons, roomMembers, List.foldr_cons, writeString, textRoom, hname] at ih ⊢
    omega

lemma room_variantJson_le {name : String} {ms : List (String × Json)}
    (parts : List (String × Nat))
    (h : List.Forall₂ (fun m p => m.1 = p.1 ∧ room m.2 ≤ p.2) ms parts) :
    room (variantJson name ms) ≤ recordRoom [(name, recordRoom parts)] :=
  room_record_le _ (.cons ⟨rfl, room_record_le parts h⟩ .nil)

lemma room_ofOption_le {α : Type} {toJson : α → Json} {n : Nat} (hnull : 4 ≤ n)
    (h : ∀ a, room (toJson a) ≤ n) (o : Option α) : room (ofOption toJson o) ≤ n := by
  cases o with
  | none => exact hnull
  | some a => exact h a

/-- A list needs room for as many elements as it can have. -/
lemma room_ofList_le {α : Type} {toJson : α → Json} {n k : Nat} (h : ∀ a, room (toJson a) ≤ n)
    {xs : List α} (hlength : xs.length ≤ k) : room (ofList toJson xs) ≤ 2 + k * (n + 1) := by
  suffices hsum : roomElements (xs.map toJson) ≤ xs.length * (n + 1) from
    Nat.add_le_add_left (hsum.trans (Nat.mul_le_mul_right (n + 1) hlength)) 2
  induction xs with
  | nil => exact Nat.zero_le _
  | cons x xs ih =>
    have hx := h x
    have hxs := ih (Nat.le_of_succ_le hlength)
    rw [List.map_cons, roomElements, List.length_cons, Nat.succ_mul]
    omega

end Json

end FrontZone
