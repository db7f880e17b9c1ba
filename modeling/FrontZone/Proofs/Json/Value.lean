import FrontZone.Json.Value
import FrontZone.Proofs.Json.Decode
import Mathlib.Data.List.Forall2
import Mathlib.Data.List.Perm.Basic
import Mathlib.Data.Option.Basic
/-!
# Values of written documents

What a program that takes any document sees of one that was written. `parseValue?_compress`: a
document is its own value, members in order, if it is nested no deeper than values may be and holds
no decimals, no integers beyond 64 bits and nothing but text for strings (`Faithful`). Of an object
at large no more can be said than that it may have no value at all; but if it has one, then under
each name the value of what stands there (`member?_value`), provided that no name stands twice.
-/

namespace FrontZone

namespace Json

/-! ## Looking up members -/

lemma member?_cons (m : Option String × Json) (ms : List (Option String × Json)) (name : String) :
    (object (m :: ms)).member? name =
      ((object ms).member? name).or (if m.1 = some name then some m.2 else none) := by
  simp only [member?, List.reverse_cons, List.find?_append, Option.map_or]
  congr 1
  rw [List.find?_singleton]
  split <;> simp_all

lemma member?_map (f : Json → Json) (ms : List (Option String × Json)) (name : String) :
    (object (ms.map fun m => (m.1, f m.2))).member? name = ((object ms).member? name).map f := by
  induction ms with
  | nil => rfl
  | cons m ms ih =>
    rw [List.map_cons, member?_cons, member?_cons, ih, Option.map_or]
    split <;> rfl

/-- Among members with different names a name finds its own. -/
lemma member?_eq_some_iff {ms : List (Option String × Json)} (hnames : (ms.map Prod.fst).Nodup)
    {name : String} {j : Json} :
    (object ms).member? name = some j ↔ (some name, j) ∈ ms := by
  induction ms generalizing j with
  | nil => exact ⟨nofun, nofun⟩
  | cons m ms ih =>
    rw [List.map_cons, List.nodup_cons] at hnames
    rw [member?_cons, List.mem_cons, Option.or_eq_some_iff, ih hnames.2]
    constructor
    · rintro (h | ⟨-, h⟩)
      · exact Or.inr h
      · split at h
        · next hname => exact Or.inl (Prod.ext hname.symm (Option.some.inj h).symm)
        · exact nomatch h
    · rintro (rfl | h)
      · refine Or.inr ⟨?_, if_pos rfl⟩
        cases hfound : (object ms).member? name with
        | none => rfl
        | some j' => exact absurd (List.mem_map_of_mem ((ih hnames.2).1 hfound)) hnames.1
      · exact Or.inl h

/-- Where members with different names stand does not matter. -/
lemma member?_perm {ms ms' : List (Option String × Json)} (h : ms.Perm ms')
    (hnames : (ms.map Prod.fst).Nodup) (name : String) :
    (object ms).member? name = (object ms').member? name := by
  refine Option.ext fun j => ?_
  rw [member?_eq_some_iff hnames, member?_eq_some_iff ((h.map Prod.fst).nodup_iff.1 hnames),
    h.mem_iff]

/-! ## Members put in order -/

lemma perm_insertMember {m : Option String × Json} {ms : List (Option String × Json)}
    (h : m.1 ∉ ms.map Prod.fst) : (insertMember m ms).Perm (m :: ms) := by
  induction ms with
  | nil => exact .refl _
  | cons n ms ih =>
    rw [List.map_cons, List.mem_cons, not_or] at h
    unfold insertMember
    split
    · exact ((ih h.2).cons n).trans (.swap m n ms)
    · rw [if_neg (Ne.symm h.1)]

/-- Members with different names are all kept. -/
lemma perm_sortMembers {ms : List (Option String × Json)} (h : (ms.map Prod.fst).Nodup) :
    (sortMembers ms).Perm ms := by
  suffices hfold : ∀ sorted, ((ms ++ sorted).map Prod.fst).Nodup →
      (ms.foldl (fun s m => insertMember m s) sorted).Perm (ms ++ sorted) by
    simpa [sortMembers] using hfold [] (by simpa using h)
  clear h
  induction ms with
  | nil => exact fun sorted _ => .refl sorted
  | cons m ms ih =>
    intro sorted hnodup
    -- one member changes over from those to come to those in order; none is lost on the way
    have hmoved : (m :: ms ++ sorted).Perm (ms ++ m :: sorted) := List.perm_middle.symm
    have hinsert : (insertMember m sorted).Perm (m :: sorted) := by
      refine perm_insertMember fun hmem => ?_
      rw [List.cons_append, List.map_cons, List.nodup_cons, List.map_append] at hnodup
      exact hnodup.1 (List.mem_append_right _ hmem)
    have hall := hmoved.trans (hinsert.symm.append_left ms)
    exact (ih _ ((hall.map Prod.fst).nodup_iff.1 hnodup)).trans hall.symm

lemma mem_of_mem_insertMember {m m' : Option String × Json} {ms : List (Option String × Json)}
    (h : m' ∈ insertMember m ms) : m' ∈ m :: ms := by
  induction ms with
  | nil => exact h
  | cons n ms ih =>
    unfold insertMember at h
    split at h
    · rcases List.mem_cons.1 h with rfl | h
      · exact List.mem_cons_of_mem _ List.mem_cons_self
      · rcases List.mem_cons.1 (ih h) with rfl | h
        · exact List.mem_cons_self
        · exact List.mem_cons_of_mem _ (List.mem_cons_of_mem _ h)
    split at h
    · rcases List.mem_cons.1 h with rfl | h
      · exact List.mem_cons_self
      · exact List.mem_cons_of_mem _ (List.mem_cons_of_mem _ h)
    · exact h

/-- No member comes from nowhere. -/
lemma mem_of_mem_sortMembers {m : Option String × Json} {ms : List (Option String × Json)}
    (h : m ∈ sortMembers ms) : m ∈ ms := by
  suffices hfold : ∀ sorted, m ∈ ms.foldl (fun s m => insertMember m s) sorted →
      m ∈ ms ∨ m ∈ sorted from (hfold [] h).resolve_right List.not_mem_nil
  clear h
  induction ms with
  | nil => exact fun sorted h => Or.inr h
  | cons n ms ih =>
    intro sorted h
    rcases ih _ h with h | h
    · exact Or.inl (List.mem_cons_of_mem n h)
    · rcases List.mem_cons.1 (mem_of_mem_insertMember h) with rfl | h
      · exact Or.inl List.mem_cons_self
      · exact Or.inr h

lemma sortedElements_eq_map (es : List Json) : sortedElements es = es.map sorted := by
  induction es with
  | nil => rfl
  | cons e es ih => rw [sortedElements, ih, List.map_cons]

lemma sortedMembers_eq_map (ms : List (Option String × Json)) :
    sortedMembers ms = ms.map fun m => (m.1, sorted m.2) := by
  induction ms with
  | nil => rfl
  | cons m ms ih => rw [sortedMembers, ih, List.map_cons]

/-- A name finds what it found before. -/
lemma member?_sorted {ms : List (Option String × Json)} (h : (ms.map Prod.fst).Nodup)
    (name : String) :
    (object ms).sorted.member? name = ((object ms).member? name).map sorted := by
  have hnames : ((ms.map fun m => (m.1, sorted m.2)).map Prod.fst).Nodup := by
    rwa [List.map_map]
  rw [sorted, sortedMembers_eq_map, ← member?_map]
  exact (member?_perm (perm_sortMembers hnames).symm hnames name).symm

/-! ## Members made normal -/

lemma normalMembers?_cons_eq_some_iff {m : Option String × Json}
    {ms ms' : List (Option String × Json)} :
    normalMembers? (m :: ms) = some ms' ↔ ∃ e ms'', m.1.isSome ∧ normal? m.2 = some e ∧
      normalMembers? ms = some ms'' ∧ ms' = (m.1, e) :: ms'' := by
  obtain ⟨k, j⟩ := m
  constructor
  · intro h
    unfold normalMembers? at h
    split at h
    · next k e ms'' he hms => exact ⟨e, ms'', rfl, he, hms, (Option.some.inj h).symm⟩
    · exact nomatch h
  · rintro ⟨e, ms'', hk, he, hms, rfl⟩
    obtain ⟨k, rfl⟩ := Option.isSome_iff_exists.1 hk
    unfold normalMembers?
    dsimp only at he ⊢
    rw [he, hms]

/-- The members keep their names, and each has its document made normal. -/
lemma member?_normalMembers? {ms ms' : List (Option String × Json)}
    (h : normalMembers? ms = some ms') :
    ms'.map Prod.fst = ms.map Prod.fst ∧ ∀ name,
      ((object ms').member? name).map some = ((object ms).member? name).map normal? := by
  induction ms generalizing ms' with
  | nil =>
    obtain rfl := Option.some.inj h
    exact ⟨rfl, fun _ => rfl⟩
  | cons m ms ih =>
    obtain ⟨e, ms'', -, he, hms, rfl⟩ := normalMembers?_cons_eq_some_iff.1 h
    obtain ⟨hnames, hmembers⟩ := ih hms
    refine ⟨by rw [List.map_cons, List.map_cons, hnames], fun name => ?_⟩
    rw [member?_cons, member?_cons, Option.map_or, Option.map_or, hmembers]
    split <;> simp [he]

/-! ## Faithful documents -/

/-- A document nested at most `n` deep, without decimals, with integers of 64 bits and strings that
are text. -/
inductive Faithful : Nat → Json → Prop
  | null {n : Nat} : Faithful n .null
  | bool {n : Nat} (b : Bool) : Faithful n (.bool b)
  | integer {n : Nat} {i : Int} (hlo : -9223372036854775808 ≤ i)
      (hhi : i < 18446744073709551616) : Faithful n (.integer i)
  | string {n : Nat} (s : String) : Faithful n (.string (some s))
  | array {n : Nat} {es : List Json} (h : ∀ e ∈ es, Faithful n e) : Faithful (n + 1) (.array es)
  | object {n : Nat} {ms : List (Option String × Json)} (hnames : ∀ m ∈ ms, m.1.isSome)
      (h : ∀ m ∈ ms, Faithful n m.2) : Faithful (n + 1) (.object ms)

lemma Faithful.exact {n : Nat} {j : Json} (h : Faithful n j) : Exact j := by
  induction h with
  | null => exact .null
  | bool b => exact .bool b
  | integer => exact .integer _
  | string s => exact .string _
  | array _ ih => exact .array ih
  | object _ _ ih => exact .object ih

lemma depthElements_le_iff {es : List Json} {n : Nat} :
    depthElements es ≤ n ↔ ∀ e ∈ es, depth e ≤ n := by
  induction es with
  | nil => exact ⟨nofun, fun _ => Nat.zero_le n⟩
  | cons e es ih => rw [depthElements, Nat.max_le, ih, List.forall_mem_cons]

lemma depthMembers_le_iff {ms : List (Option String × Json)} {n : Nat} :
    depthMembers ms ≤ n ↔ ∀ m ∈ ms, depth m.2 ≤ n := by
  induction ms with
  | nil => exact ⟨nofun, fun _ => Nat.zero_le n⟩
  | cons m ms ih => rw [depthMembers, Nat.max_le, ih, List.forall_mem_cons]

lemma Faithful.depth_le {n : Nat} {j : Json} (h : Faithful n j) : j.depth ≤ n := by
  induction h with
  | null | bool | integer | string => exact Nat.zero_le _
  | array _ ih => exact Nat.succ_le_succ (depthElements_le_iff.2 ih)
  | object _ _ ih => exact Nat.succ_le_succ (depthMembers_le_iff.2 ih)

lemma normalElements?_of_forall {es : List Json} (h : ∀ e ∈ es, normal? e = some e) :
    normalElements? es = some es := by
  induction es with
  | nil => rfl
  | cons e es ih =>
    obtain ⟨he, hes⟩ := List.forall_mem_cons.1 h
    rw [normalElements?, he, ih hes]

lemma normalMembers?_of_forall {ms : List (Option String × Json)} (hnames : ∀ m ∈ ms, m.1.isSome)
    (h : ∀ m ∈ ms, normal? m.2 = some m.2) : normalMembers? ms = some ms := by
  induction ms with
  | nil => rfl
  | cons m ms ih =>
    obtain ⟨hname, hnames⟩ := List.forall_mem_cons.1 hnames
    obtain ⟨hm, hms⟩ := List.forall_mem_cons.1 h
    exact normalMembers?_cons_eq_some_iff.2 ⟨m.2, ms, hname, hm, ih hnames hms, rfl⟩

lemma Faithful.normal?_eq {n : Nat} {j : Json} (h : Faithful n j) : j.normal? = some j := by
  induction h with
  | null | bool | string => rfl
  | integer hlo hhi => exact if_pos ⟨hlo, hhi⟩
  | array _ ih => rw [normal?, normalElements?_of_forall ih, Option.map_some]
  | object hnames _ ih => rw [normal?, normalMembers?_of_forall hnames ih, Option.map_some]

/-- Putting members in order leaves a document faithful. -/
lemma Faithful.sorted {n : Nat} {j : Json} (h : Faithful n j) : Faithful n j.sorted := by
  induction h with
  | null => exact .null
  | bool b => exact .bool b
  | integer hlo hhi => exact .integer hlo hhi
  | string s => exact .string s
  | array _ ih =>
    rw [Json.sorted, sortedElements_eq_map]
    exact .array (List.forall_mem_map.2 ih)
  | object hnames _ ih =>
    rw [Json.sorted, sortedMembers_eq_map]
    refine .object (fun m hm => ?_) fun m hm => ?_
    · obtain ⟨m', hm', rfl⟩ := List.mem_map.1 (mem_of_mem_sortMembers hm)
      exact hnames m' hm'
    · obtain ⟨m', hm', rfl⟩ := List.mem_map.1 (mem_of_mem_sortMembers hm)
      exact ih m' hm'

mutual
/-- Reading keeps the nesting. -/
theorem depth_reread : ∀ j : Json, (reread j).depth = j.depth
  | .null | .bool _ | .integer _ | .decimal _ | .string _ => rfl
  | .array es => congrArg (· + 1) (depthElements_reread es)
  | .object ms => congrArg (· + 1) (depthMembers_reread ms)
theorem depthElements_reread :
    ∀ es : List Json, depthElements (rereadElements es) = depthElements es
  | [] => rfl
  | e :: es => congrArg₂ max (depth_reread e) (depthElements_reread es)
theorem depthMembers_reread :
    ∀ ms : List (Option String × Json), depthMembers (rereadMembers ms) = depthMembers ms
  | [] => rfl
  | (_, e) :: ms => congrArg₂ max (depth_reread e) (depthMembers_reread ms)
end

/-- The value of a written document is what reading makes of it, unless it is nested too deeply. -/
theorem parseValue?_compress_eq (j : Json) :
    parseValue? j.compress =
      if j.depth ≤ maxDepth then (reread j).normal?.map sorted else none := by
  rw [parseValue?, parse?_compress_any]
  show (reread j).value? = _
  rw [value?, depth_reread]

/-- A faithful document has itself as its value, members in order. -/
theorem parseValue?_compress {n : Nat} {j : Json} (h : Faithful n j) (hn : n ≤ maxDepth) :
    parseValue? j.compress = some j.sorted := by
  rw [parseValue?_compress_eq, if_pos (Nat.le_trans h.depth_le hn), h.exact.reread_eq, h.normal?_eq,
    Option.map_some]

/-! ## Which documents are faithful -/

variable {n : Nat}

attribute [simp] Faithful.null Faithful.bool

@[simp]
lemma faithful_text (s : String) : Faithful n (text s) := .string s

@[simp]
lemma faithful_int32Json (i : Int32) : Faithful n (int32Json i) :=
  .integer (by have := Int32.le_toInt i; omega) (by have := Int32.toInt_lt i; omega)

lemma faithful_nat {i : Nat} (h : i < 18446744073709551616) : Faithful n (nat i) :=
  .integer (by omega) (by omega)

@[simp]
lemma faithful_uint8Json (i : UInt8) : Faithful n (uint8Json i) :=
  faithful_nat (by have := i.toNat_lt; omega)

@[simp]
lemma faithful_uint16Json (i : UInt16) : Faithful n (uint16Json i) :=
  faithful_nat (by have := i.toNat_lt; omega)

@[simp]
lemma faithful_uint32Json (i : UInt32) : Faithful n (uint32Json i) :=
  faithful_nat (by have := i.toNat_lt; omega)

@[simp]
lemma faithful_uint64Json (i : UInt64) : Faithful n (uint64Json i) :=
  faithful_nat i.toNat_lt

lemma faithful_record {ms : List (String × Json)} (h : ∀ m ∈ ms, Faithful n m.2) :
    Faithful (n + 1) (record ms) := by
  refine .object (fun m hm => ?_) fun m hm => ?_
  · obtain ⟨m', -, rfl⟩ := List.mem_map.1 hm
    rfl
  · obtain ⟨m', hm', rfl⟩ := List.mem_map.1 hm
    exact h m' hm'

lemma faithful_variantJson {name : String} {parts : List (String × Json)}
    (h : ∀ m ∈ parts, Faithful n m.2) : Faithful (n + 2) (variantJson name parts) :=
  faithful_record (List.forall_mem_singleton.2 (faithful_record h))

lemma faithful_ofOption {α : Type} {toJson : α → Json} (h : ∀ a, Faithful n (toJson a))
    (o : Option α) : Faithful n (ofOption toJson o) := by
  cases o with
  | none => exact .null
  | some a => exact h a

lemma faithful_ofList {α : Type} {toJson : α → Json} (h : ∀ a, Faithful n (toJson a))
    (xs : List α) : Faithful (n + 1) (ofList toJson xs) :=
  .array (List.forall_mem_map.2 fun a _ => h a)

/-! ## Values of objects -/

lemma parseValue?_compress_eq_some {j v : Json} (h : parseValue? j.compress = some v) :
    ∃ j', (reread j).normal? = some j' ∧ v = j'.sorted := by
  rw [parseValue?_compress_eq] at h
  split at h
  · obtain ⟨j', hnormal, rfl⟩ := Option.map_eq_some_iff.1 h
    exact ⟨j', hnormal, rfl⟩
  · exact nomatch h

/-- The value of an object, if it has one, has under each name the value of what stands there. -/
theorem member?_value {ms : List (Option String × Json)} (hnames : (ms.map Prod.fst).Nodup)
    {v : Json} (h : parseValue? (object ms).compress = some v) (name : String) :
    (v.member? name).map some =
      ((object ms).member? name).map fun j => ((reread j).normal?).map sorted := by
  obtain ⟨j', hnormal, rfl⟩ := parseValue?_compress_eq_some h
  rw [reread, rereadMembers_eq_map, normal?] at hnormal
  obtain ⟨ms', hms, rfl⟩ := Option.map_eq_some_iff.1 hnormal
  obtain ⟨hsame, hmembers⟩ := member?_normalMembers? hms
  have hnodup : (ms'.map Prod.fst).Nodup := by
    rw [hsame, List.map_map]
    exact hnames
  -- reading and making normal keep the names, and putting in order keeps what each of them finds
  have hname := hmembers name
  rw [member?_map, Option.map_map] at hname
  rw [member?_sorted hnodup, Option.map_map]
  calc ((object ms').member? name).map (some ∘ sorted)
      = (((object ms').member? name).map some).map (Option.map sorted) := by
        rw [Option.map_map]
        rfl
    _ = _ := by
        rw [hname, Option.map_map]
        rfl

/-! ## Values of records -/

lemma nodup_record {ms : List (String × Json)} (h : (ms.map Prod.fst).Nodup) :
    ((ms.map fun m => (some m.1, m.2)).map Prod.fst).Nodup := by
  rw [List.map_map]
  have hsome := h.map (Option.some_injective String)
  rwa [List.map_map] at hsome

lemma member?_record_eq_some_iff {ms : List (String × Json)} (h : (ms.map Prod.fst).Nodup)
    {name : String} {j : Json} : (record ms).member? name = some j ↔ (name, j) ∈ ms := by
  rw [record, member?_eq_some_iff (nodup_record h), List.mem_map]
  constructor
  · rintro ⟨m, hm, heq⟩
    obtain ⟨hname, rfl⟩ := Prod.mk.inj heq
    obtain rfl := Option.some.inj hname
    exact hm
  · exact fun hm => ⟨_, hm, rfl⟩

/-- Members that reading leaves alone, but for order, are left alone together. -/
lemma sortedMembers_normalMembers? {ms : List (Option String × Json)}
    (hnames : ∀ m ∈ ms, m.1.isSome)
    (h : ∀ m ∈ ms, (reread m.2).normal?.map sorted = some m.2.sorted) :
    (normalMembers? (rereadMembers ms)).map sortedMembers = some (sortedMembers ms) := by
  induction ms with
  | nil => rfl
  | cons m ms ih =>
    obtain ⟨hname, hnames⟩ := List.forall_mem_cons.1 hnames
    obtain ⟨hm, hms⟩ := List.forall_mem_cons.1 h
    obtain ⟨e, he, hsorted⟩ := Option.map_eq_some_iff.1 hm
    obtain ⟨ms', hms', hsame⟩ := Option.map_eq_some_iff.1 (ih hnames hms)
    have hall : normalMembers? (rereadMembers (m :: ms)) = some ((m.1, e) :: ms') :=
      normalMembers?_cons_eq_some_iff.2 ⟨e, ms', hname, he, hms', rfl⟩
    rw [hall, Option.map_some, sortedMembers, hsorted, hsame, sortedMembers]

/-- A record is its own value exactly if each of its members is its own, with room for one more
level of nesting. -/
theorem parseValue?_record_iff {ms : List (String × Json)} (hnames : (ms.map Prod.fst).Nodup) :
    parseValue? (record ms).compress = some (record ms).sorted ↔
      ∀ m ∈ ms, m.2.depth < maxDepth ∧ parseValue? m.2.compress = some m.2.sorted := by
  have hdepth : (record ms).depth ≤ maxDepth ↔ ∀ m ∈ ms, m.2.depth < maxDepth :=
    Nat.succ_le_succ_iff.trans (depthMembers_le_iff.trans
      (List.forall_mem_map.trans (forall₂_congr fun _ _ => Nat.lt_succ_iff.symm)))
  constructor
  · -- the value of the record has the value of each member under its name
    intro h m hm
    have hm' : m.2.depth < maxDepth := by
      refine hdepth.1 ?_ m hm
      rw [parseValue?_compress_eq] at h
      split at h
      · assumption
      · exact nomatch h
    have hmember := member?_value (nodup_record hnames) h m.1
    have hfound : (record ms).member? m.1 = some m.2 := (member?_record_eq_some_iff hnames).2 hm
    rw [record, member?_sorted (nodup_record hnames), ← record, hfound] at hmember
    refine ⟨hm', ?_⟩
    rw [parseValue?_compress_eq, if_pos (Nat.le_of_lt hm')]
    exact (Option.some.inj hmember).symm
  · intro h
    have hmembers : (normalMembers? (rereadMembers (ms.map fun m => (some m.1, m.2)))).map
        sortedMembers = some (sortedMembers (ms.map fun m => (some m.1, m.2))) := by
      refine sortedMembers_normalMembers? (List.forall_mem_map.2 fun m _ => rfl)
        (List.forall_mem_map.2 fun m hm => ?_)
      obtain ⟨hle, hvalue⟩ := h m hm
      rwa [parseValue?_compress_eq, if_pos (Nat.le_of_lt hle)] at hvalue
    obtain ⟨ms', hms', hsame⟩ := Option.map_eq_some_iff.1 hmembers
    rw [parseValue?_compress_eq, if_pos (hdepth.2 fun m hm => (h m hm).1), record, reread, normal?,
      hms', Option.map_some, Option.map_some, sorted, sorted, hsame]

/-- The value of a record, if it has one, has its members and no others; one that is faithful is
found as it was. -/
theorem member?_value_record {ms : List (String × Json)} (hnames : (ms.map Prod.fst).Nodup)
    {v : Json} (h : parseValue? (record ms).compress = some v) :
    (∀ name j, (name, j) ∈ ms → Faithful n j → v.member? name = some j.sorted) ∧
      ∀ name ∉ ms.map Prod.fst, v.member? name = none := by
  have hmember := member?_value (nodup_record hnames) h
  constructor
  · intro name j hj hfaithful
    have hfound := (member?_record_eq_some_iff hnames).2 hj
    have hvalue := hmember name
    rw [← record, hfound, Option.map_some, hfaithful.exact.reread_eq, hfaithful.normal?_eq,
      Option.map_some] at hvalue
    exact Option.map_injective (Option.some_injective Json) hvalue
  · intro name hname
    have hnone : (record ms).member? name = none := by
      cases hfound : (record ms).member? name with
      | none => rfl
      | some j =>
        exact absurd (List.mem_map_of_mem ((member?_record_eq_some_iff hnames).1 hfound)) hname
    have hvalue := hmember name
    rw [← record, hnone, Option.map_none, Option.map_eq_none_iff] at hvalue
    exact hvalue

end Json

end FrontZone
