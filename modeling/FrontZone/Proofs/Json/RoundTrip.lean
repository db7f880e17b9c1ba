import FrontZone.Proofs.Json.Scan
/-!
# Documents read back

`read?_write`: a document that was written is what the reader makes of the text, blanks around it
allowed; the text itself is free of line ends (`printable_write`). Documents that hold a decimal are
left out, since of its digits the reader keeps only as many as fit 64 bits; a command holds none
(`Exact`). Of any document at all the reader makes `reread` (`parse?_compress_any`), in which only
decimals differ. The statement that carries the induction is `ReadsBack`: whatever follows the text,
and with fuel for twice its length, which the fuel of the descent exceeds.
-/

namespace FrontZone

namespace Json

/-- A document without decimals. -/
inductive Exact : Json → Prop
  | null : Exact .null
  | bool (b : Bool) : Exact (.bool b)
  | integer (n : Int) : Exact (.integer n)
  | string (s : Option String) : Exact (.string s)
  | array {es : List Json} (h : ∀ e ∈ es, Exact e) : Exact (.array es)
  | object {ms : List (Option String × Json)} (h : ∀ m ∈ ms, Exact m.2) : Exact (.object ms)

mutual
/-- What is read where a document was written: the same, but for its decimals. -/
def reread : Json → Json
  | .decimal d => .decimal (rereadDecimal d)
  | .array es => .array (rereadElements es)
  | .object ms => .object (rereadMembers ms)
  | j => j
/-- What is read where elements were written. -/
def rereadElements : List Json → List Json
  | [] => []
  | e :: es => reread e :: rereadElements es
/-- What is read where members were written. -/
def rereadMembers : List (Option String × Json) → List (Option String × Json)
  | [] => []
  | (k, e) :: ms => (k, reread e) :: rereadMembers ms
end

lemma rereadElements_eq_map (es : List Json) : rereadElements es = es.map reread := by
  induction es with
  | nil => rfl
  | cons e es ih => rw [rereadElements, ih, List.map_cons]

lemma rereadMembers_eq_map (ms : List (Option String × Json)) :
    rereadMembers ms = ms.map fun m => (m.1, reread m.2) := by
  induction ms with
  | nil => rfl
  | cons m ms ih => rw [rereadMembers, ih, List.map_cons]

/-- A document without decimals is read unchanged. -/
lemma Exact.reread_eq {j : Json} (h : Exact j) : reread j = j := by
  induction h with
  | null | bool | integer | string => rfl
  | @array es _ ih =>
    rw [reread, rereadElements_eq_map, List.map_congr_left ih, List.map_id']
  | @object ms _ ih =>
    have hsame : ∀ m ∈ ms, (m.1, reread m.2) = m := fun m hm => Prod.ext rfl (ih m hm)
    rw [reread, rereadMembers_eq_map, List.map_congr_left hsame, List.map_id']

/-! ## How a document begins -/

/-- A string is read back, one that is no text as such. -/
lemma exists_writeString_append (s : Option String) (rest : List Char) :
    ∃ cs, writeString s ++ rest = '"' :: cs ∧ readString cs = some (s, rest) := by
  cases s with
  | none => exact ⟨_, rfl, rfl⟩
  | some s =>
    refine ⟨s.toList.flatMap escapeChar ++ '"' :: rest, ?_, readString_writeText s rest⟩
    simp only [writeString, writeText, List.cons_append, List.append_assoc, List.nil_append]

lemma writeString_length_pos (s : Option String) : 0 < (writeString s).length := by
  cases s <;> exact Nat.succ_pos _

lemma skipBlank_of_not_isBlank {c : Char} (h : isBlank c = false) (rest : List Char) :
    skipBlank (c :: rest) = c :: rest :=
  List.dropWhile_cons_of_neg (by simp [h])

/-- A written integer begins with a sign or a digit. -/
lemma writeInt_head (n : Int) : ∃ c cs, writeInt n = c :: cs ∧ (c = '-' ∨ c.isDigit) := by
  unfold writeInt
  split
  · exact ⟨_, _, rfl, Or.inl rfl⟩
  · obtain ⟨c, cs, h⟩ := List.exists_cons_of_ne_nil (Nat.toDigits_ne_nil (b := 10) (n := n.natAbs))
    exact ⟨c, cs, h, Or.inr (isDigit_of_mem_natDigits (h ▸ List.mem_cons_self))⟩

/-- A sign or a digit is no blank and begins no other kind of document. -/
lemma begins_number {c : Char} (h : c = '-' ∨ c.isDigit) :
    isBlank c = false ∧ c ∉ ['\x7b', '[', '"', 'n', 't', 'f', ']'] := by
  constructor
  · unfold isBlank
    simp only [Bool.or_eq_false_iff, decide_eq_false_iff_not]
    refine ⟨⟨⟨?_, ?_⟩, ?_⟩, ?_⟩ <;> rintro rfl <;> exact absurd h (by decide)
  · intro hmem
    simp only [List.mem_cons, List.not_mem_nil, or_false] at hmem
    rcases hmem with rfl | rfl | rfl | rfl | rfl | rfl | rfl <;> exact absurd h (by decide)

/-- What begins like a number is read as one. -/
lemma readValue_number {c : Char} (h : c = '-' ∨ c.isDigit) (fuel : Nat) (rest : List Char) :
    readValue (fuel + 1) (c :: rest) = readNumber (c :: rest) := by
  obtain ⟨hblank, hother⟩ := begins_number h
  simp only [List.mem_cons, List.not_mem_nil, or_false, not_or] at hother
  rw [readValue, skipBlank_of_not_isBlank hblank]
  split <;> simp_all

/-- A written decimal begins with a sign or a digit. -/
lemma writeDecimal_head (d : Decimal) :
    ∃ c cs, writeDecimal d = c :: cs ∧ (c = '-' ∨ c.isDigit) := by
  obtain ⟨negative, digits, exponent⟩ := d
  cases negative with
  | true => exact ⟨_, _, writeDecimal_negative digits exponent, Or.inl rfl⟩
  | false =>
    obtain ⟨c, cs, h, hc⟩ := exists_writeDecimal_eq_cons digits exponent
    exact ⟨c, cs, h, Or.inr hc⟩

/-- A written document begins neither with a blank nor with the end of an array. -/
lemma write_head (j : Json) : ∃ c cs, write j = c :: cs ∧ isBlank c = false ∧ c ≠ ']' := by
  have hnumber {c : Char} (hc : c = '-' ∨ c.isDigit) : isBlank c = false ∧ c ≠ ']' := by
    obtain ⟨hblank, hother⟩ := begins_number hc
    exact ⟨hblank, fun h => hother (by simp [h])⟩
  cases j with
  | null => exact ⟨_, _, rfl, rfl, by decide⟩
  | bool b => cases b <;> exact ⟨_, _, rfl, rfl, by decide⟩
  | integer n =>
    obtain ⟨c, cs, hwrite, hc⟩ := writeInt_head n
    exact ⟨c, cs, by rw [write, hwrite], hnumber hc⟩
  | decimal d =>
    obtain ⟨c, cs, hwrite, hc⟩ := writeDecimal_head d
    exact ⟨c, cs, by rw [write, hwrite], hnumber hc⟩
  | string s => cases s <;> exact ⟨_, _, rfl, rfl, by decide⟩
  | array => exact ⟨_, _, rfl, rfl, by decide⟩
  | object => exact ⟨_, _, rfl, rfl, by decide⟩

/-! ## Arrays and objects -/

/-- Whatever follows, enough fuel for the length of its text reads a document back. -/
def ReadsBack (j : Json) : Prop :=
  ∀ (rest : List Char) (fuel : Nat), EndsNumber rest → 2 * (write j).length ≤ fuel →
    readValue fuel (write j ++ rest) = some (reread j, rest)

lemma endsNumber_cons {c : Char} (h : ¬ c.isDigit ∧ c ≠ '.' ∧ c ≠ 'e' ∧ c ≠ 'E')
    (rest : List Char) : EndsNumber (c :: rest) := by
  rintro _ ⟨rfl⟩
  exact h

lemma endsNumber_moreElements (es : List Json) (rest : List Char) :
    EndsNumber (writeMoreElements es ++ rest) := by
  cases es <;> exact endsNumber_cons (by decide) _

lemma endsNumber_moreMembers (ms : List (Option String × Json)) (rest : List Char) :
    EndsNumber (writeMoreMembers ms ++ rest) := by
  cases ms <;> exact endsNumber_cons (by decide) _

lemma length_writeMoreElements_pos (es : List Json) : 0 < (writeMoreElements es).length := by
  cases es <;> exact Nat.succ_pos _

/-- After an element comes the end of the array, or a comma and an array's elements again. -/
lemma writeMoreElements_cons (e : Json) (es : List Json) :
    writeMoreElements (e :: es) = ',' :: writeElements (e :: es) := rfl

lemma writeMoreMembers_cons (m : Option String × Json) (ms : List (Option String × Json)) :
    writeMoreMembers (m :: ms) = ',' :: writeMembers (m :: ms) := rfl

/-- The elements of an array are read back if each of them is. -/
lemma readElements_write {e : Json} {es : List Json} (h : ∀ e' ∈ e :: es, ReadsBack e')
    (rest : List Char) (fuel : Nat) (hfuel : 2 * (writeElements (e :: es)).length ≤ fuel) :
    readElements fuel (writeElements (e :: es) ++ rest) =
      some (rereadElements (e :: es), rest) := by
  induction es generalizing e fuel with
  | nil =>
    rw [writeElements, List.length_append] at hfuel
    have hmore := length_writeMoreElements_pos []
    obtain ⟨fuel, rfl⟩ := Nat.exists_eq_add_one.mpr (show 0 < fuel by omega)
    rw [writeElements, List.append_assoc, readElements, h e List.mem_cons_self _ fuel
      (endsNumber_moreElements [] rest) (by omega)]
    rfl
  | cons e' es ih =>
    rw [writeElements, writeMoreElements_cons, List.length_append, List.length_cons] at hfuel
    obtain ⟨fuel, rfl⟩ := Nat.exists_eq_add_one.mpr (show 0 < fuel by omega)
    have htail := ih (fun e'' he => h e'' (List.mem_cons_of_mem e he)) fuel (by omega)
    rw [writeElements, List.append_assoc, readElements, h e List.mem_cons_self _ fuel
      (endsNumber_moreElements (e' :: es) rest) (by omega)]
    show (readElements fuel (writeElements (e' :: es) ++ rest)).map _ = _
    rw [htail]
    rfl

/-- A member is read back if its document is. -/
lemma readMember_write {k : Option String} {j : Json} (h : ReadsBack j) {rest : List Char}
    (hrest : EndsNumber rest) {fuel : Nat} (hfuel : 2 * (write j).length < fuel) :
    readMember fuel (writeString k ++ ':' :: (write j ++ rest)) = some ((k, reread j), rest) := by
  obtain ⟨fuel, rfl⟩ := Nat.exists_eq_add_one.mpr (show 0 < fuel by omega)
  obtain ⟨cs, hwrite, hread⟩ := exists_writeString_append k (':' :: (write j ++ rest))
  rw [hwrite, readMember, skipBlank_of_not_isBlank rfl]
  simp only [hread, skipBlank_of_not_isBlank (c := ':') rfl, h rest fuel hrest (by omega),
    Option.map_some]

lemma writeMembers_append (m : Option String × Json) (ms : List (Option String × Json))
    (rest : List Char) :
    writeMembers (m :: ms) ++ rest =
      writeString m.1 ++ ':' :: (write m.2 ++ (writeMoreMembers ms ++ rest)) := by
  simp only [writeMembers, List.append_assoc, List.cons_append]

lemma length_writeMembers (m : Option String × Json) (ms : List (Option String × Json)) :
    (writeMembers (m :: ms)).length =
      (writeString m.1).length + 1 + (write m.2).length + (writeMoreMembers ms).length := by
  simp only [writeMembers, List.length_append, List.length_cons]
  omega

/-- The members of an object are read back if the document of each of them is. -/
lemma readMembers_write {m : Option String × Json} {ms : List (Option String × Json)}
    (h : ∀ m' ∈ m :: ms, ReadsBack m'.2) (rest : List Char) (fuel : Nat)
    (hfuel : 2 * (writeMembers (m :: ms)).length ≤ fuel) :
    readMembers fuel (writeMembers (m :: ms) ++ rest) = some (rereadMembers (m :: ms), rest) := by
  induction ms generalizing m fuel with
  | nil =>
    rw [length_writeMembers] at hfuel
    obtain ⟨fuel, rfl⟩ := Nat.exists_eq_add_one.mpr (show 0 < fuel by omega)
    rw [writeMembers_append, readMembers, readMember_write (h m List.mem_cons_self)
      (endsNumber_moreMembers [] rest) (by omega)]
    rfl
  | cons m' ms ih =>
    rw [length_writeMembers, writeMoreMembers_cons, List.length_cons] at hfuel
    obtain ⟨fuel, rfl⟩ := Nat.exists_eq_add_one.mpr (show 0 < fuel by omega)
    have htail := ih (fun m'' hm => h m'' (List.mem_cons_of_mem m hm)) fuel (by omega)
    rw [writeMembers_append, readMembers, readMember_write (h m List.mem_cons_self)
      (endsNumber_moreMembers (m' :: ms) rest) (by omega)]
    show (readMembers fuel (writeMembers (m' :: ms) ++ rest)).map _ = _
    rw [htail]
    rfl

/-! ## Documents -/

lemma readsBack_array {es : List Json} (h : ∀ e ∈ es, ReadsBack e) : ReadsBack (.array es) := by
  intro rest fuel hrest hfuel
  rw [write, List.length_cons] at hfuel
  obtain ⟨fuel, rfl⟩ := Nat.exists_eq_add_one.mpr (show 0 < fuel by omega)
  rw [write, List.cons_append, readValue, skipBlank_of_not_isBlank rfl]
  cases es with
  | nil => rfl
  | cons e es =>
    obtain ⟨c, cs, hwrite, hblank, hclose⟩ := write_head e
    have hread := readElements_write h rest fuel (by omega)
    have hbegin : writeElements (e :: es) ++ rest =
        c :: (cs ++ (writeMoreElements es ++ rest)) := by
      rw [writeElements, hwrite, List.append_assoc, List.cons_append]
    rw [hbegin] at hread ⊢
    simp only [skipBlank_of_not_isBlank hblank]
    -- no document begins with a closing bracket, so the array is not taken for an empty one
    split
    · simp_all
    · rw [hread]
      rfl

lemma readsBack_object {ms : List (Option String × Json)} (h : ∀ m ∈ ms, ReadsBack m.2) :
    ReadsBack (.object ms) := by
  intro rest fuel hrest hfuel
  rw [write, List.length_cons] at hfuel
  obtain ⟨fuel, rfl⟩ := Nat.exists_eq_add_one.mpr (show 0 < fuel by omega)
  rw [write, List.cons_append, readValue, skipBlank_of_not_isBlank rfl]
  cases ms with
  | nil => rfl
  | cons m ms =>
    have hread := readMembers_write h rest fuel (by omega)
    obtain ⟨cs, hbegin, -⟩ := exists_writeString_append m.1
      (':' :: (write m.2 ++ (writeMoreMembers ms ++ rest)))
    rw [writeMembers_append, hbegin] at hread ⊢
    simp only [skipBlank_of_not_isBlank (c := '"') rfl]
    show (readMembers fuel ('"' :: cs)).map _ = _
    rw [hread]
    rfl

/-- What begins like a number and is read as one is read back. -/
lemma readsBack_number {j : Json} {c : Char} {cs : List Char} (hwrite : write j = c :: cs)
    (hc : c = '-' ∨ c.isDigit)
    (hread : ∀ rest, EndsNumber rest → readNumber (write j ++ rest) = some (reread j, rest)) :
    ReadsBack j := by
  intro rest fuel hrest hfuel
  rw [hwrite, List.length_cons] at hfuel
  obtain ⟨fuel, rfl⟩ := Nat.exists_eq_add_one.mpr (show 0 < fuel by omega)
  rw [← hread rest hrest, hwrite, List.cons_append, readValue_number hc]

lemma readsBack_string (s : Option String) : ReadsBack (.string s) := by
  intro rest fuel _ hfuel
  obtain ⟨cs, hwrite, hread⟩ := exists_writeString_append s rest
  have hlength := writeString_length_pos s
  rw [write] at hfuel ⊢
  obtain ⟨fuel, rfl⟩ := Nat.exists_eq_add_one.mpr (show 0 < fuel by omega)
  rw [hwrite, readValue, skipBlank_of_not_isBlank rfl]
  simp only [hread, Option.map_some, reread]

mutual
/-- Every document is read back. -/
theorem readValue_write : ∀ j : Json, ReadsBack j
  | .null => by
    intro rest fuel _ hfuel
    obtain ⟨fuel, rfl⟩ := Nat.exists_eq_add_one.mpr (Nat.zero_lt_of_lt hfuel)
    rfl
  | .bool b => by
    intro rest fuel _ hfuel
    cases b <;>
    · obtain ⟨fuel, rfl⟩ := Nat.exists_eq_add_one.mpr (Nat.zero_lt_of_lt hfuel)
      rfl
  | .integer n =>
    have ⟨_, _, hwrite, hc⟩ := writeInt_head n
    readsBack_number hwrite hc fun _ => readNumber_writeInt n
  | .decimal d =>
    have ⟨_, _, hwrite, hc⟩ := writeDecimal_head d
    readsBack_number hwrite hc fun _ => readNumber_writeDecimal d
  | .string s => readsBack_string s
  | .array es => readsBack_array (readValue_write_elements es)
  | .object ms => readsBack_object (readValue_write_members ms)
theorem readValue_write_elements : ∀ (es : List Json), ∀ e ∈ es, ReadsBack e
  | [] => nofun
  | e :: es => List.forall_mem_cons.2 ⟨readValue_write e, readValue_write_elements es⟩
theorem readValue_write_members : ∀ (ms : List (Option String × Json)), ∀ m ∈ ms, ReadsBack m.2
  | [] => nofun
  | (_, e) :: ms => List.forall_mem_cons.2 ⟨readValue_write e, readValue_write_members ms⟩
end

/-! ## Texts -/

lemma skipBlank_blanks {cs : List Char} (h : ∀ c ∈ cs, isBlank c) (rest : List Char) :
    skipBlank (cs ++ rest) = skipBlank rest := by
  unfold skipBlank
  rw [List.dropWhile_append_of_pos h]

/-- A document is read alike with blanks before it. -/
lemma readValue_skipBlank (fuel : Nat) {cs : List Char} (h : ∀ c ∈ cs, isBlank c)
    (rest : List Char) : readValue fuel (cs ++ rest) = readValue fuel rest := by
  cases fuel with
  | zero => rfl
  | succ fuel => rw [readValue, readValue, skipBlank_blanks h]

/-- Of a written document its text is read, blanks around it allowed. -/
lemma read?_write_any (j : Json) {before after : List Char} (hbefore : ∀ c ∈ before, isBlank c)
    (hafter : ∀ c ∈ after, isBlank c) : read? (before ++ write j ++ after) = some (reread j) := by
  have hends : EndsNumber after := by
    intro c hc
    have hblank := hafter c (List.mem_of_head? hc)
    simp only [isBlank, Bool.or_eq_true, decide_eq_true_eq] at hblank
    rcases hblank with ((rfl | rfl) | rfl) | rfl <;> decide
  have hfuel : 2 * (write j).length ≤ fuelFor (before ++ write j ++ after) := by
    simp only [fuelFor, List.length_append]
    omega
  have hrest : skipBlank after = [] := by
    have := skipBlank_blanks hafter []
    rwa [List.append_nil] at this
  unfold read?
  rw [List.append_assoc] at hfuel ⊢
  rw [readValue_skipBlank _ hbefore, readValue_write j after _ hends hfuel]
  dsimp only
  rw [if_pos hrest]

/-- A written document is what its text is read as, blanks around it allowed. -/
theorem read?_write {j : Json} (h : Exact j) {before after : List Char}
    (hbefore : ∀ c ∈ before, isBlank c) (hafter : ∀ c ∈ after, isBlank c) :
    read? (before ++ write j ++ after) = some j := by
  rw [read?_write_any j hbefore hafter, h.reread_eq]

/-- A document's text spells the document, its decimals as they are read. -/
theorem parse?_compress_any (j : Json) : parse? j.compress = some (reread j) := by
  have hnone : ∀ c ∈ ([] : List Char), isBlank c := nofun
  have hread := read?_write_any j hnone hnone
  rw [List.nil_append, List.append_nil] at hread
  rw [parse?, compress, String.toList_ofList, hread]

/-- A document is what its text spells. -/
theorem parse?_compress {j : Json} (h : Exact j) : parse? j.compress = some j := by
  rw [parse?_compress_any, h.reread_eq]

/-! ## One line -/

/-- Nothing but characters from the blank on, so no line end. -/
def Printable (cs : List Char) : Prop := ∀ c ∈ cs, 32 ≤ c.toNat

instance (cs : List Char) : Decidable (Printable cs) :=
  List.decidableBAll _ cs

lemma Printable.append {cs ds : List Char} (hcs : Printable cs) (hds : Printable ds) :
    Printable (cs ++ ds) := fun c hc =>
  (List.mem_append.1 hc).elim (hcs c) (hds c)

lemma Printable.cons {c : Char} {cs : List Char} (hc : 32 ≤ c.toNat) (hcs : Printable cs) :
    Printable (c :: cs) :=
  List.forall_mem_cons.2 ⟨hc, hcs⟩

lemma hexDigit_printable : ∀ n < 16, 32 ≤ (hexDigit n).toNat := by
  decide

/-- Control characters are escaped. -/
lemma printable_escapeChar (c : Char) : Printable (escapeChar c) := by
  unfold escapeChar
  iterate 7
    split
    · decide
  split
  · next h =>
    have hhigh := hexDigit_printable (c.toNat / 16) (by omega)
    have hlow := hexDigit_printable (c.toNat % 16) (by omega)
    simp [Printable, hhigh, hlow]
  · next h => simpa [Printable] using h

lemma printable_writeString (s : Option String) : Printable (writeString s) := by
  cases s with
  | none => decide
  | some s =>
    have hquote : Printable ['"'] := by decide
    refine .cons (by decide) (.append (fun c hc => ?_) hquote)
    obtain ⟨d, -, hd⟩ := List.mem_flatMap.1 hc
    exact printable_escapeChar d c hd

lemma Digits.printable {ds : List Char} (h : Digits ds) : Printable ds := by
  intro c hc
  have hdigit := h c hc
  simp only [Char.isDigit, Bool.and_eq_true, decide_eq_true_eq] at hdigit
  exact Nat.le_trans (by decide) (UInt32.le_iff_toNat_le.1 hdigit.1)

lemma printable_writeInt (n : Int) : Printable (writeInt n) := by
  have hdigits := (digits_natDigits n.natAbs).printable
  unfold writeInt
  split
  · exact .cons (by decide) hdigits
  · exact hdigits

lemma printable_writeExponent (n : Int) : Printable (writeExponent n) := by
  have hdigits := (digits_natDigits n.natAbs).printable
  unfold writeExponent
  split <;> exact .cons (by decide) (.cons (by decide) hdigits)

lemma printable_writeDecimal (d : Decimal) : Printable (writeDecimal d) := by
  obtain ⟨negative, digits, exponent⟩ := d
  have hunsigned : Printable (writeDecimal ⟨false, digits, exponent⟩) := by
    obtain ⟨ds, fs, hds, hfs, -, hwrite⟩ | ⟨ds, fs, n, hds, hfs, hwrite⟩ :=
      writeDecimal_cases digits exponent
    · exact hwrite ▸ hds.digits.printable.append (.cons (by decide) hfs.printable)
    · refine hwrite ▸ (hds.digits.printable.append ?_).append (printable_writeExponent n)
      split
      · exact nofun
      · exact .cons (by decide) hfs.printable
  cases negative with
  | true => exact .cons (by decide) hunsigned
  | false => exact hunsigned

lemma printable_writeElements : ∀ {es : List Json}, Printable (writeMoreElements es) →
    Printable (writeElements es)
  | [], h => h
  | _ :: _, h => (List.forall_mem_cons.1 h).2

lemma printable_writeMembers : ∀ {ms : List (Option String × Json)},
    Printable (writeMoreMembers ms) → Printable (writeMembers ms)
  | [], h => h
  | _ :: _, h => (List.forall_mem_cons.1 h).2

mutual
/-- A document is written on one line. -/
theorem printable_write : ∀ j : Json, Printable (write j)
  | .null | .bool true | .bool false => by decide
  | .integer n => printable_writeInt n
  | .decimal d => printable_writeDecimal d
  | .string s => printable_writeString s
  | .array es => .cons (by decide) (printable_writeElements (printable_writeMoreElements es))
  | .object ms => .cons (by decide) (printable_writeMembers (printable_writeMoreMembers ms))
theorem printable_writeMoreElements : ∀ es : List Json, Printable (writeMoreElements es)
  | [] => by decide
  | e :: es => .cons (by decide) (.append (printable_write e) (printable_writeMoreElements es))
theorem printable_writeMoreMembers :
    ∀ ms : List (Option String × Json), Printable (writeMoreMembers ms)
  | [] => by decide
  | (k, e) :: ms => .cons (by decide) (.append (printable_writeString k) (.cons (by decide)
      (.append (printable_write e) (printable_writeMoreMembers ms))))
end

end Json

end FrontZone
