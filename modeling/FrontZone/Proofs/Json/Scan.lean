import FrontZone.Json.Reader
import FrontZone.Json.Writer
import Mathlib.Data.List.Basic
/-!
# Strings and numbers read back

What the reader makes of a string or a number that the writer wrote. A string is read back
character by character, whichever of its ways of writing each of them takes
(`readText_escapeChar`), and `readString_writeText` follows by induction on the text. An integer is
read back (`readNumber_writeInt`) unless what comes after it would carry it on: more digits, a
fraction or an exponent. Between the parts of a document only punctuation follows a number, so
`EndsNumber` asks for nothing that a written document does not give. A decimal is read as a decimal
again (`readNumber_writeDecimal`), though perhaps not as the same one.
-/

namespace FrontZone

namespace Json

/-! ## Strings -/

/-- A one-letter escape stands for its character. -/
lemma readText_letter {letter c : Char} (h : escapeLetter? letter = some c) (hu : letter ≠ 'u')
    (rest : List Char) :
    readText ('\\' :: letter :: rest) = (readText rest).map (prepend c) := by
  rw [readText.eq_4 letter rest fun _ _ _ _ _ hletter _ => hu hletter, h]

/-- A character that needs no escape stands for itself. -/
lemma readText_plain {c : Char} (hquote : c ≠ '"') (hescape : c ≠ '\\') (hcontrol : ¬ c.toNat < 32)
    (rest : List Char) : readText (c :: rest) = (readText rest).map (prepend c) := by
  rw [readText.eq_5 c rest hquote (fun _ _ _ _ _ h _ => hescape h) fun _ _ h _ => hescape h,
    if_neg (by simp only [hescape, hcontrol, or_self, not_false_iff])]

lemma hexUnit?_control :
    ∀ n < 32, hexUnit? '0' '0' (hexDigit (n / 16)) (hexDigit (n % 16)) = some n := by
  decide

/-- A control character is read back from its number. -/
lemma readText_control {c : Char} (h : c.toNat < 32) (rest : List Char) :
    readText ('\\' :: 'u' :: '0' :: '0' :: hexDigit (c.toNat / 16) :: hexDigit (c.toNat % 16) ::
      rest) = (readText rest).map (prepend c) := by
  have hhigh : isHighSurrogate c.toNat = false := by simp [isHighSurrogate]; omega
  have hlow : isLowSurrogate c.toNat = false := by simp [isLowSurrogate]; omega
  rw [readText, hexUnit?_control c.toNat h]
  simp only [hhigh, hlow, Char.ofNat_toNat, Bool.false_eq_true, if_false]

lemma eq_ofNat_of_toNat {c : Char} {n : Nat} (h : c.toNat = n) : c = Char.ofNat n := by
  rw [← h, Char.ofNat_toNat]

/-- Whatever way a character is written, it is read back. -/
lemma readText_escapeChar (c : Char) (rest : List Char) :
    readText (escapeChar c ++ rest) = (readText rest).map (prepend c) := by
  unfold escapeChar
  split
  · next h => subst h; exact readText_letter rfl (by decide) rest
  split
  · next h => subst h; exact readText_letter rfl (by decide) rest
  split
  · next h => exact readText_letter (eq_ofNat_of_toNat h ▸ rfl) (by decide) rest
  split
  · next h => exact readText_letter (eq_ofNat_of_toNat h ▸ rfl) (by decide) rest
  split
  · next h => exact readText_letter (eq_ofNat_of_toNat h ▸ rfl) (by decide) rest
  split
  · next h => exact readText_letter (eq_ofNat_of_toNat h ▸ rfl) (by decide) rest
  split
  · next h => exact readText_letter (eq_ofNat_of_toNat h ▸ rfl) (by decide) rest
  split
  · next h => exact readText_control h rest
  · next hquote hescape _ _ _ _ _ hcontrol => exact readText_plain hquote hescape hcontrol rest

lemma readText_escaped (s rest : List Char) :
    readText (s.flatMap escapeChar ++ '"' :: rest) = some (some s, rest) := by
  induction s with
  | nil => rfl
  | cons c s ih =>
    rw [List.flatMap_cons, List.append_assoc, readText_escapeChar, ih]
    rfl

/-- A text in quotes is read back. -/
lemma readString_writeText (s : String) (rest : List Char) :
    readString (s.toList.flatMap escapeChar ++ '"' :: rest) = some (some s, rest) := by
  rw [readString, readText_escaped, Option.map_some, Option.map_some, String.ofList_toList]

/-! ## Numbers -/

/-- What follows does not carry on a number. -/
def EndsNumber (rest : List Char) : Prop :=
  ∀ c ∈ rest.head?, ¬ c.isDigit ∧ c ≠ '.' ∧ c ≠ 'e' ∧ c ≠ 'E'

lemma isDigit_of_mem_natDigits {n : Nat} {c : Char} (h : c ∈ natDigits n) : c.isDigit :=
  Nat.isDigit_of_mem_toDigits (by decide) (by decide) h

/-- Nothing but digits, or nothing at all. -/
def Digits (ds : List Char) : Prop := ∀ c ∈ ds, c.isDigit

lemma digits_natDigits (n : Nat) : Digits (natDigits n) :=
  fun _ hc => isDigit_of_mem_natDigits hc

lemma natDigits_ne_nil (n : Nat) : natDigits n ≠ [] := Nat.toDigits_ne_nil

lemma head?_natDigits_append (n : Nat) (rest : List Char) :
    (natDigits n ++ rest).head? = (natDigits n).head? :=
  List.head?_append_of_ne_nil _ Nat.toDigits_ne_nil

/-- Digits are read up to where they end. -/
lemma readDigits_append {ds rest : List Char} (hds : Digits ds) (hne : ds ≠ [])
    (hrest : ∀ c ∈ rest.head?, ¬ c.isDigit) : readDigits (ds ++ rest) = some (ds, rest) := by
  have hstop : rest.takeWhile Char.isDigit = [] ∧ rest.dropWhile Char.isDigit = rest := by
    cases rest with
    | nil => exact ⟨rfl, rfl⟩
    | cons c rest =>
      have hc := hrest c rfl
      exact ⟨List.takeWhile_cons_of_neg hc, List.dropWhile_cons_of_neg hc⟩
  obtain ⟨d, ds, rfl⟩ := List.exists_cons_of_ne_nil hne
  unfold readDigits
  rw [List.takeWhile_append_of_pos hds, List.dropWhile_append_of_pos hds, hstop.1, hstop.2,
    List.append_nil]

lemma EndsNumber.head_not_isDigit {rest : List Char} (h : EndsNumber rest) :
    ∀ c ∈ rest.head?, ¬ c.isDigit :=
  fun c hc => (h c hc).1

/-- Only zero is written with a zero in front. -/
lemma head?_natDigits {n : Nat} (h : 0 < n) : (natDigits n).head? ≠ some '0' := by
  induction n using Nat.strongRecOn with
  | ind n ih =>
    unfold natDigits at ih ⊢
    by_cases hn : n < 10
    · rw [Nat.toDigits_of_lt_base hn]
      revert h
      exact (by decide : ∀ n < 10, 0 < n → [n.digitChar].head? ≠ some '0') n hn
    · rw [Nat.toDigits_of_base_le (by decide) (by omega),
        List.head?_append_of_ne_nil _ Nat.toDigits_ne_nil]
      exact ih (n / 10) (by omega) (by omega)

/-- The digits before a point or an end are read, if a zero in front is the only one. -/
lemma readWhole_append {ds rest : List Char} (hds : Digits ds) (hne : ds ≠ [])
    (hzero : ds.head? = some '0' → ds = ['0']) (hrest : ∀ c ∈ rest.head?, ¬ c.isDigit) :
    readWhole (ds ++ rest) = some (ds, rest) := by
  unfold readWhole
  split
  · next r hhead =>
    have hds' := congrArg List.head? hhead
    rw [List.head?_append_of_ne_nil _ hne] at hds'
    obtain rfl := hzero hds'
    rw [List.singleton_append, List.cons.injEq] at hhead
    rw [hhead.2]
  · exact readDigits_append hds hne hrest

lemma eq_zero_of_head?_natDigits {n : Nat} (h : (natDigits n).head? = some '0') :
    natDigits n = ['0'] := by
  rcases Nat.eq_zero_or_pos n with rfl | hn
  · rfl
  · exact absurd h (head?_natDigits hn)

lemma readWhole_natDigits (n : Nat) {rest : List Char} (h : EndsNumber rest) :
    readWhole (natDigits n ++ rest) = some (natDigits n, rest) :=
  readWhole_append (digits_natDigits n) (natDigits_ne_nil n)
    eq_zero_of_head?_natDigits h.head_not_isDigit

lemma readFraction_of_ends {rest : List Char} (h : EndsNumber rest) :
    readFraction rest = some (none, rest) := by
  unfold readFraction
  split
  · exact absurd rfl (h '.' rfl).2.1
  · rfl

lemma readExponent_of_ends {rest : List Char} (h : EndsNumber rest) :
    readExponent rest = some (none, rest) := by
  unfold readExponent
  split
  · exact absurd rfl (h 'e' rfl).2.2.1
  · exact absurd rfl (h 'E' rfl).2.2.2
  · rfl

lemma digitsValue_natDigits (n : Nat) : digitsValue (natDigits n) = n := by
  have h := Nat.ofDigitChars_ten_toDigits (n := n)
  rw [Nat.ofDigitChars_eq_foldl] at h
  simp only [Nat.mul_comm 10] at h
  exact h

lemma readUnsigned_natDigits (negative : Bool) (n : Nat) {rest : List Char} (h : EndsNumber rest) :
    readUnsigned negative (natDigits n ++ rest) =
      some (ofNumberParts negative (natDigits n) none none, rest) := by
  unfold readUnsigned
  rw [readWhole_natDigits n h]
  simp only [Option.bind_eq_bind, Option.bind_some, readFraction_of_ends h, readExponent_of_ends h]
  rfl

/-- An integer is read back. -/
lemma readNumber_writeInt (n : Int) {rest : List Char} (h : EndsNumber rest) :
    readNumber (writeInt n ++ rest) = some (.integer n, rest) := by
  unfold writeInt
  by_cases hn : n < 0
  · rw [if_pos hn]
    show readUnsigned true (natDigits n.natAbs ++ rest) = _
    rw [readUnsigned_natDigits true _ h]
    unfold ofNumberParts
    dsimp only
    rw [digitsValue_natDigits, if_pos rfl, if_neg (by omega)]
    congr 3
    omega
  · rw [if_neg hn]
    have hsign : readNumber (natDigits n.natAbs ++ rest) =
        readUnsigned false (natDigits n.natAbs ++ rest) := by
      unfold readNumber
      split
      · next r hminus =>
        have hhead := congrArg List.head? hminus
        rw [head?_natDigits_append] at hhead
        exact absurd (isDigit_of_mem_natDigits (List.mem_of_head? hhead)) (by decide)
      · rfl
    rw [hsign, readUnsigned_natDigits false _ h]
    unfold ofNumberParts
    simp only [digitsValue_natDigits, Bool.false_eq_true, if_false]
    congr 3
    omega

/-! ## Decimals -/

lemma Digits.append {ds es : List Char} (hds : Digits ds) (hes : Digits es) : Digits (ds ++ es) :=
  fun c hc => (List.mem_append.1 hc).elim (hds c) (hes c)

lemma Digits.take {ds : List Char} (hds : Digits ds) {n : Nat} : Digits (ds.take n) :=
  fun c hc => hds c (List.mem_of_mem_take hc)

lemma Digits.drop {ds : List Char} (hds : Digits ds) {n : Nat} : Digits (ds.drop n) :=
  fun c hc => hds c (List.mem_of_mem_drop hc)

lemma digits_zeros (n : Nat) : Digits (List.replicate n '0') := by
  intro c hc
  rw [List.eq_of_mem_replicate hc]
  rfl

lemma digits_zero : Digits ['0'] := digits_zeros 1

/-- The digits before a point: some, and a zero in front only if it is the only one. -/
structure Whole (ds : List Char) : Prop where
  digits : Digits ds
  ne_nil : ds ≠ []
  zero : ds.head? = some '0' → ds = ['0']

lemma whole_zero : Whole ['0'] := ⟨digits_zero, by decide, fun _ => rfl⟩

/-- How a decimal is written, its sign left out: with a point, or with an exponent. -/
lemma writeDecimal_cases (digits : Nat) (exponent : Int) :
    (∃ ds fs, Whole ds ∧ Digits fs ∧ fs ≠ [] ∧
      writeDecimal ⟨false, digits, exponent⟩ = ds ++ '.' :: fs) ∨
    (∃ ds fs n, Whole ds ∧ Digits fs ∧
      writeDecimal ⟨false, digits, exponent⟩ =
        ds ++ (if fs = [] then [] else '.' :: fs) ++ writeExponent n) := by
  have hds := digits_natDigits digits
  have hne := natDigits_ne_nil digits
  unfold writeDecimal
  dsimp only
  rw [if_neg Bool.false_ne_true, List.nil_append]
  split
  · exact .inl ⟨['0'], ['0'], whole_zero, digits_zero, by decide, rfl⟩
  next hpos =>
  -- digits that do not begin with a zero are whole, with zeros behind them or cut short
  have hhead := head?_natDigits (Nat.pos_of_ne_zero hpos)
  have hwhole {ds : List Char} (h : Digits ds) (h' : ds ≠ [])
      (hsame : ds.head? = (natDigits digits).head?) : Whole ds :=
    ⟨h, h', fun hzero => absurd (hsame ▸ hzero) hhead⟩
  have htake {n : Nat} (hn : n ≠ 0) : Whole ((natDigits digits).take n) :=
    hwhole hds.take (by rw [Ne, List.take_eq_nil_iff]; exact not_or.2 ⟨hn, hne⟩)
      (by rw [List.head?_take, if_neg hn])
  split
  · exact .inl ⟨_, ['0'], hwhole (hds.append (digits_zeros _))
      (List.append_ne_nil_of_left_ne_nil hne _) (List.head?_append_of_ne_nil _ hne),
      digits_zero, by decide, rfl⟩
  split
  · refine .inl ⟨_, _, htake (by omega), hds.drop, ?_, rfl⟩
    rw [Ne, List.drop_eq_nil_iff]
    omega
  split
  · exact .inl ⟨['0'], _, whole_zero, (digits_zeros _).append hds,
      List.append_ne_nil_of_right_ne_nil _ hne, rfl⟩
  · have hfraction : (if 1 < ((natDigits digits).length : Int) then
        '.' :: (natDigits digits).drop 1 else []) =
        if (natDigits digits).drop 1 = [] then [] else '.' :: (natDigits digits).drop 1 := by
      simp only [List.drop_eq_nil_iff]
      split <;> split <;> first | rfl | omega
    rw [hfraction]
    exact .inr ⟨_, _, _, htake Nat.one_ne_zero, hds.drop, rfl⟩

/-- A fraction is read up to where its digits end. -/
lemma readFraction_point {ds rest : List Char} (hds : Digits ds) (hne : ds ≠ [])
    (hrest : ∀ c ∈ rest.head?, ¬ c.isDigit) :
    readFraction ('.' :: (ds ++ rest)) = some (some ds, rest) := by
  rw [readFraction, readDigits_append hds hne hrest]
  rfl

/-- An exponent is read back. -/
lemma readExponent_writeExponent (n : Int) {rest : List Char} (h : EndsNumber rest) :
    readExponent (writeExponent n ++ rest) = some (some n, rest) := by
  have hdigits := readDigits_append (digits_natDigits n.natAbs) (natDigits_ne_nil _)
    h.head_not_isDigit
  unfold writeExponent
  split
  · rw [List.cons_append, List.cons_append, readExponent, readSignedDigits, hdigits]
    simp only [Option.map_some, digitsValue_natDigits]
    congr 3
    omega
  · rw [List.cons_append, List.cons_append, readExponent, readSignedDigits, hdigits]
    simp only [Option.map_some, digitsValue_natDigits]
    congr 3
    omega

/-- Digits with a fraction or an exponent after them are a decimal. -/
lemma readUnsigned_decimal (negative : Bool) {ds tail rest tail' : List Char}
    {fraction : Option (List Char)} {exponent : Option Int} (hds : Whole ds)
    (htail : ∀ c ∈ tail.head?, ¬ c.isDigit) (hfraction : readFraction tail = some (fraction, tail'))
    (hexponent : readExponent tail' = some (exponent, rest))
    (hsome : fraction.isSome ∨ exponent.isSome) :
    readUnsigned negative (ds ++ tail) =
      some (.decimal (decimalOf negative ds (fraction.getD []) (exponent.getD 0)), rest) := by
  unfold readUnsigned
  rw [readWhole_append hds.digits hds.ne_nil hds.zero htail]
  simp only [Option.bind_eq_bind, Option.bind_some, hfraction, hexponent]
  cases fraction <;> cases exponent <;> simp_all [ofNumberParts]

/-- A decimal without its sign is read as some decimal, whatever follows. -/
lemma readUnsigned_writeDecimal (negative : Bool) (digits : Nat) (exponent : Int) :
    ∃ d, ∀ rest, EndsNumber rest →
      readUnsigned negative (writeDecimal ⟨false, digits, exponent⟩ ++ rest) =
        some (.decimal d, rest) := by
  obtain ⟨ds, fs, hds, hfs, hne, hwrite⟩ | ⟨ds, fs, n, hds, hfs, hwrite⟩ :=
    writeDecimal_cases digits exponent
  · refine ⟨decimalOf negative ds fs 0, fun rest h => ?_⟩
    rw [hwrite, List.append_assoc, List.cons_append]
    exact readUnsigned_decimal negative hds (by rintro _ ⟨rfl⟩; decide)
      (readFraction_point hfs hne h.head_not_isDigit) (readExponent_of_ends h) (Or.inl rfl)
  · refine ⟨decimalOf negative ds fs n, fun rest h => ?_⟩
    have hexponent := readExponent_writeExponent n h
    have hhead : ∀ c ∈ (writeExponent n ++ rest).head?, ¬ c.isDigit := by
      rintro _ ⟨rfl⟩
      decide
    rw [hwrite, List.append_assoc, List.append_assoc]
    split
    · next hnil =>
      subst hnil
      exact readUnsigned_decimal negative hds hhead rfl hexponent (Or.inr rfl)
    · next hne =>
      exact readUnsigned_decimal negative hds (by rintro _ ⟨rfl⟩; decide)
        (readFraction_point hfs hne hhead) hexponent (Or.inl rfl)

lemma Whole.head {ds : List Char} (h : Whole ds) (rest : List Char) :
    ∃ c cs, ds ++ rest = c :: cs ∧ c.isDigit := by
  obtain ⟨c, cs, rfl⟩ := List.exists_cons_of_ne_nil h.ne_nil
  exact ⟨c, cs ++ rest, rfl, h.digits c List.mem_cons_self⟩

/-- A decimal without its sign begins with a digit. -/
lemma exists_writeDecimal_eq_cons (digits : Nat) (exponent : Int) :
    ∃ c cs, writeDecimal ⟨false, digits, exponent⟩ = c :: cs ∧ c.isDigit := by
  obtain ⟨ds, fs, hds, -, -, hwrite⟩ | ⟨ds, fs, n, hds, -, hwrite⟩ :=
    writeDecimal_cases digits exponent
  · exact hwrite ▸ hds.head _
  · rw [hwrite, List.append_assoc]
    exact hds.head _

lemma writeDecimal_negative (digits : Nat) (exponent : Int) :
    writeDecimal ⟨true, digits, exponent⟩ = '-' :: writeDecimal ⟨false, digits, exponent⟩ := rfl

/-- The decimal that is read where one was written: of its digits as many count as fit 64 bits. -/
def rereadDecimal (d : Decimal) : Decimal :=
  match readNumber (writeDecimal d) with
  | some (.decimal d', _) => d'
  | _ => d

/-- A decimal is read as a decimal, the same one whatever follows. -/
lemma readNumber_writeDecimal (d : Decimal) {rest : List Char} (hrest : EndsNumber rest) :
    readNumber (writeDecimal d ++ rest) = some (.decimal (rereadDecimal d), rest) := by
  obtain ⟨d', h⟩ : ∃ d', ∀ rest, EndsNumber rest →
      readNumber (writeDecimal d ++ rest) = some (.decimal d', rest) := by
    obtain ⟨negative, digits, exponent⟩ := d
    obtain ⟨d', h⟩ := readUnsigned_writeDecimal negative digits exponent
    refine ⟨d', fun rest hrest => ?_⟩
    cases negative with
    | true =>
      rw [writeDecimal_negative]
      exact h rest hrest
    | false =>
      obtain ⟨c, cs, hwrite, hc⟩ := exists_writeDecimal_eq_cons digits exponent
      -- a digit is no sign
      rw [← h rest hrest, hwrite]
      unfold readNumber
      split
      · next hminus =>
        obtain ⟨rfl, -⟩ := List.cons.inj hminus
        exact absurd hc (by decide)
      · rfl
  have halone := h [] nofun
  rw [List.append_nil] at halone
  rw [h rest hrest, rereadDecimal, halone]

end Json

end FrontZone
