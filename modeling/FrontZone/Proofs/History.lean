import FrontZone.Recent
import Mathlib.Data.List.DropRight
import Mathlib.Data.List.Infix
/-!
# Histories

A history lists what happened, oldest first, and grows at its end. A monitor with a counter is read
against it without the counter: `streak` and `repeats` say how long the end of a history has been of
one kind, `le_streak_iff` and `le_repeats_iff` turn a threshold on either into a statement about the
newest entries, and `withPast` pairs each entry with what came before it. `Since` is for what one
entry brings about and a later one may end.
-/

namespace FrontZone

variable {α : Type}

/-! ## The newest entries -/

lemma lastN_concat (n : Nat) (xs : List α) (x : α) :
    lastN (n + 1) (xs ++ [x]) = lastN n xs ++ [x] :=
  List.rtake_concat_succ ..

lemma lastN_zero (xs : List α) : lastN 0 xs = [] :=
  List.rtake_zero ..

/-- A window at least as long as the history holds all of it. -/
lemma lastN_of_length_le {n : Nat} {xs : List α} (h : xs.length ≤ n) : lastN n xs = xs := by
  rw [lastN, Nat.sub_eq_zero_of_le h, List.drop_zero]

/-! ## Streaks -/

/-- How many entries at the end of a history satisfy `p` on end. -/
def streak (p : α → Bool) (xs : List α) : Nat :=
  (xs.rtakeWhile p).length

@[simp] lemma streak_nil (p : α → Bool) : streak p [] = 0 := rfl

lemma streak_concat (p : α → Bool) (xs : List α) (x : α) :
    streak p (xs ++ [x]) = if p x then streak p xs + 1 else 0 := by
  unfold streak
  rw [List.rtakeWhile_concat]
  split
  · rw [List.length_append, List.length_singleton]
  · rfl

/-- A streak is as long as the longest run of newest entries that all satisfy `p`. -/
theorem le_streak_iff {p : α → Bool} {xs : List α} {n : Nat} :
    n ≤ streak p xs ↔ n ≤ xs.length ∧ ∀ x ∈ lastN n xs, p x := by
  induction xs using List.reverseRecOn generalizing n with
  | nil => simp [lastN]
  | append_singleton xs x ih =>
    cases n with
    | zero => simp [lastN_zero]
    | succ n =>
      rw [streak_concat, lastN_concat, List.length_append, List.length_singleton]
      by_cases hx : p x
      · rw [if_pos hx, Nat.add_le_add_iff_right, ih, Nat.add_le_add_iff_right]
        simp [or_imp, forall_and, hx]
      · rw [if_neg hx]
        simp [hx]

/-- A streak of a kind that the newest entry is not of is over. -/
lemma streak_eq_zero_of_getLast? {p : α → Bool} {xs : List α}
    (h : ∀ x, xs.getLast? = some x → p x = false) : streak p xs = 0 := by
  induction xs using List.reverseRecOn with
  | nil => rfl
  | append_singleton xs x _ =>
    have hx : p x = false := h x List.getLast?_concat
    rw [streak_concat, hx]
    rfl

/-- Among the newest `n` entries is one of a kind exactly if there is one at all and the streak of
the others is shorter than `n`. -/
theorem exists_mem_lastN_iff {p : α → Bool} {xs : List α} {n : Nat} :
    (∃ x ∈ lastN n xs, p x) ↔ (∃ x ∈ xs, p x) ∧ streak (fun x => !p x) xs < n := by
  induction xs using List.reverseRecOn generalizing n with
  | nil => simp [lastN]
  | append_singleton xs x ih =>
    cases n with
    | zero => simp [lastN_zero]
    | succ n =>
      rw [lastN_concat, streak_concat]
      by_cases hx : p x
      · simp [hx]
      · simp [hx, ih]

/-! ## Repetitions -/

section Repeats
variable [DecidableEq α]

/-- How many entries at the end of a history are the same. -/
def repeats (xs : List α) : Nat :=
  match xs.getLast? with
  | none => 0
  | some k => streak (fun x => decide (x = k)) xs

@[simp] lemma repeats_nil : repeats ([] : List α) = 0 := rfl

lemma repeats_concat (xs : List α) (x : α) :
    repeats (xs ++ [x]) = if xs.getLast? = some x then repeats xs + 1 else 1 := by
  -- what has to be counted before `x` are the entries equal to it, however many there are
  have hlast : repeats (xs ++ [x]) = streak (fun y => decide (y = x)) xs + 1 := by
    rw [repeats, List.getLast?_concat]
    simp [streak_concat]
  rw [hlast]
  split
  · next h => rw [repeats, h]
  · next h =>
    rw [streak_eq_zero_of_getLast? fun y hy => ?_]
    exact decide_eq_false fun e => h (e ▸ hy)

/-- So many newest entries exist and are all the same. -/
theorem le_repeats_iff {xs : List α} {n : Nat} (hn : 0 < n) :
    n ≤ repeats xs ↔ n ≤ xs.length ∧ ∀ x ∈ lastN n xs, ∀ y ∈ lastN n xs, x = y := by
  induction xs using List.reverseRecOn with
  | nil => simp [lastN]
  | append_singleton xs k _ =>
    have hrep : repeats (xs ++ [k]) = streak (fun x => decide (x = k)) (xs ++ [k]) := by
      rw [repeats, List.getLast?_concat]
    -- the newest entry is among those compared, as there is at least one
    have hk : k ∈ lastN n (xs ++ [k]) := by
      obtain ⟨m, rfl⟩ := Nat.exists_eq_add_of_lt hn
      rw [Nat.zero_add, lastN_concat]
      exact List.mem_append_right _ List.mem_cons_self
    rw [hrep, le_streak_iff]
    simp only [decide_eq_true_eq]
    refine and_congr_right fun _ => ⟨fun h x hx y hy => ?_, fun h x hx => h x hx k hk⟩
    rw [h x hx, h y hy]

end Repeats

/-! ## Entries with their past -/

/-- Each entry of a history, with the entries before it. -/
def withPast (xs : List α) : List (List α × α) :=
  xs.inits.zip xs

/-- The entries before the last: all proper beginnings, then the history itself. -/
private lemma inits_eq_concat (xs : List α) :
    ∃ ys : List (List α), ys.length = xs.length ∧ xs.inits = ys ++ [xs] := by
  induction xs using List.reverseRecOn with
  | nil => exact ⟨[], rfl, rfl⟩
  | append_singleton xs x _ =>
    refine ⟨xs.inits, ?_, ?_⟩
    · rw [List.length_inits, List.length_append, List.length_singleton]
    · rw [List.inits_append]
      rfl

@[simp] lemma withPast_nil : withPast ([] : List α) = [] := rfl

theorem withPast_concat (xs : List α) (x : α) :
    withPast (xs ++ [x]) = withPast xs ++ [(xs, x)] := by
  obtain ⟨ys, hlen, hys⟩ := inits_eq_concat xs
  have hall : (xs ++ [x]).inits = ys ++ [xs, xs ++ [x]] := by
    rw [List.inits_append, hys]
    simp
  rw [withPast, withPast, hall, hys, List.zip_append hlen]
  -- the last beginning is one too many for the entries and falls off
  have hxs : (ys ++ [xs]).zip xs = ys.zip xs := by
    conv_lhs => rw [← List.append_nil xs, List.zip_append hlen]
    simp
  rw [hxs]
  rfl

/-- What a history shows, one entry after the other, grows with it. -/
lemma filterMap_withPast_concat {β : Type} (f : List α × α → Option β) (xs : List α) (x : α) :
    (withPast (xs ++ [x])).filterMap f = (withPast xs).filterMap f ++ (f (xs, x)).toList := by
  rw [withPast_concat, List.filterMap_append]
  cases hf : f (xs, x) <;> simp [hf]

/-! ## What has held since -/

section Since

variable {P : List α → α → Prop} {Q : List α → Prop} {xs : List α}

/-- Whether some entry of a history was such that `P` with its past, and `Q` has held from then on.
-/
def Since (P : List α → α → Prop) (Q : List α → Prop) (xs : List α) : Prop :=
  ∃ past x later, xs = past ++ x :: later ∧ P past x ∧ ∀ mid, mid <+: later → Q (past ++ x :: mid)

lemma not_since_nil : ¬ Since P Q [] := by
  rintro ⟨past, x, later, h, -⟩
  exact absurd h (by simp)

lemma Since.now (h : Since P Q xs) : Q xs := by
  obtain ⟨past, x, later, rfl, -, hsince⟩ := h
  exact hsince later (List.prefix_refl later)

theorem since_concat {x : α} :
    Since P Q (xs ++ [x]) ↔ (P xs x ∨ Since P Q xs) ∧ Q (xs ++ [x]) := by
  constructor
  · intro h
    refine ⟨?_, h.now⟩
    obtain ⟨past, y, later, heq, hmark, hsince⟩ := h
    -- either the entry is the last one or it has one after it to drop
    rcases List.eq_nil_or_concat later with rfl | ⟨later, z, rfl⟩
    · obtain ⟨rfl, hx⟩ := List.append_inj' heq rfl
      injection hx with hx
      exact Or.inl (hx ▸ hmark)
    · rw [List.concat_eq_append] at heq hsince
      rw [← List.cons_append, ← List.append_assoc] at heq
      obtain ⟨hxs, -⟩ := List.append_inj' heq rfl
      refine Or.inr ⟨past, y, later, hxs, hmark, fun mid hmid => hsince mid ?_⟩
      exact hmid.trans (List.prefix_append later [z])
  · rintro ⟨hmark | ⟨past, y, later, rfl, hmark, hsince⟩, hnow⟩
    · refine ⟨xs, x, [], rfl, hmark, fun mid hmid => ?_⟩
      rw [List.prefix_nil.mp hmid]
      exact hnow
    · refine ⟨past, y, later ++ [x], by simp, hmark, fun mid hmid => ?_⟩
      rcases List.prefix_concat_iff.mp hmid with rfl | hmid
      · rwa [List.append_assoc, List.cons_append] at hnow
      · exact hsince mid hmid

end Since

end FrontZone
