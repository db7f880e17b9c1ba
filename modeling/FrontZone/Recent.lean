/-!
# Bounded histories

Several records of the zone keep only the newest entries: line writes, bus frames, diagnostic
reports, replies. Each is a plain list, oldest first, extended by `pushRecent`; the main statement
is that such a list is always the tail of everything that was ever pushed.
-/

namespace FrontZone

/-- The last `n` elements of a list. -/
def lastN {α : Type} (n : Nat) (xs : List α) : List α :=
  xs.drop (xs.length - n)

/-- Adds `x` as the newest entry of a history of at most `capacity` entries, dropping the oldest. -/
def pushRecent {α : Type} (capacity : Nat) (xs : List α) (x : α) : List α :=
  lastN capacity (xs ++ [x])

theorem pushRecent_lastN {α : Type} (n : Nat) (xs : List α) (x : α) :
    pushRecent n (lastN n xs) x = lastN n (xs ++ [x]) := by
  unfold pushRecent lastN
  rcases Nat.le_total xs.length n with h | h
  · simp [Nat.sub_eq_zero_of_le h]
  · have h₁ : xs.length - n ≤ xs.length := Nat.sub_le ..
    cases n with
    | zero => simp
    | succ n =>
      rw [List.drop_append_of_le_length (by simp),
        List.drop_append_of_le_length (by simp), List.drop_drop]
      congr 2
      simp; omega

/-- A history that was filled one entry at a time holds the newest of all entries. -/
theorem foldl_pushRecent {α : Type} (n : Nat) (xs ys : List α) :
    ys.foldl (pushRecent n) (lastN n xs) = lastN n (xs ++ ys) := by
  induction ys generalizing xs with
  | nil => simp
  | cons y ys ih => rw [List.foldl_cons, pushRecent_lastN, ih]; simp

end FrontZone
