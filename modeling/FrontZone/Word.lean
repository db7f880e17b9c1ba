/-!
# Machine words

Signals, positions and commands are signed 32-bit words; duties, timers and levels are unsigned
words. Arithmetic on them is carried out in exact integers and brought back by the operations of
this module, each named for what it does at the ends of the type. Every operation has one lemma
that says what it does to the value of the word, so that nothing else has to unfold it.
-/

namespace FrontZone

/-! ## Exact integers -/

/-- The number of `lo..hi` nearest to `n`, for `lo ≤ hi`. -/
def clampInt (lo hi n : Int) : Int :=
  if n < lo then lo else if hi < n then hi else n

theorem le_clampInt {lo hi n : Int} (h : lo ≤ hi) : lo ≤ clampInt lo hi n := by
  unfold clampInt; split <;> (try split) <;> omega

theorem clampInt_le {lo hi n : Int} (h : lo ≤ hi) : clampInt lo hi n ≤ hi := by
  unfold clampInt; split <;> (try split) <;> omega

theorem clampInt_eq_self {lo hi n : Int} (h₁ : lo ≤ n) (h₂ : n ≤ hi) : clampInt lo hi n = n := by
  unfold clampInt; split <;> (try split) <;> omega

/-! ## Signed words -/

/-- The signed 32-bit word nearest to `n`. -/
def saturate (n : Int) : Int32 :=
  Int32.ofInt (clampInt (-2147483648) 2147483647 n)

theorem toInt_ofInt_of_mem {n : Int} (h₁ : -2147483648 ≤ n) (h₂ : n ≤ 2147483647) :
    (Int32.ofInt n).toInt = n :=
  Int32.toInt_ofInt_of_le (by simpa using h₁) (by omega)

theorem toInt_saturate (n : Int) :
    (saturate n).toInt = clampInt (-2147483648) 2147483647 n :=
  toInt_ofInt_of_mem (le_clampInt (by decide)) (clampInt_le (by decide))

/-- The signed 32-bit word that is `n`, if there is one. -/
def word? (n : Int) : Option Int32 :=
  if -2147483648 ≤ n ∧ n ≤ 2147483647 then some (Int32.ofInt n) else none

theorem word?_eq_some_iff {n : Int} {w : Int32} : word? n = some w ↔ w.toInt = n := by
  unfold word?
  have hw := And.intro w.le_toInt w.toInt_lt
  split
  · next h =>
    rw [Option.some_inj]
    refine ⟨fun hn => ?_, fun hn => ?_⟩
    · rw [← hn]
      exact toInt_ofInt_of_mem h.1 h.2
    · rw [← hn]
      exact Int32.ofInt_toInt w
  · next h => exact ⟨fun hn => (nomatch hn), fun hn => absurd (by omega) h⟩

/-- How far apart two words are, as an exact number. -/
def distance (a b : Int32) : Nat :=
  (a.toInt - b.toInt).natAbs

/-! ## Counters -/

/-- The next count of a 16-bit counter that stays at its largest value once there. -/
def countUp16 (n : UInt16) : UInt16 :=
  if n = 65535 then n else n + 1

theorem toNat_countUp16 (n : UInt16) : (countUp16 n).toNat = min 65535 (n.toNat + 1) := by
  unfold countUp16
  have hn := n.toNat_lt
  split
  · next h => subst h; rfl
  · next h =>
    have : n.toNat ≠ 65535 := fun e => h (UInt16.toNat_inj.1 (by simpa using e))
    simp [UInt16.toNat_add]; omega

/-- The next count of a 32-bit counter that stays at its largest value once there. -/
def countUp32 (n : UInt32) : UInt32 :=
  if n = 4294967295 then n else n + 1

theorem toNat_countUp32 (n : UInt32) : (countUp32 n).toNat = min 4294967295 (n.toNat + 1) := by
  unfold countUp32
  have hn := n.toNat_lt
  split
  · next h => subst h; rfl
  · next h =>
    have : n.toNat ≠ 4294967295 := fun e => h (UInt32.toNat_inj.1 (by simpa using e))
    simp [UInt32.toNat_add]; omega

end FrontZone
