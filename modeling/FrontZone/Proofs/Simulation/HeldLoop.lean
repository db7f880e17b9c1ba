import FrontZone.Proofs.Simulation.SteeringLoop
/-!
# The steering loop with held commands

A driver that is frozen repeats its last command. From the tenth repetition on the governor leaves
it and walks back to the middle, and the servo follows the governor away from the command. Once the
driver is released the two come back no faster than the ramp took them away, so a driver that is
frozen time and again may leave position and command ever farther apart. `Holds` says how far that
goes if beyond five degrees no command is given more than 17 times on end, and `holds_next` that it
goes no farther; `allowance_next` bounds the cycles that find sensor and command apart. Numbers are
exact, in tenths of a degree but for the driver's.
-/

namespace FrontZone
namespace HeldLoop

open SteeringLoop (Moves commandAt commandAt_of_pos commandAt_of_neg commandAt_zero)

/-! ## One cycle -/

/-- One step of the ramp to the middle. -/
def ramped (p : Int) : Int :=
  if 0 < p then max (p - 3) 0 else min (p + 3) 0

/-- A cycle with command `c`, given for the `n`-th time on end: the governor moves from `p` to `p'`,
toward the command or, from the tenth time on, down the ramp, and the servo after it from `a` to
`a'`. -/
def Cycle (c : Int) (n : Nat) (p a p' a' : Int) : Prop :=
  Moves (if 10 ≤ n then ramped p else c) p a p' a'

section Cycle
variable {c p a p' a' : Int} {n : Nat}

lemma Cycle.neg (h : Cycle c n p a p' a') : Cycle (-c) n (-p) (-a) (-p') (-a') := by
  have hramped : ramped (-p) = -ramped p := by
    unfold ramped
    split <;> split <;> omega
  have hmoves := Moves.neg h
  unfold Cycle
  rw [hramped]
  split at hmoves
  · next hstale => rwa [if_pos hstale]
  · next hfresh => rwa [if_neg hfresh]

/-- On the right the governor follows the command by three, or the ramp to the middle. -/
lemma Cycle.position_eq (h : Cycle c n p a p' a') (hp : 0 ≤ p) (hc : 0 ≤ c) :
    p' = if 10 ≤ n then max (p - 3) 0 else min c (p + 3) := by
  unfold Cycle at h
  split at h
  · next hstale =>
    have hramped : ramped p = max (p - 3) 0 := by
      unfold ramped
      split <;> omega
    rw [hramped] at h
    rw [if_pos hstale, (h.of_nonneg hp (by omega)).1]
    omega
  · next hfresh =>
    rw [if_neg hfresh]
    exact (h.of_nonneg hp hc).1

/-- From the left toward a command on the right it jumps if the command is no farther out than the
position. -/
lemma Cycle.position_of_neg (h : Cycle c n p a p' a') (hp : p < 0) (hc : 0 ≤ c) :
    p' = if 10 ≤ n then min (p + 3) 0 else if c ≤ -p then c else p + 3 := by
  have hposition := Moves.position_eq h
  unfold slewLimited clampInt ramped at hposition
  omega

/-- The servo comes no nearer to the governor than its rate allows, and does not pass it. -/
lemma Cycle.servo (h : Cycle c n p a p' a') :
    min (a + 3) (min 0 p') ≤ a' ∧ a' ≤ max (a - 3) (max 0 p') ∧
      (0 ≤ p' → min (a + 3) (p' - 1) ≤ a') := by
  obtain ⟨-, asked, hup, hdown, rfl⟩ := h
  unfold clampInt
  split <;> [skip; split] <;> omega

/-- On the right the position stays between the middle and the command, if it was short of a
command that is stale by now. -/
lemma Cycle.right (h : Cycle c n p a p' a') (hp : 0 ≤ p) (hc : 0 ≤ c) (hstale : 10 ≤ n → p ≤ c) :
    0 ≤ p' ∧ p' ≤ c ∧ p' ≤ p + 3 ∧ (n < 10 → p' = min c (p + 3)) ∧ (10 ≤ n → p - 3 ≤ p') := by
  have hposition := h.position_eq hp hc
  split at hposition <;> omega

end Cycle

/-! ## Where the loop can be -/

/-- The phase and the driver's value from one cycle to the next: both stay where the driver is
frozen, and only from the last phase to the first the value moves, by a degree at most. -/
inductive Turn : Nat → Int → Nat → Int → Prop
  | hold {k : Nat} {v : Int} : Turn k v k v
  | next {k : Nat} {v : Int} : k < 3 → Turn k v (k + 1) v
  | move {v v' : Int} : v - 1 ≤ v' → v' ≤ v + 1 → Turn 3 v 0 v'

lemma Turn.neg {k k' : Nat} {v v' : Int} (h : Turn k v k' v') : Turn k (-v) k' (-v') := by
  cases h with
  | hold => exact .hold
  | next hlast => exact .next hlast
  | move hback hout => exact .move (by omega) (by omega)

/-- How far the servo may still be ahead of the driver's value in a phase, from when the value was a
degree farther out. -/
def ahead (k : Nat) : Int :=
  if k = 0 then 8 else if k = 1 then 5 else if k = 2 then 2 else 1

/-- Where position and servo are to a driver's value to the right that has been commanded `n` times
on end. The command is never passed, and the servo is not left behind; beyond five degrees the
position trails by an amount that falls as long as the command is followed and grows again on the
ramp. -/
structure Trails (k : Nat) (v : Int) (n : Nat) (p a : Int) : Prop where
  le_command : p ≤ commandAt k v
  /-- Only where the value has just come from the left is the position still there. -/
  nonneg : 0 ≤ p ∨ v = 1 ∧ k = 0 ∧ -6 ≤ p
  servo_le : a ≤ 10 * v + ahead k
  le_servo : 2 ≤ v → p - 1 ≤ a
  le_servo_of_one : v = 1 → -ahead k ≤ a
  given_mem : 6 ≤ v → 1 ≤ n ∧ n ≤ 17
  followed : 6 ≤ v → n ≤ 9 → 10 * v - p ≤ 60 - 3 * k - 3 * n
  ramped : 6 ≤ v → 9 ≤ n → 10 * v - p ≤ 6 - 3 * k + 3 * n

/-- Where position and servo are while the driver's value is zero. -/
structure Rests (k : Nat) (p a : Int) : Prop where
  nonneg : 0 ≤ p
  le_command : p ≤ commandAt k 0
  le_servo : -ahead k ≤ a
  servo_le : a ≤ 10

/-- Where position and servo are to a driver's value in a phase. -/
structure Holds (k : Nat) (v : Int) (n : Nat) (p a : Int) : Prop where
  right : 0 < v → Trails k v n p a
  left : v < 0 → Trails k (-v) n (-p) (-a)
  middle : v = 0 → Rests k p a

section Right
variable {k n : Nat} {v v' p a p' a' : Int}

lemma ahead_pos (k : Nat) : 0 < ahead k := by
  unfold ahead
  omega

/-- While the driver is frozen. -/
lemma trails_hold (hk : k < 4) (hv : 0 < v) (h : Trails k v n p a) (hle : v ≤ 5 ∨ n + 1 ≤ 17)
    (hcycle : Cycle (commandAt k v) (n + 1) p a p' a') : Trails k v (n + 1) p' a' := by
  have hahead := ahead_pos k
  obtain ⟨hlow, hhigh, hclose⟩ := hcycle.servo
  have hc := commandAt_of_pos (n := k) hv
  rcases Int.lt_or_le p 0 with hneg | hp
  · obtain ⟨rfl, rfl, hback⟩ := h.nonneg.resolve_left (by omega)
    have hposition := hcycle.position_of_neg hneg (by omega)
    have hservo := h.le_servo_of_one rfl
    have hservo' := h.servo_le
    have hzero : ahead 0 = 8 := rfl
    rw [if_neg (show ¬ commandAt 0 1 ≤ -p by omega)] at hposition
    have hmove : p' ≤ 2 ∧ p' ≤ p + 3 ∧ -3 ≤ p' := by split at hposition <;> omega
    clear hposition
    exact ⟨by omega, by omega, by omega, by omega, by omega, by omega, by omega, by omega⟩
  · obtain ⟨hnonneg, hshort, hstep, hfresh, hstale⟩ :=
      hcycle.right hp (by omega) (fun _ => h.le_command)
    refine ⟨hshort, Or.inl hnonneg, ?_, fun hfar => ?_, fun hnear => ?_, fun hfar => ?_,
      fun hfar hn => ?_, fun hfar hn => ?_⟩
    · have habove := h.servo_le
      omega
    · have hbelow := h.le_servo hfar
      omega
    · have hbelow := h.le_servo_of_one hnear
      omega
    · omega
    · have hbefore := h.followed hfar (by omega)
      have hmove := hfresh (by omega)
      omega
    · have hgiven := h.given_mem hfar
      rcases Nat.lt_or_ge n 9 with hlt | hge
      · have hbefore := h.followed hfar (by omega)
        have hmove := hfresh (by omega)
        omega
      · have hbefore := h.ramped hfar hge
        have hmove := hstale (by omega)
        omega

/-- When the driver is in its next phase, with a command of its own. -/
lemma trails_next (hk : k < 3) (hv : 0 < v) (h : Trails k v n p a)
    (hcycle : Cycle (commandAt (k + 1) v) 1 p a p' a') : Trails (k + 1) v 1 p' a' := by
  have hahead : ahead (k + 1) = ahead k - 3 ∨ k = 2 ∧ ahead k = 2 ∧ ahead (k + 1) = 1 := by
    unfold ahead
    omega
  have hpos := ahead_pos (k + 1)
  obtain ⟨hlow, hhigh, hclose⟩ := hcycle.servo
  have hc := commandAt_of_pos (n := k) hv
  have hc' := commandAt_of_pos (n := k + 1) hv
  have habove := h.servo_le
  rcases Int.lt_or_le p 0 with hneg | hp
  -- what was left of the position on the left is gone at once
  · obtain ⟨rfl, rfl, hback⟩ := h.nonneg.resolve_left (by omega)
    have hposition := hcycle.position_of_neg hneg (by omega)
    have hbelow := h.le_servo_of_one rfl
    rw [if_neg (by omega), if_pos (by omega)] at hposition
    exact ⟨by omega, by omega, by omega, by omega, by omega, by omega, by omega, by omega⟩
  · obtain ⟨hnonneg, hshort, hstep, hfresh, -⟩ := hcycle.right hp (by omega) (by omega)
    have hmove := hfresh (by omega)
    refine ⟨hshort, Or.inl hnonneg, ?_, fun hfar => ?_, fun hnear => ?_, fun hfar => ?_,
      fun hfar hn => ?_, fun hfar hn => ?_⟩
    · omega
    · have hbelow := h.le_servo hfar
      omega
    · have hbelow := h.le_servo_of_one hnear
      omega
    · omega
    · have hgiven := h.given_mem hfar
      rcases Nat.lt_or_ge n 9 with hlt | hge
      · have hbefore := h.followed hfar (by omega)
        omega
      · have hbefore := h.ramped hfar hge
        omega
    · omega

/-- In the last phase nothing of a position on the left is left, nor is the servo behind. -/
lemma trails_last (hv : 0 < v) (h : Trails 3 v n p a) :
    0 ≤ p ∧ p ≤ 10 * v - 10 ∧ p - 1 ≤ a ∧ a ≤ 10 * v + 1 := by
  have hthree : ahead 3 = 1 := rfl
  have hcommand := h.le_command
  rw [commandAt_of_pos hv, if_pos rfl] at hcommand
  have hp : 0 ≤ p := h.nonneg.resolve_right (by omega)
  have habove := h.servo_le
  rcases Int.lt_or_le v 2 with hnear | hfar
  · have hbelow := h.le_servo_of_one (by omega)
    omega
  · have hbelow := h.le_servo hfar
    omega

/-- Beyond five degrees the position trails by less than six, and by less than five and a half but
where the driver's value has just moved. -/
lemma Trails.lag_le (hfar : 6 ≤ v) (h : Trails k v n p a) :
    10 * v - p ≤ 57 - 3 * k ∧ (2 ≤ n → n ≤ 16 → 10 * v - p ≤ 54 - 3 * k) := by
  have hgiven := h.given_mem hfar
  rcases Nat.lt_or_ge n 9 with hlt | hge
  · have hbefore := h.followed hfar (by omega)
    omega
  · have hbefore := h.ramped hfar hge
    omega

/-- When the driver's value moves outward or not at all, so that the command is new. -/
lemma trails_out (hv : 0 < v) (hstep : v ≤ v' ∧ v' ≤ v + 1) (h : Trails 3 v n p a)
    (hcycle : Cycle (commandAt 0 v') 1 p a p' a') : Trails 0 v' 1 p' a' := by
  have hzero : ahead 0 = 8 := rfl
  obtain ⟨hp, hcommand, hbelow, habove⟩ := trails_last hv h
  obtain ⟨hlow, hhigh, hclose⟩ := hcycle.servo
  have hc' := commandAt_of_pos (n := 0) (show 0 < v' by omega)
  obtain ⟨hnonneg, hshort, hstep, hfresh, -⟩ := hcycle.right hp (by omega) (by omega)
  have hmove := hfresh (by omega)
  refine ⟨hshort, Or.inl hnonneg, ?_, ?_, ?_, ?_, fun hfar _ => ?_, ?_⟩
  · omega
  · omega
  · omega
  · omega
  · rcases Int.lt_or_le v 6 with hnear | hfar'
    · omega
    · obtain ⟨hlag, -⟩ := h.lag_le hfar'
      omega
  · omega

/-- When the driver's value moves back, which leaves the command as it was. -/
lemma trails_back (hv : 1 < v) (h : Trails 3 v n p a) (hle : v - 1 ≤ 5 ∨ n + 1 ≤ 17)
    (hcycle : Cycle (commandAt 0 (v - 1)) (n + 1) p a p' a') : Trails 0 (v - 1) (n + 1) p' a' := by
  have hzero : ahead 0 = 8 := rfl
  obtain ⟨hp, hcommand, hbelow, habove⟩ := trails_last (by omega) h
  obtain ⟨hlow, hhigh, hclose⟩ := hcycle.servo
  have hc' := commandAt_of_pos (n := 0) (show 0 < v - 1 by omega)
  obtain ⟨hnonneg, hshort, hstep, hfresh, hstale⟩ := hcycle.right hp (by omega) (by omega)
  refine ⟨hshort, Or.inl hnonneg, ?_, ?_, ?_, ?_, fun hfar hn => ?_, fun hfar hn => ?_⟩
  · omega
  · omega
  · omega
  · omega
  · have hbefore := h.followed (by omega) (by omega)
    have hmove := hfresh (by omega)
    omega
  · rcases Nat.lt_or_ge n 9 with hlt | hge
    · have hbefore := h.followed (by omega) (by omega)
      have hmove := hfresh (by omega)
      omega
    · have hbefore := h.ramped (by omega) hge
      have hmove := hstale (by omega)
      omega

/-- When the driver's value comes to zero from the right. -/
lemma rests_stop (h : Trails 3 1 n p a) (hcycle : Cycle (commandAt 0 0) (n + 1) p a p' a') :
    p' = 0 ∧ -ahead 0 ≤ a' ∧ a' ≤ ahead 0 := by
  have hzero : ahead 0 = 8 := rfl
  obtain ⟨hp, hcommand, hbelow, habove⟩ := trails_last (by omega) h
  obtain ⟨hlow, hhigh, hclose⟩ := hcycle.servo
  have hc' : commandAt 0 0 = 0 := commandAt_zero
  obtain ⟨hnonneg, hshort, -⟩ := hcycle.right hp (by omega) (by omega)
  omega

end Right

section Middle
variable {k n : Nat} {p a p' a' : Int}

/-- While the driver's value is zero, frozen or not. -/
lemma rests_next {k' n' : Nat} (hphase : k' = k ∨ k < 3 ∧ k' = k + 1 ∨ k = 3 ∧ k' = 0)
    (h : Rests k p a) (hcycle : Cycle (commandAt k' 0) n' p a p' a')
    (hsame : 10 ≤ n' → commandAt k' 0 = commandAt k 0) : Rests k' p' a' := by
  have hahead : ahead k' = ahead k ∨ ahead k - 3 ≤ ahead k' := by
    unfold ahead
    omega
  have hpos := ahead_pos k'
  obtain ⟨hp, hcommand, hbelow, habove⟩ := h
  obtain ⟨hlow, hhigh, -⟩ := hcycle.servo
  have hc' : 0 ≤ commandAt k' 0 ∧ commandAt k' 0 ≤ 10 := by
    rw [commandAt_zero]
    split <;> omega
  obtain ⟨hnonneg, hshort, -⟩ := hcycle.right hp hc'.1 (fun hn => by rwa [hsame hn])
  exact ⟨hnonneg, hshort, by omega, by omega⟩

/-- When the driver's value leaves zero to the right, which leaves the command as it was. -/
lemma trails_start (h : Rests 3 p a) (hcycle : Cycle (commandAt 0 1) (n + 1) p a p' a') :
    Trails 0 1 (n + 1) p' a' := by
  have hzero : ahead 0 = 8 := rfl
  have hthree : ahead 3 = 1 := rfl
  obtain ⟨hp, hcommand, hbelow, habove⟩ := h
  obtain ⟨hlow, hhigh, -⟩ := hcycle.servo
  have hc : commandAt 3 0 = 10 := commandAt_zero
  have hc' : commandAt 0 1 = 10 := commandAt_of_pos (by omega)
  obtain ⟨hnonneg, hshort, -⟩ := hcycle.right hp (by omega) (by omega)
  exact ⟨hshort, Or.inl hnonneg, by omega, by omega, by omega, by omega, by omega, by omega⟩

/-- When the driver's value leaves zero to the left, against the last nudge. -/
lemma trails_start_left (h : Rests 3 p a) (hcycle : Cycle (commandAt 0 (-1)) 1 p a p' a') :
    Trails 0 1 1 (-p') (-a') := by
  have hzero : ahead 0 = 8 := rfl
  have hthree : ahead 3 = 1 := rfl
  obtain ⟨hp, hcommand, hbelow, habove⟩ := h
  have hc : commandAt 3 0 = 10 := commandAt_zero
  have hc' : commandAt 0 1 = 10 := commandAt_of_pos (by omega)
  have hmirrored : Cycle 10 1 (-p) (-a) (-p') (-a') := by
    rw [show commandAt 0 (-1) = -10 from commandAt_of_neg (by omega)] at hcycle
    exact hcycle.neg
  obtain ⟨hlow, hhigh, -⟩ := hmirrored.servo
  have hposition : -6 ≤ -p' ∧ -p' ≤ 10 := by
    rcases Int.lt_or_le 0 p with hright | hleft
    · have hposition := hmirrored.position_of_neg (by omega) (by omega)
      rw [if_neg (by omega)] at hposition
      split at hposition <;> omega
    · have hmove := hmirrored.position_eq (by omega) (by omega)
      rw [if_neg (by omega)] at hmove
      omega
  exact ⟨by omega, Or.inr ⟨rfl, rfl, hposition.1⟩, by omega, by omega, by omega, by omega, by omega,
    by omega⟩

end Middle

/-! ## From one cycle to the next -/

section Next
variable {k k' n n' : Nat} {v v' p a p' a' : Int}

lemma holds_of_pos (hv : 0 < v) (h : Trails k v n p a) : Holds k v n p a :=
  ⟨fun _ => h, fun hneg => absurd hv (by omega), fun hzero => absurd hv (by omega)⟩

lemma holds_of_neg (hv : v < 0) (h : Trails k (-v) n (-p) (-a)) : Holds k v n p a :=
  ⟨fun hpos => absurd hv (by omega), fun _ => h, fun hzero => absurd hv (by omega)⟩

lemma holds_zero (h : Rests k p a) : Holds k 0 n p a :=
  ⟨fun hpos => absurd hpos (by omega), fun hneg => absurd hneg (by omega), fun _ => h⟩

/-- Away from zero the commands to the left mirror those to the right. -/
lemma commandAt_neg (hv : v ≠ 0) : commandAt k (-v) = -commandAt k v := by
  rcases Int.lt_or_lt_of_ne hv with hneg | hpos
  · rw [commandAt_of_neg hneg, commandAt_of_pos (by omega), Int.neg_neg]
  · rw [commandAt_of_neg (by omega), commandAt_of_pos hpos, Int.neg_neg]

/-- The mirrored cycle. -/
lemma Cycle.mirror (h : Cycle (commandAt k v) n p a p' a') (hv : v ≠ 0) :
    Cycle (commandAt k (-v)) n (-p) (-a) (-p') (-a') :=
  commandAt_neg hv ▸ h.neg

lemma holds_hold (hk : k < 4) (h : Holds k v n p a) (hle : v.natAbs ≤ 5 ∨ n + 1 ≤ 17)
    (hcycle : Cycle (commandAt k v) (n + 1) p a p' a') : Holds k v (n + 1) p' a' := by
  rcases lt_trichotomy v 0 with hneg | rfl | hpos
  · exact holds_of_neg hneg
      (trails_hold hk (by omega) (h.left hneg) (by omega) (hcycle.mirror (by omega)))
  · exact holds_zero (rests_next (Or.inl rfl) (h.middle rfl) hcycle fun _ => rfl)
  · exact holds_of_pos hpos (trails_hold hk hpos (h.right hpos) (by omega) hcycle)

lemma holds_phase (hk : k < 3) (h : Holds k v n p a)
    (hcycle : Cycle (commandAt (k + 1) v) 1 p a p' a') : Holds (k + 1) v 1 p' a' := by
  rcases lt_trichotomy v 0 with hneg | rfl | hpos
  · exact holds_of_neg hneg
      (trails_next hk (by omega) (h.left hneg) (hcycle.mirror (by omega)))
  · exact holds_zero (rests_next (Or.inr (Or.inl ⟨hk, rfl⟩)) (h.middle rfl) hcycle (by omega))
  · exact holds_of_pos hpos (trails_next hk hpos (h.right hpos) hcycle)

lemma commandAt_first (v : Int) : commandAt 0 v = 10 * v := rfl

/-- When the driver's value was to the right and may move, by a degree at most. -/
lemma trails_move (hv : 0 < v) (hstep : v - 1 ≤ v' ∧ v' ≤ v + 1) (h : Trails 3 v n p a)
    (hn : n' = if commandAt 0 v' = commandAt 3 v then n + 1 else 1)
    (hle : v'.natAbs ≤ 5 ∨ n' ≤ 17) (hcycle : Cycle (commandAt 0 v') n' p a p' a') :
    (0 < v' ∧ Trails 0 v' n' p' a') ∨ v' = 0 ∧ p' = 0 ∧ -ahead 0 ≤ a' ∧ a' ≤ ahead 0 := by
  have hc : commandAt 3 v = 10 * v - 10 := commandAt_of_pos hv
  have hc' := commandAt_first v'
  rcases Int.lt_or_le v' v with hback | hout
  · obtain rfl : v' = v - 1 := by omega
    obtain rfl : n' = n + 1 := by rw [hn, if_pos (by omega)]
    rcases Int.lt_or_eq_of_le (show 0 ≤ v - 1 by omega) with hpos | hzero
    · exact Or.inl ⟨hpos, trails_back (by omega) h (by omega) hcycle⟩
    · obtain rfl : v = 1 := by omega
      exact Or.inr ⟨rfl, rests_stop h hcycle⟩
  · obtain rfl : n' = 1 := by rw [hn, if_neg (by omega)]
    exact Or.inl ⟨by omega, trails_out hv ⟨hout, hstep.2⟩ h hcycle⟩

/-- When the driver's value may move. -/
lemma holds_move (hstep : v - 1 ≤ v' ∧ v' ≤ v + 1) (h : Holds 3 v n p a)
    (hn : n' = if commandAt 0 v' = commandAt 3 v then n + 1 else 1)
    (hle : v'.natAbs ≤ 5 ∨ n' ≤ 17) (hcycle : Cycle (commandAt 0 v') n' p a p' a') :
    Holds 0 v' n' p' a' := by
  have hahead : ahead 0 = 8 := rfl
  have hc' := commandAt_first v'
  have hmirror := commandAt_first (-v')
  rcases lt_trichotomy v 0 with hneg | rfl | hpos
  · have hcm : commandAt 3 (-v) = -commandAt 3 v := commandAt_neg (by omega)
    have hmirrored : Cycle (commandAt 0 (-v')) n' (-p) (-a) (-p') (-a') := by
      rw [show commandAt 0 (-v') = -commandAt 0 v' by omega]
      exact hcycle.neg
    have hn' : n' = if commandAt 0 (-v') = commandAt 3 (-v) then n + 1 else 1 := by
      rw [hn]
      exact if_congr (by omega) rfl rfl
    rcases trails_move (by omega) (by omega) (h.left hneg) hn' (by omega) hmirrored with
      ⟨hleft, htrails⟩ | ⟨hzero, hrest⟩
    · exact holds_of_neg (by omega) htrails
    · obtain rfl : v' = 0 := by omega
      exact holds_zero ⟨by omega, by omega, by omega, by omega⟩
  · have hc : commandAt 3 0 = 10 := commandAt_zero
    rcases lt_trichotomy v' 0 with hneg' | rfl | hpos'
    · obtain rfl : v' = -1 := by omega
      obtain rfl : n' = 1 := by rw [hn, if_neg (by omega)]
      exact holds_of_neg hneg' (trails_start_left (h.middle rfl) hcycle)
    · obtain rfl : n' = 1 := by rw [hn, if_neg (by omega)]
      exact holds_zero (rests_next (Or.inr (Or.inr ⟨rfl, rfl⟩)) (h.middle rfl) hcycle (by omega))
    · obtain rfl : v' = 1 := by omega
      obtain rfl : n' = n + 1 := by rw [hn, if_pos (by omega)]
      exact holds_of_pos hpos' (trails_start (h.middle rfl) hcycle)
  · rcases trails_move hpos hstep (h.right hpos) hn hle hcycle with ⟨hright, htrails⟩ | ⟨rfl, hrest⟩
    · exact holds_of_pos hright htrails
    · exact holds_zero ⟨by omega, by omega, by omega, by omega⟩

/-- One cycle keeps the loop where it can be, as long as no command beyond five degrees is given
more than 17 times on end. -/
theorem holds_next (hk : k < 4) (hturn : Turn k v k' v') (h : Holds k v n p a)
    (hn : n' = if commandAt k' v' = commandAt k v then n + 1 else 1)
    (hle : v'.natAbs ≤ 5 ∨ n' ≤ 17) (hcycle : Cycle (commandAt k' v') n' p a p' a') :
    Holds k' v' n' p' a' := by
  cases hturn with
  | hold =>
    obtain rfl : n' = n + 1 := by rw [hn, if_pos rfl]
    exact holds_hold hk h hle hcycle
  | next hlast =>
    obtain rfl : n' = 1 := by rw [hn, if_neg (SteeringLoop.commandAt_next_ne hlast).symm]
    exact holds_phase hlast h hcycle
  | move hlow hhigh => exact holds_move ⟨hlow, hhigh⟩ h hn hle hcycle

end Next

/-! ## Where sensor and command are apart -/

/-- `m` is what the sensor reads at `a`: the nearest degree, halves away from zero. -/
structure Reads (a m : Int) : Prop where
  of_nonneg : 0 ≤ a → a - 4 ≤ 10 * m ∧ 10 * m ≤ a + 5
  of_nonpos : a ≤ 0 → a - 5 ≤ 10 * m ∧ 10 * m ≤ a + 4

/-- For how many cycles on end sensor and command may have been apart. -/
def allowance (k n : Nat) : Nat :=
  if k = 0 ∧ n ≤ 2 then n else 0

lemma allowance_le (k n : Nat) : allowance k n ≤ 2 := by
  unfold allowance
  split <;> omega

section Apart
variable {k k' n n' : Nat} {v v' p a m : Int}

lemma Reads.neg (h : Reads a m) : Reads (-a) (-m) := by
  refine ⟨fun hnonneg => ?_, fun hnonpos => ?_⟩
  · have hread := h.of_nonpos (by omega)
    omega
  · have hread := h.of_nonneg (by omega)
    omega

/-- On the right the reading is not beyond the driver's value by more than a degree, nor short of
the position by more than half a degree. -/
lemma Trails.reads (hv : 0 < v) (h : Trails k v n p a) (hreads : Reads a m) :
    -1 ≤ m ∧ m ≤ v + 1 ∧ (1 < v → 0 ≤ m) ∧ (6 ≤ v → p - 5 ≤ 10 * m) := by
  have hahead : ahead k ≤ 8 := by
    unfold ahead
    omega
  have habove := h.servo_le
  have hup := hreads.of_nonneg
  have hdown := hreads.of_nonpos
  rcases Int.lt_or_le v 2 with hnear | hfar
  · have hbelow := h.le_servo_of_one (by omega)
    omega
  · have hbelow := h.le_servo hfar
    have hnonneg : 0 ≤ p := h.nonneg.resolve_right (by omega)
    have hpos : 6 ≤ v → 1 ≤ p := fun hfar => by
      have hgiven := h.given_mem hfar
      have hfollowed := h.followed hfar
      have hramped := h.ramped hfar
      omega
    omega

/-- To the right, sensor and command are apart only when the driver's value has just moved. -/
lemma apart_right (hv : 0 < v) (hturn : Turn k v k' v') (h : Trails k v n p a)
    (hreads : Reads a m) (hn : n' = if commandAt k' v' = commandAt k v then n + 1 else 1)
    (hle : v' ≤ 5 ∨ n' ≤ 17) (hapart : 50 < (commandAt k' v' - 10 * m).natAbs) :
    k' = 0 ∧ n' ≤ 2 := by
  obtain ⟨hlow, hhigh, hnear, hfar⟩ := h.reads hv hreads
  have hc := commandAt_of_pos (n := k) hv
  cases hturn with
  | hold =>
    rw [if_pos rfl] at hn
    have hbeyond : 6 ≤ v := by omega
    obtain ⟨hlag, hlag'⟩ := h.lag_le hbeyond
    have hgiven := h.given_mem hbeyond
    omega
  | next hlast =>
    have hc' := commandAt_of_pos (n := k + 1) hv
    have hbeyond : 6 ≤ v := by omega
    obtain ⟨hlag, -⟩ := h.lag_le hbeyond
    omega
  | move hback hout =>
    have hc' := commandAt_first v'
    refine ⟨rfl, ?_⟩
    rcases Int.lt_or_le v' v with hinward | houtward
    · have hbeyond : 6 ≤ v := by omega
      obtain ⟨hlag, -⟩ := h.lag_le hbeyond
      omega
    · rw [hn, if_neg (by omega)]
      omega

lemma Turn.commandAt_neg (h : Turn k v k' v') (hv : v ≠ 0) :
    commandAt k' (-v') = -commandAt k' v' := by
  cases h with
  | hold => exact HeldLoop.commandAt_neg hv
  | next hlast => exact HeldLoop.commandAt_neg hv
  | move hback hout => rw [commandAt_first, commandAt_first, Int.mul_neg]

/-- Sensor and command are apart only when the driver's value has just moved. -/
lemma apart_of_holds (hturn : Turn k v k' v') (h : Holds k v n p a) (hreads : Reads a m)
    (hn : n' = if commandAt k' v' = commandAt k v then n + 1 else 1)
    (hle : v'.natAbs ≤ 5 ∨ n' ≤ 17) (hapart : 50 < (commandAt k' v' - 10 * m).natAbs) :
    k' = 0 ∧ n' ≤ 2 := by
  rcases lt_trichotomy v 0 with hneg | rfl | hpos
  · have hc : commandAt k (-v) = -commandAt k v := commandAt_neg (by omega)
    have hc' := hturn.commandAt_neg (by omega)
    refine apart_right (by omega) hturn.neg (h.left hneg) hreads.neg ?_ (by omega) (by omega)
    rw [hn]
    exact if_congr (by omega) rfl rfl
  -- from zero the driver's value does not come five degrees away
  · have hrest := h.middle rfl
    have hread := And.intro hreads.of_nonneg hreads.of_nonpos
    have hservo : -8 ≤ a ∧ a ≤ 10 := by
      have hahead : ahead k ≤ 8 := by
        unfold ahead
        omega
      have hbelow := hrest.le_servo
      exact ⟨by omega, hrest.servo_le⟩
    have hc' : -10 ≤ commandAt k' v' ∧ commandAt k' v' ≤ 10 := by
      cases hturn with
      | hold => rw [commandAt_zero]; split <;> omega
      | next hlast => rw [commandAt_zero]; split <;> omega
      | move hback hout => rw [commandAt_first]; omega
    omega
  · exact apart_right hpos hturn (h.right hpos) hreads hn (by omega) hapart

/-- So the cycles in which they are stay within the allowance. -/
theorem allowance_next {d : Nat} (hturn : Turn k v k' v') (h : Holds k v n p a) (hreads : Reads a m)
    (hn : n' = if commandAt k' v' = commandAt k v then n + 1 else 1)
    (hle : v'.natAbs ≤ 5 ∨ n' ≤ 17) (hd : d ≤ allowance k n) :
    (if 50 < (commandAt k' v' - 10 * m).natAbs then d + 1 else 0) ≤ allowance k' n' := by
  split
  · next hapart =>
    obtain ⟨rfl, hnew⟩ := apart_of_holds hturn h hreads hn hle hapart
    unfold allowance at hd ⊢
    rw [if_pos ⟨rfl, hnew⟩]
    cases hturn with
    | hold =>
      rw [if_pos rfl] at hn
      rw [if_pos ⟨rfl, by omega⟩] at hd
      omega
    | move hback hout =>
      rw [if_neg (by omega)] at hd
      split at hn <;> omega
  · exact Nat.zero_le _

end Apart

/-! ## One cycle in words -/

section Words
variable {position position' command actual : Int32} {n : Nat}

open SteeringLoop (servoAt moves_words)

/-- The sensor reads the nearest degree. -/
lemma reads_measured (actual : Int32) : Reads actual.toInt (servoAt actual).measured.toInt := by
  have hscale : (servoAt actual).scale.toInt = 10 := rfl
  have hactual : (servoAt actual).actual = actual := rfl
  rw [Servo.toInt_measured (by omega), hscale, hactual]
  unfold Servo.roundDiv
  dsimp only
  rw [show (10 : Int).tdiv 2 = 5 from rfl]
  constructor
  · intro hnonneg
    rw [if_pos hnonneg, Int.tdiv_eq_ediv_of_nonneg (by omega)]
    omega
  · intro hnonpos
    rcases Int.lt_or_eq_of_le hnonpos with hneg | hzero
    · rw [if_neg (by omega), show actual.toInt - 5 = -(5 - actual.toInt) by omega, Int.neg_tdiv,
        Int.tdiv_eq_ediv_of_nonneg (by omega)]
      omega
    · rw [hzero]
      decide

/-- A step of the ramp is a step toward where it ends, which is no farther out. -/
lemma rampToward_eq_rateLimit (position : Int32) :
    rampToward position 0 3 = rateLimit position (rampToward position 0 3) 0 3 := by
  have hthree : (3 : Int32).toInt = 3 := rfl
  have hramp := toInt_rampToward position 0 (show 0 ≤ (3 : Int32).toInt by omega)
  rw [Int32.toInt_zero, hthree] at hramp
  refine Int32.toInt_inj.mp ?_
  rw [toInt_rateLimit (by omega), slewLimited, if_pos]
  rw [hramp, Int32.toInt_zero]
  split <;> omega

/-- In words, one cycle of governor and servo is one cycle of the loop. -/
lemma cycle_words (actual : Int32)
    (hmove : position' =
      if 10 ≤ n then rampToward position 0 3 else rateLimit position command 0 3)
    (hposition : Calibration.steering.range.contains position)
    (hcommand : Calibration.steering.range.contains command)
    (hactual : Calibration.steering.range.contains actual) :
    Cycle command.toInt n position.toInt actual.toInt position'.toInt
      ((servoAt actual).advance
        (mapToDrive position' (servoAt actual).range (servoAt actual).output)).actual.toInt := by
  have hthree : (3 : Int32).toInt = 3 := rfl
  unfold Cycle
  split at hmove
  · next hstale =>
    have hramp : (rampToward position 0 3).toInt = ramped position.toInt :=
      toInt_rampToward position 0 (by omega)
    have hrange : Calibration.steering.range.contains (rampToward position 0 3) :=
      contains_rampToward (by omega) hposition rfl
    rw [if_pos hstale, ← hramp]
    exact moves_words actual (hmove.trans (rampToward_eq_rateLimit position)) hposition hrange
      hactual
  · next hfresh =>
    rw [if_neg hfresh]
    exact moves_words actual hmove hposition hcommand hactual

end Words

end HeldLoop
end FrontZone
