import FrontZone.Machine.Governor
import FrontZone.Proofs.Governor.Cycle
import FrontZone.Proofs.Machine.Operations
/-!
# A control cycle is exact in machine arithmetic

Two facts make a cycle exact. One is the calibration, which is valid: the slew limit is not
negative, the drive domain is in order, and no scale is zero. The other is part of the state: the
level of the latch, which the next episode raises by one before it is held to the highest level,
must leave room for that (`SoundGovernor`). Everything else fits for the width of the words alone.
Each function has its own equation, and `handle_eq` and `sound_handle` are what a run needs of one
request. On a calibration that is not valid the machine goes wrong exactly where the functions that
may be undefined say so (`toSignal?_eq`, `mapToDrive?_eq`, `rateLimit?_eq`).
-/

namespace FrontZone

namespace Machine

open Governor (State Findings Call Request)

variable {c : Calibration} {s : State} {g : Governor}

/-! ## Monitors -/

lemma check_eq (p : Plausibility) (command reference threshold : Int32) :
    check p command reference threshold = .ok (p.check command reference threshold) := by
  unfold check Plausibility.check
  split
  · rw [countUp16_eq]
    rfl
  · rfl

lemma observe_eq (s : Staleness) (command : Int32) :
    observe s command = .ok (s.observe command) := by
  unfold observe Staleness.observe
  split
  · rw [countUp16_eq]
    rfl
  · rfl

lemma examine_eq (c : Calibration) (s : State) (command : Int32) (reading : Option Int32) :
    examine c s command reading = .ok (Governor.examine c s command reading) := by
  unfold examine Governor.examine
  generalize c.range.accept (c.toInternal command) = accepted
  generalize Governor.referencePosition c s reading = reference
  cases accepted with
  -- neither monitor takes in anything but an accepted command
  | none => cases reference <;> rfl
  | some k =>
    dsimp only [observeAccepted]
    rw [observe_eq]
    cases reference with
    | none => rfl
    | some r =>
      dsimp only [checkFound]
      rw [check_eq]
      rfl

/-! ## Motion -/

lemma rateLimit_eq {position target safe limit : Int32}
    (hl : distance position safe < distance target safe → 0 ≤ limit.toInt) :
    rateLimit position target safe limit = .ok (FrontZone.rateLimit position target safe limit) := by
  unfold distance at hl
  unfold rateLimit FrontZone.rateLimit slewLimited distance
  split
  · rw [Int32.ofInt_toInt]
    rfl
  · next hfar => exact limitedMove_eq position target limit (hl (Nat.not_le.1 hfar))

lemma nextPosition_eq (hv : c.IsValid) (position : Int32) (accepted : Option Int32)
    (stale : Bool) : nextPosition c position accepted stale =
      .ok (Governor.nextPosition c position accepted stale) := by
  have hlimit : 0 < c.rateLimit.toInt := Int32.lt_iff_toInt_lt.mp hv.rateLimit_pos
  unfold nextPosition Governor.nextPosition
  cases c.failSafe with
  | snap => exact rateLimit_eq fun _ => hlimit.le
  | ramp rate =>
    cases stale with
    | false => exact rateLimit_eq fun _ => hlimit.le
    | true => rfl

/-! ## The latch -/

/-- The level of a new episode is found without passing the end of its word, for the level before it
is well below. -/
lemma nextLevel_eq {level : UInt8} (h : level ≤ maxDisableLevel) :
    nextLevel level = .ok (Latch.nextLevel level) := by
  have hne : level ≠ 255 := by
    rintro rfl
    exact absurd h (by decide)
  rw [nextLevel, succUInt8_of_ne hne]
  rfl

lemma stepLatch_eq {l : Latch} (h : l.disableLevel ≤ maxDisableLevel)
    (condition : Option FaultCode) : stepLatch l condition = .ok (l.step condition) := by
  unfold stepLatch Latch.step
  -- something is counted in two of the six cases: where an episode begins and on the way to its end
  cases l.state with
  | normal =>
    cases condition with
    | none => rfl
    | some fault =>
      dsimp only
      rw [nextLevel_eq h]
      rfl
  | faulted level fault => cases condition <;> rfl
  | clearing level fault count =>
    cases condition with
    | none =>
      dsimp only
      rw [countUp16_eq]
      rfl
    | some fault => rfl

lemma governedState_eq (hv : c.IsValid) (hl : s.latch.disableLevel ≤ maxDisableLevel)
    (f : Findings) : governedState c s f = .ok (Governor.governedState c s f) := by
  rw [governedState, nextPosition_eq hv, ok_bind, stepLatch_eq hl]
  rfl

/-! ## Outputs -/

lemma driveValue_eq (position : Int32) (range : PositionRange) (domain : DriveDomain) :
    driveValue position.toInt range domain =
      .ok (FrontZone.driveValue position.toInt range domain) := by
  have hposition := natAbs_toInt_le position
  have hmin := domain.min.toNat_lt
  have hcenter := domain.center.toNat_lt
  have hmax := domain.max.toNat_lt
  -- the quotient may exceed the domain by far on an odd range, but never what can be added to
  unfold driveValue FrontZone.driveValue
  dsimp only
  split
  · next h =>
    obtain ⟨hmul, hdiv, hle⟩ := mulDiv_eq (b := domain.max.toNat - domain.center.toNat)
      (d := range.max.toInt) hposition (by omega) h.2.ne'
    rw [sub_of_natAbs (by omega), ok_bind, hmul, ok_bind, hdiv, ok_bind, add_of_natAbs (by omega)]
  · split
    · next h =>
      have hlow := natAbs_toInt_le range.min
      obtain ⟨hmul, hdiv, hle⟩ := mulDiv_eq (b := domain.center.toNat - domain.min.toNat)
        (d := -range.min.toInt) hposition (by omega) (by omega)
      rw [sub_of_natAbs (by omega), ok_bind, hmul, ok_bind, neg_of_natAbs (by omega), ok_bind, hdiv,
        ok_bind, add_of_natAbs (by omega)]
    · rfl

lemma mapToDrive_eq (position : Int32) (range : PositionRange) {domain : DriveDomain}
    (h : domain.min ≤ domain.max) :
    mapToDrive position range domain = .ok (FrontZone.mapToDrive position range domain) := by
  have hle : (domain.min.toNat : Int) ≤ domain.max.toNat := by
    exact_mod_cast UInt16.le_iff_toNat_le.mp h
  have hmax := domain.max.toNat_lt
  generalize hn : FrontZone.driveValue position.toInt range domain = n
  have hlo : (domain.min.toNat : Int) ≤ clampInt domain.min.toNat domain.max.toNat n :=
    le_clampInt hle
  have hhi : clampInt domain.min.toNat domain.max.toNat n ≤ domain.max.toNat := clampInt_le hle
  rw [mapToDrive, driveValue_eq, ok_bind, clamp_of_le hle, ok_bind, hn,
    toUInt16_of_mem (by omega) (by omega), FrontZone.mapToDrive, hn]

/-- A frame that is due is one of some that are left. -/
lemma tickCutoff_eq (n : Cutoff) (accepts : Bool) :
    tickCutoff n accepts = .ok (n.tick accepts) := by
  unfold tickCutoff Cutoff.tick
  split
  · next h =>
    rw [predUInt8_of_ne (by simpa [Cutoff.isSending] using h), ok_bind]
    split <;> rfl
  · rfl

lemma tickState_eq (s : State) (accepts : Bool) :
    tickState s accepts = .ok (s.tickCutoff accepts) := by
  unfold tickState State.tickCutoff
  cases s.cutoff with
  | none => rfl
  | some n =>
    dsimp only
    rw [tickCutoff_eq]
    rfl

lemma finish_eq (hv : c.IsValid) (s : State) (t : LatchTransition) (override accepts : Bool)
    (events : List (Dtc × EventStatus)) (notes : List LogEntry) :
    finish c s t override accepts events notes =
      .ok (Governor.finish c s t override accepts events notes) := by
  have hdomain : c.output.min ≤ c.output.max := UInt16.le_trans hv.output_min_le hv.output_le_max
  rw [finish, mapToDrive_eq _ _ hdomain, ok_bind, tickState_eq]
  rfl

/-! ## Undefined results -/

/-- A signal value is defined exactly if the machine can divide. -/
theorem toSignal?_eq (c : Calibration) (internal : Int32) :
    c.toSignal? internal = (divInt32 internal c.signalScale).toOption := by
  unfold Calibration.toSignal? divInt32
  by_cases hzero : c.signalScale = 0
  · rw [if_pos (.inl hzero), if_pos hzero]
    rfl
  by_cases hover : internal = Int32.minValue ∧ c.signalScale = -1
  · rw [if_pos (.inr hover), if_neg hzero, if_pos hover]
    rfl
  · rw [if_neg (not_or.2 ⟨hzero, hover⟩), if_neg hzero, if_neg hover]
    rfl

/-- A drive signal is defined exactly if the machine finds no empty bounds. -/
theorem mapToDrive?_eq (position : Int32) (range : PositionRange) (domain : DriveDomain) :
    mapToDrive? position range domain = (mapToDrive position range domain).toOption := by
  unfold mapToDrive?
  split
  · next h =>
    rw [mapToDrive_eq position range h]
    rfl
  · next h =>
    have hle : ¬ (domain.min.toNat : Int) ≤ domain.max.toNat := by
      rw [UInt16.le_iff_toNat_le] at h
      omega
    rw [mapToDrive, driveValue_eq, ok_bind, clamp, if_neg hle]
    rfl

/-- A limited move is defined exactly if the machine finds no empty bounds. -/
theorem rateLimit?_eq (position target safe limit : Int32) :
    rateLimit? position target safe limit = (rateLimit position target safe limit).toOption := by
  have hneg : limit < 0 ↔ limit.toInt < 0 := by rw [Int32.lt_iff_toInt_lt, Int32.toInt_zero]
  unfold rateLimit?
  split
  · next h =>
    have hlimit := natAbs_toInt_le limit
    have hposition := natAbs_toInt_le position
    have htarget := natAbs_toInt_le target
    have hempty := hneg.mp h.1
    rw [rateLimit, if_neg (Nat.not_le.2 h.2), limitedMove, neg_of_natAbs (by omega), ok_bind,
      sub_of_natAbs (by omega), ok_bind, clamp, if_neg (by omega)]
    rfl
  · next h =>
    rw [hneg] at h
    rw [rateLimit_eq (by omega)]
    rfl

/-! ## Cycles -/

lemma cycle_eq (hv : c.IsValid) (hl : s.latch.disableLevel ≤ maxDisableLevel) (inputs : CycleInputs)
    (reading : Option Int32) (accepts : Bool) :
    cycle c s inputs reading accepts = .ok (Governor.cycle c s inputs reading accepts) := by
  unfold cycle Governor.cycle
  split
  · exact finish_eq hv ..
  · rw [examine_eq, ok_bind, governedState_eq hv hl, ok_bind]
    exact finish_eq hv ..

/-! ## Requests -/

/-- What a governor needs to be computed in words: where it runs, a valid calibration and a level
within its bound. -/
def SoundGovernor (g : Governor) : Prop :=
  g.Satisfies fun _ s => s.latch.disableLevel ≤ maxDisableLevel

/-- A governor after one request. -/
def handle (g : Governor) : Request → Checked Governor
  | .update k => do return (← update g k.inputs k.rig k.services).value.governor
  | .reinit calibration => pure (g.reinit calibration).1

lemma update_eq (hg : SoundGovernor g) (k : Call) :
    update g k.inputs k.rig k.services = .ok (g.update k.inputs k.rig k.services) := by
  unfold update Governor.update
  cases hact : g.active with
  | none => rfl
  | some a =>
    obtain ⟨c, s⟩ := a
    obtain ⟨hv, hl⟩ := hg c s hact
    dsimp only
    rw [cycle_eq hv hl]
    rfl

lemma positionSignal_eq (hg : SoundGovernor g) : positionSignal g = .ok g.positionSignal := by
  unfold positionSignal Governor.positionSignal
  cases hact : g.active with
  | none => rfl
  | some a =>
    have hscale : 0 < a.calibration.signalScale.toInt :=
      Int32.lt_iff_toInt_lt.mp (hg _ _ hact).1.scale_pos
    dsimp only
    rw [divInt32_of_pos _ hscale]
    rfl

lemma handle_eq (hg : SoundGovernor g) (r : Request) : handle g r = .ok (g.handle r) := by
  cases r with
  | update k =>
    rw [handle, update_eq hg]
    rfl
  | reinit calibration => rfl

/-- No step of the latch leaves its level above the highest. -/
lemma disableLevel_step_le {l : Latch} (h : l.disableLevel ≤ maxDisableLevel)
    (condition : Option FaultCode) : (l.step condition).1.disableLevel ≤ maxDisableLevel := by
  have hnext : Latch.nextLevel l.disableLevel ≤ maxDisableLevel := by
    show (if l.disableLevel + 1 ≤ maxDisableLevel then l.disableLevel + 1 else _) ≤ _
    split
    · assumption
    · exact UInt8.le_refl _
  unfold Latch.step
  cases l.state with
  | normal => cases condition <;> assumption
  | faulted level fault => cases condition <;> exact h
  | clearing level fault count => cases condition <;> exact h

lemma disableLevel_initial_le (c : Calibration) :
    (State.initial c).latch.disableLevel ≤ maxDisableLevel :=
  show (0 : UInt8) ≤ maxDisableLevel by decide

lemma disableLevel_outcome_le (h : s.latch.disableLevel ≤ maxDisableLevel) (k : Call) :
    (k.outcome c s).state.latch.disableLevel ≤ maxDisableLevel := by
  by_cases ho : k.inputs.isOverride
  · rw [Governor.state_of_override ho]
    exact h
  · rw [Governor.state_of_governed ho]
    exact disableLevel_step_le h _

lemma sound_of_init {calibration : Option Calibration} (h : Governor.init calibration = .ok g) :
    SoundGovernor g :=
  Governor.satisfies_of_init (fun _ => disableLevel_initial_le _) h

/-- One request keeps a governor sound. -/
lemma sound_handle (hg : SoundGovernor g) (r : Request) : SoundGovernor (g.handle r) :=
  Governor.satisfies_handle (fun _ => disableLevel_initial_le _)
    (fun _ hl k => disableLevel_outcome_le hl k) hg r

end Machine

end FrontZone
