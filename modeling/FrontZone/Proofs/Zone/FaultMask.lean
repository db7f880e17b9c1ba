import FrontZone.Proofs.Zone.Run
/-!
# The fault mask of a zone

The low bits of the mask are the actuators', the others belong to the monitors outside. What the
zone keeps of those monitors never has one of the low bits set, whatever pattern it is asked to
raise (`hasBit_externalFaults`), so that in the mask of a report each bit has one source. A report
is `Exact` if the mask, the verdict and the absence of a governor say what they should, and every
report of every run is.
-/

namespace FrontZone

/-! ## Bits -/

/-- Whether bit `i` of a mask is set. -/
def hasBit (mask : UInt8) (i : Nat) : Bool :=
  mask.toBitVec.getLsbD i

section Bits
variable (m n : UInt8) (i : Nat)

lemma hasBit_or : hasBit (m ||| n) i = (hasBit m i || hasBit n i) := by
  simp only [hasBit, UInt8.toBitVec_or, BitVec.getLsbD_or]

lemma hasBit_and : hasBit (m &&& n) i = (hasBit m i && hasBit n i) := by
  simp only [hasBit, UInt8.toBitVec_and, BitVec.getLsbD_and]

lemma hasBit_not : hasBit (~~~m) i = (decide (i < 8) && !hasBit m i) := by
  simp only [hasBit, UInt8.toBitVec_not, BitVec.getLsbD_not]

lemma hasBit_zero : hasBit 0 i = false :=
  BitVec.getLsbD_zero

/-- A mask has eight bits. -/
lemma hasBit_of_ge {i : Nat} (h : 8 ≤ i) : hasBit m i = false :=
  BitVec.getLsbD_of_ge _ _ h

/-- A mask is zero unless one of its bits is set. -/
lemma ne_zero_iff_hasBit {m : UInt8} : m ≠ 0 ↔ ∃ i, hasBit m i := by
  constructor
  · intro hne
    by_contra hnone
    refine hne (UInt8.toBitVec_inj.mp (BitVec.eq_of_getLsbD_eq fun i _ => ?_))
    have hunset : hasBit m i = false := Bool.eq_false_iff.mpr fun hbit => hnone ⟨i, hbit⟩
    exact hunset.trans (hasBit_zero i).symm
  · rintro ⟨i, hbit⟩ rfl
    rw [hasBit_zero] at hbit
    exact Bool.false_ne_true hbit

end Bits

/-- The number of an actuator's bit. -/
def Actuator.bitNumber : Actuator → Nat
  | .steering => 0
  | .brake => 1

/-- An actuator's bit is the one of its number. -/
lemma hasBit_faultBit (a : Actuator) (i : Nat) :
    hasBit a.faultBit i = decide (i = a.bitNumber) := by
  by_cases hi : i < 8
  · revert i
    cases a <;> decide
  · have hne : i ≠ a.bitNumber := by
      cases a <;> simp only [Actuator.bitNumber] <;> omega
    rw [hasBit_of_ge _ (Nat.not_lt.mp hi), decide_eq_false hne]

/-- The actuators' bits are the two lowest. -/
lemma hasBit_actuatorFaultBits (i : Nat) : hasBit actuatorFaultBits i = decide (i < 2) := by
  by_cases hi : i < 8
  · revert i
    decide
  · rw [hasBit_of_ge _ (Nat.not_lt.mp hi), decide_eq_false (by omega)]

lemma lt_two_iff_bitNumber {i : Nat} : i < 2 ↔ ∃ a : Actuator, i = a.bitNumber := by
  constructor
  · intro hi
    rcases Nat.lt_succ_iff_lt_or_eq.mp hi with hi | rfl
    · exact ⟨.steering, Nat.lt_one_iff.mp hi⟩
    · exact ⟨.brake, rfl⟩
  · rintro ⟨a, rfl⟩
    cases a <;> decide

/-- An actuator contributes its bit unless it ran without a fault. -/
lemma hasBit_faultBitOf (a : Actuator) (report : Option CycleReport) (i : Nat) :
    hasBit (faultBitOf a report) i ↔
      i = a.bitNumber ∧ (report = none ∨ ∃ r, report = some r ∧ r.fault ≠ .noFault) := by
  unfold faultBitOf
  cases report with
  | none => simp [hasBit_faultBit]
  | some r =>
    by_cases hfault : r.fault = .noFault
    · simp [hfault, hasBit_zero]
    · simp [hfault, hasBit_faultBit]

/-! ## The verdict -/

/-- Some actuator's bit is set. -/
lemma actuatorFaultBits_ne_zero_iff {mask : UInt8} :
    mask &&& actuatorFaultBits ≠ 0 ↔ ∃ a : Actuator, hasBit mask a.bitNumber := by
  simp only [ne_zero_iff_hasBit, hasBit_and, hasBit_actuatorFaultBits, Bool.and_eq_true,
    decide_eq_true_eq, lt_two_iff_bitNumber]
  constructor
  · rintro ⟨_, hbit, a, rfl⟩
    exact ⟨a, hbit⟩
  · rintro ⟨a, hbit⟩
    exact ⟨_, hbit, a, rfl⟩

/-- Where no actuator's bit is set, any bit that is set is a higher one. -/
lemma ne_zero_iff_of_no_actuator {mask : UInt8} (h : ∀ a : Actuator, ¬ hasBit mask a.bitNumber) :
    mask ≠ 0 ↔ ∃ i, 2 ≤ i ∧ hasBit mask i := by
  rw [ne_zero_iff_hasBit]
  refine exists_congr fun i => (and_iff_right_of_imp fun hbit => ?_).symm
  by_contra hlow
  obtain ⟨a, rfl⟩ := lt_two_iff_bitNumber.mp (Nat.not_le.mp hlow)
  exact h a hbit

/-- The verdict reads off which bits of the mask are set. -/
lemma ofFaultMask_iff (mask : UInt8) :
    (SafetyStatus.ofFaultMask mask = .fault ↔ ∃ a : Actuator, hasBit mask a.bitNumber) ∧
      (SafetyStatus.ofFaultMask mask = .degraded ↔
        (∀ a : Actuator, ¬ hasBit mask a.bitNumber) ∧ ∃ i, 2 ≤ i ∧ hasBit mask i) ∧
      (SafetyStatus.ofFaultMask mask = .ok ↔ mask = 0) := by
  unfold SafetyStatus.ofFaultMask
  by_cases hfault : mask &&& actuatorFaultBits ≠ 0
  · obtain ⟨a, hbit⟩ := actuatorFaultBits_ne_zero_iff.mp hfault
    have hne : mask ≠ 0 := ne_zero_iff_hasBit.mpr ⟨_, hbit⟩
    rw [if_pos hfault]
    exact ⟨iff_of_true rfl ⟨a, hbit⟩, iff_of_false nofun fun h => h.1 a hbit,
      iff_of_false nofun hne⟩
  · have hnone : ∀ a : Actuator, ¬ hasBit mask a.bitNumber := fun a hbit =>
      hfault (actuatorFaultBits_ne_zero_iff.mpr ⟨a, hbit⟩)
    rw [if_neg hfault, ← ne_zero_iff_of_no_actuator hnone]
    by_cases hne : mask ≠ 0
    · rw [if_pos hne]
      exact ⟨iff_of_false nofun fun ⟨a, hbit⟩ => hnone a hbit, iff_of_true rfl ⟨hnone, hne⟩,
        iff_of_false nofun hne⟩
    · rw [if_neg hne]
      exact ⟨iff_of_false nofun fun ⟨a, hbit⟩ => hnone a hbit,
        iff_of_false nofun fun h => hne h.2, iff_of_true rfl (not_not.mp hne)⟩

namespace Zone

/-! ## What is kept of the monitors outside -/

/-- What a request sets bit `i` to, if it does. -/
def Request.setting (i : Nat) : Request → Option Bool
  | .setExternalFault bits active => if hasBit bits i then some active else none
  | _ => none

/-- Whether a request is for a cycle. -/
def Request.isStep : Request → Bool
  | .step _ => true
  | _ => false

/-- What the requests of a run have last set bit `i` to. -/
def lastSetting (i : Nat) (rs : List Request) : Option Bool :=
  (rs.filterMap (·.setting i)).getLast?

lemma lastSetting_concat (i : Nat) (rs : List Request) (r : Request) :
    lastSetting i (rs ++ [r]) = (r.setting i).or (lastSetting i rs) := by
  rw [lastSetting, List.filterMap_append, List.getLast?_append]
  cases hset : r.setting i with
  | none => rw [List.filterMap_cons_none hset]; rfl
  | some active => rw [List.filterMap_cons_some hset]; rfl

/-- Only a setting touches the bits kept, and of those only high ones. -/
lemma hasBit_setExternalFault (z : Zone) (bits : UInt8) (active : Bool) (i : Nat) :
    hasBit (z.setExternalFault bits active).externalFaults i =
      if 2 ≤ i ∧ hasBit bits i then active else hasBit z.externalFaults i := by
  by_cases hi : i < 8
  · have hkept : hasBit (bits &&& ~~~actuatorFaultBits) i = decide (2 ≤ i ∧ hasBit bits i) := by
      rw [hasBit_and, hasBit_not, hasBit_actuatorFaultBits]
      rw [decide_eq_true hi, Bool.true_and]
      by_cases hhigh : 2 ≤ i
      · rw [decide_eq_false (Nat.not_lt.mpr hhigh), Bool.not_false, Bool.and_true]
        simp only [hhigh, true_and, Bool.decide_eq_true]
      · rw [decide_eq_true (Nat.not_le.mp hhigh), Bool.not_true, Bool.and_false]
        simp only [hhigh, false_and, decide_false]
    have hset : (z.setExternalFault bits active).externalFaults =
        if active then z.externalFaults ||| (bits &&& ~~~actuatorFaultBits)
        else z.externalFaults &&& ~~~(bits &&& ~~~actuatorFaultBits) := rfl
    rw [hset]
    -- what is asked of the low bits is masked out before either operation
    by_cases hbit : 2 ≤ i ∧ hasBit bits i
    · rw [if_pos hbit]
      rw [decide_eq_true hbit] at hkept
      cases active <;> simp [hasBit_or, hasBit_and, hasBit_not, hkept]
    · rw [if_neg hbit]
      rw [decide_eq_false hbit] at hkept
      cases active <;> simp [hasBit_or, hasBit_and, hasBit_not, hkept, hi]
  · have hge := Nat.not_lt.mp hi
    rw [hasBit_of_ge _ hge, hasBit_of_ge _ hge, hasBit_of_ge _ hge]
    simp

lemma externalFaults_handle (z : Zone) (r : Request) (i : Nat) :
    hasBit (z.handle r).externalFaults i =
      if 2 ≤ i then (r.setting i).getD (hasBit z.externalFaults i)
      else hasBit z.externalFaults i := by
  cases r with
  | setExternalFault bits active =>
    refine (z.hasBit_setExternalFault bits active i).trans ?_
    unfold Request.setting
    by_cases hbit : hasBit bits i <;> simp [hbit]
  | setVehicleState state =>
    have hkept : (z.handle (.setVehicleState state)).externalFaults = z.externalFaults := by
      show (z.setVehicleState state).value.externalFaults = _
      unfold setVehicleState
      split <;> rfl
    rw [hkept]
    exact (ite_self _).symm
  | reinit a calibration => cases a <;> exact (ite_self _).symm
  | _ => exact (ite_self _).symm

lemma cycle_handle (z : Zone) (r : Request) :
    (z.handle r).cycle = if r.isStep then z.cycle + 1 else z.cycle := by
  cases r with
  | setVehicleState state =>
    show (z.setVehicleState state).value.cycle = _
    unfold setVehicleState
    split <;> rfl
  | reinit a calibration => cases a <;> rfl
  | _ => rfl

variable {zc : ZoneCalibration} {z : Zone}

/-- Of the bits kept exactly those are set that are no actuator's and were last raised. -/
theorem hasBit_externalFaults (h : ofCalibration zc = .ok z) (rs : List Request) (i : Nat) :
    hasBit (z.run rs).externalFaults i ↔ 2 ≤ i ∧ lastSetting i rs = some true := by
  induction rs using List.reverseRecOn with
  | nil =>
    obtain ⟨-, rfl⟩ := ofCalibration_eq_ok_iff.mp h
    have hstart : hasBit 0 i = false := hasBit_zero i
    exact iff_of_false (hstart.trans_ne Bool.false_ne_true) fun hlast => nomatch hlast.2
  | append_singleton rs r ih =>
    rw [run_concat, externalFaults_handle, lastSetting_concat]
    by_cases hhigh : 2 ≤ i
    · rw [if_pos hhigh]
      cases hset : r.setting i with
      | none => exact ih
      | some active => simp [hhigh]
    · simpa [hhigh] using ih

/-- The zone counts its cycles. -/
theorem cycle_run (h : ofCalibration zc = .ok z) (rs : List Request) :
    (z.run rs).cycle = UInt64.ofNat (rs.countP (·.isStep)) := by
  induction rs using List.reverseRecOn with
  | nil =>
    obtain ⟨-, rfl⟩ := ofCalibration_eq_ok_iff.mp h
    rfl
  | append_singleton rs r ih =>
    rw [run_concat, cycle_handle, List.countP_append, List.countP_singleton, ih]
    split
    · exact (UInt64.ofNat_add _ _).symm
    · rfl

/-! ## Governors that do not run -/

variable (k : Call) (a : Actuator)

/-- The report of an actuator is missing exactly if its governor is not initialised. -/
lemma actuator_eq_none_iff (z : Zone) :
    (z.perform k).report.actuator a = none ↔ ¬ (z.governor a).isInitialized := by
  rw [(z.perform_actuator k a).2.2]
  unfold Governor.isInitialized
  cases hactive : (z.governor a).active with
  | none =>
    rw [Governor.perform_of_inactive hactive]
    exact iff_of_true rfl Bool.false_ne_true
  | some active =>
    rw [Governor.perform_of_active hactive]
    exact iff_of_false nofun (not_not_intro rfl)

/-- A governor that is not initialised leaves its hardware and the services alone. -/
lemma perform_of_not_isInitialized (z : Zone) (h : ¬ (z.governor a).isInitialized) :
    (z.perform k).rig a = k.rig a ∧
      (z.perform k).services =
        ((z.governor a.other).perform (z.aloneCall k a.other)).services := by
  have hactive : (z.governor a).active = none := by
    simpa [Governor.isInitialized] using h
  refine ⟨?_, ?_⟩
  · rw [(z.perform_actuator k a).2.1, Governor.perform_of_inactive hactive]
    exact (z.call_eq k a).2
  · rw [services_perform]
    cases a with
    | steering =>
      -- the brake finds the services as they were before steering
      have hfirst : z.call k .brake = z.aloneCall k .brake := by
        unfold call
        rw [Governor.perform_of_inactive (g := z.steering) hactive]
        rfl
      rw [hfirst]
      rfl
    | brake =>
      rw [Governor.perform_of_inactive (g := z.brake) hactive]
      rfl

/-! ## Reports -/

/-- The report of a cycle of `z` called with `k` says what it should after the requests `rs`. -/
structure Exact (rs : List Request) (z : Zone) (k : Call) : Prop where
  /-- An actuator's bit is set for a governor that is missing or reports a fault. -/
  actuator_bit : ∀ a : Actuator, hasBit (z.perform k).report.faultMask a.bitNumber ↔
    (z.perform k).report.actuator a = none ∨
      ∃ r, (z.perform k).report.actuator a = some r ∧ r.fault ≠ .noFault
  /-- Any other bit is set if the last request for it raised it. -/
  external_bit : ∀ i, 2 ≤ i →
    (hasBit (z.perform k).report.faultMask i ↔ lastSetting i rs = some true)
  fault_iff : (z.perform k).report.safety = .fault ↔
    ∃ a : Actuator, hasBit (z.perform k).report.faultMask a.bitNumber
  degraded_iff : (z.perform k).report.safety = .degraded ↔
    (∀ a : Actuator, ¬ hasBit (z.perform k).report.faultMask a.bitNumber) ∧
      ∃ i, 2 ≤ i ∧ hasBit (z.perform k).report.faultMask i
  ok_iff : (z.perform k).report.safety = .ok ↔ (z.perform k).report.faultMask = 0
  missing_iff : ∀ a, (z.perform k).report.actuator a = none ↔ ¬ (z.governor a).isInitialized
  /-- The hardware of a missing governor is as it was, and the services are as the other governor
  alone leaves them. -/
  missing_silent : ∀ a, (z.perform k).report.actuator a = none →
    (z.perform k).rig a = k.rig a ∧
      (z.perform k).services =
        ((z.governor a.other).perform (z.aloneCall k a.other)).services
  cycle_eq : (z.perform k).report.cycle = UInt64.ofNat (rs.countP (·.isStep) + 1)

/-- In the mask of a report an actuator's bit comes from its governor and any other from outside. -/
lemma hasBit_faultMask (z : Zone) (i : Nat) :
    hasBit (z.perform k).report.faultMask i ↔
      hasBit z.externalFaults i ∨ ∃ a : Actuator, i = a.bitNumber ∧
        ((z.perform k).report.actuator a = none ∨
          ∃ r, (z.perform k).report.actuator a = some r ∧ r.fault ≠ .noFault) := by
  have hmask : (z.perform k).report.faultMask =
      z.externalFaults ||| faultBitOf .steering ((z.perform k).report.actuator .steering) |||
        faultBitOf .brake ((z.perform k).report.actuator .brake) := rfl
  rw [hmask, hasBit_or, hasBit_or, Bool.or_eq_true, Bool.or_eq_true, hasBit_faultBitOf,
    hasBit_faultBitOf, or_assoc]
  refine or_congr_right ⟨fun hbit => ?_, fun ⟨a, hbit⟩ => ?_⟩
  · rcases hbit with hbit | hbit
    · exact ⟨.steering, hbit⟩
    · exact ⟨.brake, hbit⟩
  · cases a with
    | steering => exact Or.inl hbit
    | brake => exact Or.inr hbit

/-- Every report of every run says what it should. -/
theorem reports_exact (h : ofCalibration zc = .ok z) (rs : List Request) (k : Call) :
    Exact rs (z.run rs) k := by
  obtain ⟨hfault, hdegraded, hok⟩ := ofFaultMask_iff ((z.run rs).perform k).report.faultMask
  refine
    { fault_iff := hfault, degraded_iff := hdegraded, ok_iff := hok
      missing_iff := fun a => actuator_eq_none_iff k a _
      missing_silent := fun a hmissing =>
        perform_of_not_isInitialized k a _ ((actuator_eq_none_iff k a _).mp hmissing)
      actuator_bit := fun a => ?_, external_bit := fun i hi => ?_, cycle_eq := ?_ }
  · rw [hasBit_faultMask, hasBit_externalFaults h]
    have hlow : a.bitNumber < 2 := lt_two_iff_bitNumber.mpr ⟨a, rfl⟩
    constructor
    · rintro (⟨hhigh, -⟩ | ⟨b, heq, hreport⟩)
      · exact absurd hlow (Nat.not_lt.mpr hhigh)
      · obtain rfl : a = b := by cases a <;> cases b <;> first | rfl | exact nomatch heq
        exact hreport
    · exact fun hreport => Or.inr ⟨a, rfl, hreport⟩
  · rw [hasBit_faultMask, hasBit_externalFaults h, and_iff_right hi]
    refine or_iff_left ?_
    rintro ⟨a, rfl, -⟩
    exact absurd (lt_two_iff_bitNumber.mpr ⟨a, rfl⟩) (Nat.not_lt.mpr hi)
  · show (z.run rs).cycle + 1 = _
    rw [cycle_run h]
    exact (UInt64.ofNat_add _ _).symm

/-- All bits raised from outside, one of them dropped again, and the brake governor taken away: its
bit is set, steering's is not, and the verdict is a fault. -/
theorem mask_without_brake :
    let k : Call := ⟨{}, fun _ => .scripted 0, {}⟩
    let rs : List Request :=
      [.setExternalFault 255 true, .step k, .setExternalFault 4 false, .reinit .brake none]
    ∃ z, ofCalibration {} = .ok z ∧ Exact rs (z.run rs) k ∧
      ((z.run rs).perform k).report.faultMask = 0xFA ∧
      ((z.run rs).perform k).report.safety = .fault ∧ ((z.run rs).perform k).report.cycle = 2 := by
  intro k rs
  have hstart : ∃ z, ofCalibration {} = .ok z ∧
      ((z.run rs).perform k).report.faultMask = 0xFA ∧
      ((z.run rs).perform k).report.safety = .fault ∧ ((z.run rs).perform k).report.cycle = 2 :=
    ⟨_, rfl, by decide +kernel, by decide +kernel, by decide +kernel⟩
  obtain ⟨z, hz, hmask, hsafety, hcycle⟩ := hstart
  exact ⟨z, hz, reports_exact hz rs k, hmask, hsafety, hcycle⟩

end Zone
end FrontZone
