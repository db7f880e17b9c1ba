import FrontZone.Proofs.Injector.Duration
/-!
# What a sensor with a fault reads

What is measured goes on moving under a fault, so a reading is compared with the one that the sensor
would give at the same moment without it: a dropout gives none, an offset one that is off by a
constant, and a stuck sensor one that does not move at all. Where it is stuck is the value measured
when the fault began, provided that it measures a servo; otherwise it is zero.
-/

namespace FrontZone
namespace Injector
namespace Bench

variable {b b' : Bench} {e : Event} {es : List Event} {fault : SensorFault}
  {duration : Option UInt32} {v : Int32}

/-! ## Runs under a fault -/

/-- Whether a fault is in force throughout a run. -/
def Lasts (b : Bench) (es : List Event) : Prop :=
  ∀ past, past <+: es → (b.run past).injector.active.isSome

/-- As long as it lasts and nobody interferes, a fault that began is the one in force. -/
theorem inForce_of_lasts (hbegins : b.begins? e = some (fault, duration))
    (hes : ∀ e' ∈ es, e'.interferes = false) (hlasts : (b.handle e).Lasts es) :
    ∃ left, ((b.handle e).run es).InForce fault left b.rig := by
  induction es using List.reverseRecOn with
  | nil => exact ⟨_, (begins_handle hbegins).inForce⟩
  | append_singleton es e' ih =>
    have hlast := hes e' (List.mem_append_right _ (List.mem_singleton_self e'))
    obtain ⟨left, hforce⟩ := ih (fun x hx => hes x (List.mem_append_left _ hx))
      (fun past hpast => hlasts past (hpast.trans (List.prefix_append es [e'])))
    have hstill := hlasts (es ++ [e']) (List.prefix_refl _)
    rw [run_concat] at hstill ⊢
    by_cases hopens : e'.opensCycle
    · obtain rfl := eq_update_of_opensCycle hopens
      by_cases hleft : left = some 0
      · subst hleft
        rw [(hforce.expires (Bench.opens_update _)).active_eq] at hstill
        exact nomatch hstill
      · exact ⟨_, (hforce.opens (Bench.opens_update _) hleft).1⟩
    · exact ⟨left, (hforce.handle hlast hopens).1⟩

lemma Opens.isSound (hopens : Opens b b') (h : b.rig.IsSound) : b'.rig.IsSound := by
  cases hopens with
  | expires => exact h.disturb {}
  | ages => exact h
  | lasts => exact h
  | begins hidle hdrawn hbegun =>
    rw [hbegun.rig_eq]
    exact h.suffer _
  | passes => exact h

/-- Faults come and go, but the rig stays sound. -/
lemma isSound_handle (h : b.rig.IsSound) (e : Event) : (b.handle e).rig.IsSound := by
  cases e with
  | update => exact b.opens_update.isSound h
  | inject fault duration => exact h.suffer fault
  | clear => exact h.disturb {}
  | setEnabled enabled => exact h
  | use u => exact h.use u

theorem isSound_run (h : b.rig.IsSound) (es : List Event) : (b.run es).rig.IsSound := by
  induction es using List.reverseRecOn with
  | nil => exact h
  | append_singleton es e ih =>
    rw [run_concat]
    exact isSound_handle ih e

/-! ## Readings -/

/-- A rig without faults freezes at its reading exactly if it measures a servo, or by chance. -/
lemma frozenValue_eq_iff {rig : Rig} (hv : rig.measured = v) :
    rig.frozenValue = v ↔ rig.servo?.isSome ∨ v = 0 := by
  unfold Rig.measured at hv
  unfold Rig.frozenValue Rig.servo?
  cases hfeedback : rig.feedback with
  | servo s =>
    rw [hfeedback] at hv
    exact ⟨fun _ => Or.inl rfl, fun _ => hv⟩
  | scripted value =>
    show 0 = v ↔ (none : Option Servo).isSome ∨ v = 0
    simp [eq_comm]

/-- A fault begins on a sensor that had none and read `v`. While it is in force a dropout lets no
read succeed, an offset shifts what would be read without the fault, and a stuck sensor gives the
same value throughout, which is `v` exactly if it measures a servo or `v` is zero. Whenever no fault
is in force the sensor gives what it would without one. -/
theorem readings_under_fault (hsound : b.rig.IsSound) (hclean : b.rig.disturbance = {})
    (hv : b.rig.read.2 = some v) (hbegins : b.begins? e = some (fault, duration))
    (es : List Event) :
    let now := (b.handle e).run es
    ∃ m, now.rig.clearFaults.Reads (some m) ∧
      ((∀ e' ∈ es, e'.interferes = false) → (b.handle e).Lasts es →
        match fault with
        | .dropout => now.rig.Reads none
        | .offset deg => now.rig.Reads (some (saturate (m.toInt + deg.toInt)))
        | .stuck => now.rig.Reads (some b.rig.frozenValue) ∧
            (b.rig.frozenValue = v ↔ b.rig.servo?.isSome ∨ v = 0)) ∧
      (now.injector.active = none → now.rig.Reads (some m)) := by
  intro now
  have hnow : now.rig.IsSound := isSound_run (isSound_handle hsound e) es
  refine ⟨now.rig.measured, (hnow.disturb {}).reads_measured rfl, fun hes hlasts => ?_,
    fun hidle => ?_⟩
  · obtain ⟨left, hforce⟩ := inForce_of_lasts hbegins hes hlasts
    have hreads := hnow.reads hforce.pendingFailures_eq
    rw [hforce.disturbance_eq] at hreads
    cases fault with
    | dropout => exact hreads
    | offset deg => exact hreads
    | stuck =>
      refine ⟨Rig.saturate_add_zero b.rig.frozenValue ▸ hreads, frozenValue_eq_iff ?_⟩
      exact Option.some.inj ((hsound.reads_measured hclean).read_eq.symm.trans hv)
  · have hmatches : now.Matches := matches_run (begins_handle hbegins).matches es
    unfold Matches at hmatches
    rw [hidle] at hmatches
    exact hnow.reads_measured hmatches

/-- A sensor sticks at twelve degrees while its servo moves on to nine, which it reads once it is
cleared. -/
theorem stuck_while_servo_moves :
    let c : Calibration := { Calibration.steering with initialPosition := 120 }
    let b : Bench := ⟨{}, .withServo (.ofCalibration c 60)⟩
    let e : Event := .inject .stuck none
    let es : List Event := [.use .read, .use (.writeDuty 1600), .use .advance, .update]
    let now := (b.handle e).run es
    b.rig.IsSound ∧ b.rig.disturbance = {} ∧ b.rig.read.2 = some 12 ∧
      b.begins? e = some (.stuck, none) ∧ (∀ e' ∈ es, e'.interferes = false) ∧
      (b.handle e).Lasts es ∧ now.rig.Reads (some 12) ∧
      (now.handle .clear).rig.Reads (some 9) := by
  intro c b e es now
  have hsound : b.rig.IsSound :=
    Rig.isSound_withServo (Calibration.validate_eq_ok_iff.mp rfl) 60
  have hv : b.rig.read.2 = some 12 := by decide +kernel
  have hes : ∀ e' ∈ es, e'.interferes = false := by decide
  have hlasts : (b.handle e).Lasts es := by
    have hall : ∀ past ∈ es.inits, ((b.handle e).run past).injector.active.isSome := by
      decide +kernel
    exact fun past hpast => hall past ((List.mem_inits past es).mpr hpast)
  obtain ⟨m, -, hfault, -⟩ := readings_under_fault (e := e) hsound rfl hv rfl es
  obtain ⟨hstuck, hvalue⟩ := hfault hes hlasts
  obtain ⟨m', hfree, -, hcleared⟩ :=
    readings_under_fault (e := e) hsound rfl hv rfl (es ++ [.clear])
  rw [run_concat] at hfree hcleared
  have hnine : (now.handle .clear).rig.clearFaults.read.2 = some 9 := by decide +kernel
  obtain rfl : m' = 9 := Option.some.inj (hfree.read_eq.symm.trans hnine)
  refine ⟨hsound, rfl, hv, rfl, hes, hlasts, ?_, hcleared rfl⟩
  rw [hvalue.mpr (Or.inl rfl)] at hstuck
  exact hstuck

/-- Without a servo a sensor sticks at zero, whatever it measured when the fault began. -/
theorem stuck_without_servo_reads_zero :
    let b : Bench := ⟨{}, .scripted 7⟩
    let after := b.handle (.inject .stuck (some 3))
    b.rig.IsSound ∧ b.rig.disturbance = {} ∧ b.rig.read.2 = some 7 ∧
      after.injector.active.isSome ∧ after.rig.Reads (some 0) := by
  intro b after
  exact ⟨Rig.isSound_scripted 7, rfl, by decide +kernel, rfl, by decide +kernel, rfl⟩

end Bench
end Injector
end FrontZone
