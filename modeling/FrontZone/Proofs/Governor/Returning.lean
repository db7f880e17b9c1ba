import FrontZone.Proofs.Approach
import FrontZone.Proofs.Governor.Crossing
/-!
# Returning to the safe value

Where a stale command is answered with a ramp, a cycle that reports it with the latch open has gone
down the ramp, whatever its command (`position_of_timeout`). Such cycles on end make one way toward
the safe value, as long as all their steps and cut off there; how far the slew limit would have let
the position go does not come into it.
-/

namespace FrontZone
namespace Governor

variable {c : Calibration} {s : State} {g : Governor} {k : Call} {ks : List Call} {rate : Int32}

/-! ## One cycle -/

/-- An open latch and a reported timeout mean that a stale command was found in this cycle. -/
lemma isStale_of_timeout (hramp : c.failSafe = .ramp rate) (ho : ¬ k.inputs.isOverride)
    (hopen : (k.outcome c s).state.latch.state = .normal)
    (hfault : (k.outcome c s).state.fault = .cmdTimeout) : (k.findings c s).isStale c = true := by
  have hengaged : (k.outcome c s).state.latch.isEngaged = false := by
    unfold Latch.isEngaged
    rw [hopen]
    rfl
  have htimeout : (k.outcome c s).state.timeoutActive = true := by
    unfold State.fault at hfault
    rw [hengaged, if_neg Bool.false_ne_true] at hfault
    by_contra hnot
    rw [if_neg hnot] at hfault
    exact nomatch hfault
  rwa [state_of_governed ho, governedState_eq, hramp] at htimeout

/-- A cycle that reports a timeout with the latch open goes down the ramp. -/
theorem position_of_timeout (hramp : c.failSafe = .ramp rate) (ho : ¬ k.inputs.isOverride)
    (hfault : (k.outcome c s).report.fault = .cmdTimeout)
    (hlatch : (k.outcome c s).report.latch = .normal) :
    (k.outcome c s).state.position = rampToward s.position c.safeValue rate := by
  obtain ⟨-, -, hreported, -, hstate⟩ := report_eq_state c s k
  rw [hreported] at hfault
  rw [hstate] at hlatch
  rw [position_of_open ho hlatch, isStale_of_timeout hramp ho hlatch hfault]
  unfold nextPosition
  rw [hramp]

/-! ## Cycles on end -/

/-- Governed updates that all report a stale command with the latch open. -/
def TimedOut (c : Calibration) (s : State) (ks : List Call) : Prop :=
  Throughout (fun k => ¬ k.inputs.isOverride)
    (fun report => report.fault = .cmdTimeout ∧ report.latch = .normal) c s ks

/-- Their steps add up. -/
theorem TimedOut.position_eq (hramp : c.failSafe = .ramp rate) (hr : 0 ≤ rate.toInt)
    (h : TimedOut c s ks) :
    (s.run c ks).position.toInt =
      approach s.position.toInt c.safeValue.toInt (ks.length * rate.toInt) := by
  induction ks using List.reverseRecOn with
  | nil =>
    rw [List.length_nil, Int.natCast_zero, Int.zero_mul, approach_zero]
    rfl
  | append_singleton ks k ih =>
    obtain ⟨ho, hfault, hlatch⟩ := h.last
    rw [State.run_concat, position_of_timeout hramp ho hfault hlatch,
      toInt_rampToward_eq_approach _ _ hr, ih h.of_append, approach_succ hr, List.length_append,
      List.length_singleton]

/-- After any run of updates and restarts, governed updates that report a stale command with the
latch open move the position toward the safe value by the rate each, and not past it: it is there
exactly once their number is enough for the way. -/
theorem ramp_returns {start : Option Calibration} (hg : init start = .ok g) (rs : List Request)
    (hact : (g.run rs).active = some ⟨c, s⟩) (hramp : c.failSafe = .ramp rate) (ks : List Call)
    (hks : ∀ k ∈ ks, ¬ k.inputs.isOverride)
    (hreports : ∀ report ∈ (g.run rs).reports ks,
      report.fault = .cmdTimeout ∧ report.latch = .normal) :
    let after (n : Nat) := s.run c (ks.take n)
    let way := distance s.position c.safeValue
    (∀ n, (g.run (rs ++ (ks.take n).map .update)).active = some ⟨c, after n⟩) ∧
      ∀ n ≤ ks.length,
        (after n).position.toInt = s.position.toInt +
            (c.safeValue.toInt - s.position.toInt).sign * min (n * rate.toInt) way ∧
          ((after n).position = c.safeValue ↔ way ⌈/⌉ rate.toInt.toNat ≤ n) ∧
          ¬ Crosses c.safeValue s.position (after n).position := by
  intro after way
  obtain ⟨hv, -⟩ := consistent_run (consistent_of_init hg) rs c s hact
  have hr := ramp_toInt_pos hv hramp
  rw [reports_of_active hact] at hreports
  have htimed : TimedOut c s ks := ⟨hks, hreports⟩
  refine ⟨fun n => ?_, fun n hn => ?_⟩
  · rw [run, List.foldl_append]
    exact run_updates hact (ks.take n)
  have hreach : 0 ≤ (n : Int) * rate.toInt := Int.mul_nonneg (Int.natCast_nonneg n) hr.le
  have hposition : (after n).position.toInt =
      approach s.position.toInt c.safeValue.toInt (n * rate.toInt) := by
    have htaken : TimedOut c s (ks.take n) := htimed.take n
    have h := htaken.position_eq hramp hr.le
    rwa [List.length_take_of_le hn] at h
  refine ⟨?_, ?_, ?_⟩
  · rw [hposition, approach_eq_sign_mul hreach, natAbs_sub_eq_distance]
  · rw [← Int32.toInt_inj, hposition, approach_steps_iff hr, natAbs_sub_eq_distance]
  · have hbetween := add_clampInt_between s.position.toInt c.safeValue.toInt hreach
    rw [crosses_iff, hposition]
    unfold approach
    omega

/-- A steering command of one degree goes stale with its tenth repetition; from there the ramp takes
four cycles to the middle, the last of them a short one, and a fifth stays there. -/
theorem degree_ramped_back :
    let c := Calibration.steering
    let g : Governor := ⟨some ⟨c, .initial c⟩⟩
    let call : Call := ⟨{ command := 1 }, .scripted 0, {}⟩
    let before := List.replicate 9 call
    let ks := List.replicate 5 call
    let s := (State.initial c).run c before
    init (some c) = .ok g ∧ (g.run (before.map .update)).active = some ⟨c, s⟩ ∧
      c.failSafe = .ramp 3 ∧ (∀ k ∈ ks, ¬ k.inputs.isOverride) ∧
      (∀ report ∈ (g.run (before.map .update)).reports ks,
        report.fault = .cmdTimeout ∧ report.latch = .normal) ∧
      s.position = 10 ∧ (s.run c (ks.take 3)).position.toInt = 1 ∧
      (s.run c (ks.take 4)).position = c.safeValue ∧
      (s.run c (ks.take 5)).position = c.safeValue := by
  intro c g call before ks s
  have hg : init (some c) = .ok g := rfl
  have hact : (g.run (before.map .update)).active = some ⟨c, s⟩ := run_updates rfl before
  have hks : ∀ k ∈ ks, ¬ k.inputs.isOverride := by
    intro k hk
    rw [List.eq_of_mem_replicate hk]
    exact Bool.false_ne_true
  have hreports : ∀ report ∈ (g.run (before.map .update)).reports ks,
      report.fault = .cmdTimeout ∧ report.latch = .normal := by
    rw [reports_of_active hact]
    decide +kernel
  have hstart : s.position = 10 := by decide +kernel
  obtain ⟨-, hreturns⟩ := ramp_returns hg (before.map .update) hact rfl ks hks hreports
  obtain ⟨hthird, -, -⟩ := hreturns 3 (by decide)
  obtain ⟨-, hfourth, -⟩ := hreturns 4 (by decide)
  obtain ⟨-, hfifth, -⟩ := hreturns 5 (by decide)
  rw [hstart] at hthird hfourth hfifth
  exact ⟨hg, hact, rfl, hks, hreports, hstart, hthird.trans (by decide), hfourth.mpr (by decide),
    hfifth.mpr (by decide)⟩

end Governor
end FrontZone
