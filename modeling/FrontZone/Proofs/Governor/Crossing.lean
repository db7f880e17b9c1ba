import FrontZone.Proofs.Governor.SafeOutput
import FrontZone.Proofs.Latch
/-!
# Crossing the safe value

The slew limit compares distances from the safe value and not sides. A command on the other side of
the safe value is held back if it lies farther out than the position, and the position then ends
within one limit of the safe value; a command that lies no farther out counts as a retreat and is
reached at once, whatever the limit. Nothing else brings the position across: the ramp stops at the
safe value and the latch does not open in a cycle with a fault.
-/

namespace FrontZone

/-- Whether a move from `before` to `after` passes from one side of `safe` to the other. -/
def Crosses (safe before after : Int32) : Prop :=
  before < safe ∧ safe < after ∨ after < safe ∧ safe < before

instance (safe before after : Int32) : Decidable (Crosses safe before after) :=
  inferInstanceAs (Decidable (_ ∨ _))

lemma crosses_iff {safe before after : Int32} :
    Crosses safe before after ↔
      before.toInt < safe.toInt ∧ safe.toInt < after.toInt ∨
        after.toInt < safe.toInt ∧ safe.toInt < before.toInt := by
  simp only [Crosses, Int32.lt_iff_toInt_lt]

/-! ## One move -/

/-- A move that crosses under the slew limit ends within the limit, unless the target is no farther
out than the position; then it ends at the target. -/
lemma rateLimit_cross {position target safe limit : Int32} (hl : 0 ≤ limit.toInt)
    (hcross : Crosses safe position (rateLimit position target safe limit)) :
    (distance target safe ≤ distance position safe →
        rateLimit position target safe limit = target) ∧
      (distance position safe < distance target safe →
        (distance (rateLimit position target safe limit) safe : Int) ≤ limit.toInt) := by
  refine ⟨fun hnear => rateLimit_of_near hnear limit, fun hfar => ?_⟩
  -- the step starts on the other side, so what is left of the limit beyond the safe value is less
  have hstep := distance_rateLimit_of_far hl hfar
  rw [crosses_iff] at hcross
  unfold distance at hstep ⊢
  omega

/-- The ramp does not pass the safe value. -/
lemma not_crosses_rampToward (position safe : Int32) {rate : Int32} (hr : 0 ≤ rate.toInt) :
    ¬ Crosses safe position (rampToward position safe rate) := by
  have hexact := toInt_rampToward position safe hr
  rw [crosses_iff, hexact]
  split <;> omega

namespace Governor

variable {c : Calibration} {s : State} {g : Governor} {k : Call}

/-! ## One cycle -/

/-- A fault-free cycle has accepted its command. -/
lemma accepted_of_condition_none (h : (k.findings c s).condition c = none) :
    (k.findings c s).accepted = some (c.toInternal k.inputs.command) := by
  have hsome : (k.findings c s).accepted.isSome := by
    by_contra hnone
    rw [Bool.not_eq_true, Option.isSome_eq_false_iff] at hnone
    unfold Findings.condition at h
    rw [if_pos hnone] at h
    split at h <;> exact nomatch h
  exact if_pos (isSome_accept_iff.mp hsome)

/-- The latch is open after a governed cycle only if the cycle was free of faults. -/
lemma condition_eq_none_of_open (ho : ¬ k.inputs.isOverride)
    (h : (k.outcome c s).state.latch.state = .normal) : (k.findings c s).condition c = none := by
  rw [state_of_governed ho, governedState_eq] at h
  cases hcondition : (k.findings c s).condition c with
  | none => rfl
  | some fault =>
    obtain ⟨level, hfaulted⟩ := (Latch.step_faulted_iff (l := s.latch)).mpr hcondition
    rw [h] at hfaulted
    exact nomatch hfaulted

/-- With the latch open a governed cycle moves the position by its two rules alone. -/
lemma position_of_open (ho : ¬ k.inputs.isOverride)
    (h : (k.outcome c s).state.latch.state = .normal) :
    (k.outcome c s).state.position =
      nextPosition c s.position (some (c.toInternal k.inputs.command))
        ((k.findings c s).isStale c) := by
  have haccepted := accepted_of_condition_none (condition_eq_none_of_open ho h)
  rw [state_of_governed ho, governedState_eq] at h ⊢
  dsimp only at h ⊢
  rw [if_neg (by simp [Latch.isEngaged, h]), haccepted]

/-- A position that crosses has moved under the slew limit. -/
lemma nextPosition_cross (hv : c.IsValid) {position target : Int32} {stale : Bool}
    (hcross : Crosses c.safeValue position (nextPosition c position (some target) stale)) :
    nextPosition c position (some target) stale =
      rateLimit position target c.safeValue c.rateLimit := by
  unfold nextPosition at hcross ⊢
  split at hcross
  · next rate hramp =>
    have hr := (ramp_toInt_pos hv hramp).le
    exact absurd hcross (not_crosses_rampToward position c.safeValue hr)
  · rfl

/-! ## Any cycle of any run -/

/-- After any run, a governed update that leaves the latch open and crosses the safe value ends
within one limit of it if its command lies farther out than the position was, and at its command
otherwise. -/
theorem crossing_limited_or_commanded {start : Calibration} (hg : init (some start) = .ok g)
    (rs : List Request) (hact : (g.run rs).active = some ⟨c, s⟩) (k : Call)
    (ho : ¬ k.inputs.isOverride) :
    let target := c.toInternal k.inputs.command
    ∃ report, ((g.run rs).perform k).report = .ok report ∧
      (report.latch = .normal → Crosses c.safeValue s.position report.position →
        (distance target c.safeValue ≤ distance s.position c.safeValue →
            report.position = target) ∧
          (distance s.position c.safeValue < distance target c.safeValue →
            (distance report.position c.safeValue : Int) ≤ c.rateLimit.toInt)) := by
  intro target
  obtain ⟨hv, -⟩ := consistent_run (consistent_of_init hg) rs c s hact
  obtain ⟨hposition, -, -, -, hlatch⟩ := report_eq_state c s k
  refine ⟨(k.outcome c s).report, by rw [perform_of_active hact], fun hopen hcross => ?_⟩
  rw [hlatch] at hopen
  rw [hposition, position_of_open ho hopen] at hcross ⊢
  have hmoved := nextPosition_cross hv hcross
  rw [hmoved] at hcross ⊢
  exact rateLimit_cross (rateLimit_toInt_pos hv).le hcross

/-- A steering position of 1 that follows a command of -20 passes zero by less than the limit. -/
theorem crossing_to_farther_command :
    let c := Calibration.steering
    let g : Governor := ⟨some ⟨c, .initial c⟩⟩
    let call (command : Int32) : Call := ⟨{ command }, .scripted 0, {}⟩
    let ks := List.replicate 4 (call 1) ++ List.replicate 3 (call (-2))
    let k := call (-2)
    init (some c) = .ok g ∧ ¬ k.inputs.isOverride ∧
      ∃ s report, (g.run (ks.map .update)).active = some ⟨c, s⟩ ∧
        ((g.run (ks.map .update)).perform k).report = .ok report ∧ report.latch = .normal ∧
        Crosses c.safeValue s.position report.position ∧
        distance s.position c.safeValue < distance (c.toInternal k.inputs.command) c.safeValue ∧
        (distance report.position c.safeValue : Int) ≤ c.rateLimit.toInt := by
  intro c g call ks k
  have hg : init (some c) = .ok g := rfl
  have hact : (g.run (ks.map .update)).active = some ⟨c, (State.initial c).run c ks⟩ :=
    run_updates rfl ks
  have ho : ¬ k.inputs.isOverride := Bool.false_ne_true
  have hperform : ((g.run (ks.map .update)).perform k).report =
      .ok (k.outcome c ((State.initial c).run c ks)).report := by rw [perform_of_active hact]
  obtain ⟨report, hreport, hcrossing⟩ := crossing_limited_or_commanded hg _ hact k ho
  have hsame : report = (k.outcome c ((State.initial c).run c ks)).report :=
    Except.ok.inj (hreport.symm.trans hperform)
  have hopen : (k.outcome c ((State.initial c).run c ks)).report.latch = .normal := by
    decide +kernel
  have hcross : Crosses c.safeValue ((State.initial c).run c ks).position
      (k.outcome c ((State.initial c).run c ks)).report.position := by decide +kernel
  have hfar : distance ((State.initial c).run c ks).position c.safeValue <
      distance (c.toInternal k.inputs.command) c.safeValue := by decide +kernel
  rw [hsame] at hcrossing
  obtain ⟨-, hwithin⟩ := hcrossing hopen hcross
  exact ⟨rfl, ho, _, _, hact, hperform, hopen, hcross, hfar, hwithin hfar⟩

/-- A steering position of 10 that is given a command of -10 lands there at once, more than three
times the limit beyond zero. -/
theorem crossing_past_the_limit :
    let c := Calibration.steering
    let g : Governor := ⟨some ⟨c, .initial c⟩⟩
    let call (command : Int32) : Call := ⟨{ command }, .scripted 0, {}⟩
    let ks := List.replicate 4 (call 1)
    let k := call (-1)
    init (some c) = .ok g ∧ ¬ k.inputs.isOverride ∧
      ∃ s report, (g.run (ks.map .update)).active = some ⟨c, s⟩ ∧
        ((g.run (ks.map .update)).perform k).report = .ok report ∧ report.latch = .normal ∧
        Crosses c.safeValue s.position report.position ∧
        ¬ (distance report.position c.safeValue : Int) ≤ c.rateLimit.toInt := by
  intro c g call ks k
  have hact : (g.run (ks.map .update)).active = some ⟨c, (State.initial c).run c ks⟩ :=
    run_updates rfl ks
  have hperform : ((g.run (ks.map .update)).perform k).report =
      .ok (k.outcome c ((State.initial c).run c ks)).report := by rw [perform_of_active hact]
  exact ⟨rfl, Bool.false_ne_true, _, _, hact, hperform, by decide +kernel, by decide +kernel,
    by decide +kernel⟩

end Governor
end FrontZone
