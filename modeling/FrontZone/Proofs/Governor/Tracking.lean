import FrontZone.Proofs.Governor.Crossing
import FrontZone.Proofs.Governor.TroubleCodes
/-!
# Following a command

A governed cycle that reports no fault moves the position toward its command under the slew limit
(`position_of_noFault`). A jump ends at the command and a limited step brings it nearer by the
limit, so a command that is kept is reached no later than by steps of the limit alone, however the
two mix.
-/

namespace FrontZone

/-! ## One move -/

section Move
variable (position target safe : Int32) {limit : Int32}

/-- A move ends at the target or nearer to it by the limit. -/
lemma distance_rateLimit_le (hl : 0 ≤ limit.toInt) :
    (distance target (rateLimit position target safe limit) : Int) ≤
      max 0 (distance target position - limit.toInt) := by
  by_cases hnear : distance target safe ≤ distance position safe
  · rw [rateLimit_of_near hnear, distance]
    omega
  · unfold distance
    rw [toInt_rateLimit_of_far hl (Nat.lt_of_not_le hnear)]
    unfold clampInt
    split <;> [skip; split] <;> omega

/-- No move leads farther from the safe value than by the limit. -/
lemma distance_safe_rateLimit_le (hl : 0 ≤ limit.toInt) :
    (distance (rateLimit position target safe limit) safe : Int) ≤
      distance position safe + limit.toInt := by
  by_cases hnear : distance target safe ≤ distance position safe
  · rw [rateLimit_of_near hnear]
    omega
  · have hstep := distance_rateLimit_of_far hl (Nat.lt_of_not_le hnear)
    unfold distance at hstep ⊢
    omega

end Move

namespace Governor

variable {c : Calibration} {s : State} {g : Governor} {k : Call}

/-! ## One cycle -/

/-- A governed cycle that reports no fault follows its command under the slew limit. -/
theorem position_of_noFault (ha : Accounts c s.latch s.episode) (ho : ¬ k.inputs.isOverride)
    (hfault : (k.outcome c s).report.fault = .noFault) :
    (k.outcome c s).state.position =
      rateLimit s.position (c.toInternal k.inputs.command) c.safeValue c.rateLimit := by
  obtain ⟨-, -, hreported, -, -⟩ := report_eq_state c s k
  have hpassed := not_fails_of_noFault (accounts_outcome ha k) (hreported.symm.trans hfault)
  -- neither does the latch hold a fault nor is a stale command reported
  have hopen : (k.outcome c s).state.latch.state = .normal := by
    have hsummary := hpassed .summary
    simpa [State.fails, holds, Latch.isEngaged] using hsummary
  have htimeout : (k.outcome c s).state.timeoutActive = false := by
    have hstale := hpassed (.kind .cmdTimeout)
    simp [State.fails] at hstale
    exact hstale.2
  rw [position_of_open ho hopen]
  unfold nextPosition
  split
  · next rate hramp hstale =>
    rw [state_of_governed ho, governedState_eq, hramp] at htimeout
    exact absurd (hstale.symm.trans htimeout) (by decide)
  · rfl

/-- Wherever a governor runs, the faults of its episode account for what its latch holds. -/
lemma accounts_of_init {start : Calibration} (hg : init (some start) = .ok g) (rs : List Request) :
    (g.run rs).Satisfies fun c s => Accounts c s.latch s.episode :=
  satisfies_run (P := fun c s => Accounts c s.latch s.episode) (fun _ => accounts_initial _)
    (fun _ h k => accounts_outcome h k) (satisfies_of_init (fun _ => accounts_initial _) hg) rs

/-! ## A command that is kept -/

/-- Updates in which one command is given and no fault reported. -/
structure Unopposed (c : Calibration) (s : State) (command : Int32) (ks : List Call) : Prop where
  governed : ∀ k ∈ ks, ¬ k.inputs.isOverride
  command_eq : ∀ k ∈ ks, k.inputs.command = command
  fault_eq : ∀ report ∈ s.reports c ks, report.fault = .noFault

variable {command : Int32} {ks : List Call}

lemma accounts_run (ha : Accounts c s.latch s.episode) (ks : List Call) :
    Accounts c (s.run c ks).latch (s.run c ks).episode := by
  induction ks using List.reverseRecOn with
  | nil => exact ha
  | append_singleton ks k ih =>
    rw [State.run_concat]
    exact accounts_outcome ih k

lemma unopposed_iff :
    Unopposed c s command ks ↔
      Throughout (fun k => ¬ k.inputs.isOverride ∧ k.inputs.command = command)
        (fun report => report.fault = .noFault) c s ks := by
  constructor
  · intro h
    exact ⟨fun k hk => ⟨h.governed k hk, h.command_eq k hk⟩, h.fault_eq⟩
  · intro h
    exact ⟨fun k hk => (h.calls k hk).1, fun k hk => (h.calls k hk).2, h.reports⟩

lemma Unopposed.of_append {ks' : List Call} (h : Unopposed c s command (ks ++ ks')) :
    Unopposed c s command ks :=
  unopposed_iff.mpr (unopposed_iff.mp h).of_append

lemma Unopposed.take (h : Unopposed c s command ks) (n : Nat) :
    Unopposed c s command (ks.take n) :=
  unopposed_iff.mpr ((unopposed_iff.mp h).take n)

/-- Each of these updates moves the position under the slew limit. -/
lemma Unopposed.position_concat (ha : Accounts c s.latch s.episode)
    (h : Unopposed c s command (ks ++ [k])) :
    (s.run c (ks ++ [k])).position =
      rateLimit (s.run c ks).position (c.toInternal command) c.safeValue c.rateLimit := by
  obtain ⟨⟨ho, hcommand⟩, hfault⟩ := (unopposed_iff.mp h).last
  rw [State.run_concat, position_of_noFault (accounts_run ha ks) ho hfault, hcommand]

section Unopposed
variable (hv : c.IsValid) (ha : Accounts c s.latch s.episode)

include hv ha in
/-- The way that is left shrinks by the limit in every update until it is nothing. -/
theorem Unopposed.distance_le (h : Unopposed c s command ks) :
    (distance (c.toInternal command) (s.run c ks).position : Int) ≤
      max 0 (distance (c.toInternal command) s.position - ks.length * c.rateLimit.toInt) := by
  have hl : 0 ≤ c.rateLimit.toInt := (rateLimit_toInt_pos hv).le
  induction ks using List.reverseRecOn with
  | nil =>
    show (distance (c.toInternal command) s.position : Int) ≤ _
    simp
  | append_singleton ks k ih =>
    have hbefore := ih h.of_append
    have hmove :=
      distance_rateLimit_le (s.run c ks).position (c.toInternal command) c.safeValue hl
    rw [h.position_concat ha, List.length_append, List.length_singleton, Int.natCast_add,
      Int.natCast_one, Int.add_mul, Int.one_mul]
    omega

include ha in
/-- A command no farther from the safe value than the position at the start is reached at once and
then held. -/
theorem Unopposed.position_of_near (h : Unopposed c s command ks) (hne : ks ≠ [])
    (hnear : distance (c.toInternal command) c.safeValue ≤ distance s.position c.safeValue) :
    (s.run c ks).position = c.toInternal command := by
  induction ks using List.reverseRecOn with
  | nil => exact absurd rfl hne
  | append_singleton ks k ih =>
    rw [h.position_concat ha]
    refine rateLimit_of_near ?_ _
    by_cases hstart : ks = []
    · rw [hstart]
      exact hnear
    · rw [ih h.of_append hstart]

end Unopposed

/-- After any run of updates and restarts, governed updates with one command that report no fault
bring the position to the command: what is left of the way shrinks by the limit in every update, a
command no farther from the safe value than the start is reached in the first, and none of them
leads farther from the safe value than by the limit. -/
theorem command_tracked {start : Calibration} (hg : init (some start) = .ok g) (rs : List Request)
    (hact : (g.run rs).active = some ⟨c, s⟩) (command : Int32) (ks : List Call)
    (hks : ∀ k ∈ ks, ¬ k.inputs.isOverride ∧ k.inputs.command = command)
    (hquiet : ∀ report ∈ (g.run rs).reports ks, report.fault = .noFault) :
    let target := c.toInternal command
    let after (n : Nat) := s.run c (ks.take n)
    (∀ n, (g.run (rs ++ (ks.take n).map .update)).active = some ⟨c, after n⟩) ∧
      ∀ n ≤ ks.length,
        (distance target (after n).position : Int) ≤
            max 0 (distance target s.position - n * c.rateLimit.toInt) ∧
          (distance target s.position ≤ n * c.rateLimit.toInt → (after n).position = target) ∧
          (0 < n → distance target c.safeValue ≤ distance s.position c.safeValue →
            (after n).position = target) ∧
          (n < ks.length →
            (distance (after (n + 1)).position c.safeValue : Int) ≤
              distance (after n).position c.safeValue + c.rateLimit.toInt) := by
  intro target after
  obtain ⟨hv, ha⟩ := accounts_of_init hg rs c s hact
  rw [reports_of_active hact] at hquiet
  have hkept : Unopposed c s command ks :=
    ⟨fun k hk => (hks k hk).1, fun k hk => (hks k hk).2, hquiet⟩
  have hl := rateLimit_toInt_pos hv
  refine ⟨fun n => ?_, fun n hn => ?_⟩
  · rw [run, List.foldl_append]
    exact run_updates hact (ks.take n)
  have hlength : (ks.take n).length = n := List.length_take_of_le hn
  have hleft : (distance target (after n).position : Int) ≤
      max 0 (distance target s.position - n * c.rateLimit.toInt) := by
    have h := (hkept.take n).distance_le hv ha
    rwa [hlength] at h
  refine ⟨hleft, fun hlong => ?_, fun hpos hnear => ?_, fun hlt => ?_⟩
  · have hthere : distance target (after n).position = 0 := by omega
    unfold distance at hthere
    exact Int32.toInt_inj.mp (by omega)
  · exact (hkept.take n).position_of_near ha (List.ne_nil_of_length_pos (by omega)) hnear
  · have hnext : ks.take n ++ [ks[n]] = ks.take (n + 1) := List.take_append_getElem hlt
    have hmove : (after (n + 1)).position =
        rateLimit (after n).position target c.safeValue c.rateLimit := by
      show (s.run c (ks.take (n + 1))).position = _
      rw [← hnext]
      exact (hnext ▸ hkept.take (n + 1)).position_concat ha
    rw [hmove]
    exact distance_safe_rateLimit_le _ _ _ hl.le

/-- From nine tenths of a degree to the left, a command of one degree to the right is reached in
seven updates. -/
theorem degree_reached_from_other_side :
    let c := Calibration.steering
    let g : Governor := ⟨some ⟨c, .initial c⟩⟩
    let call (command : Int32) : Call := ⟨{ command }, .scripted 0, {}⟩
    let before := List.replicate 3 (call (-1))
    let ks := List.replicate 7 (call 1)
    let s := (State.initial c).run c before
    init (some c) = .ok g ∧ (g.run (before.map .update)).active = some ⟨c, s⟩ ∧
      (∀ k ∈ ks, ¬ k.inputs.isOverride ∧ k.inputs.command = 1) ∧
      (∀ report ∈ (g.run (before.map .update)).reports ks, report.fault = .noFault) ∧
      s.position.toInt = -9 ∧ (s.run c (ks.take 7)).position = c.toInternal 1 := by
  intro c g call before ks s
  have hact : (g.run (before.map .update)).active = some ⟨c, s⟩ := run_updates rfl before
  have hks : ∀ k ∈ ks, ¬ k.inputs.isOverride ∧ k.inputs.command = 1 := by
    intro k hk
    rw [List.eq_of_mem_replicate hk]
    exact ⟨Bool.false_ne_true, rfl⟩
  have hquiet : ∀ report ∈ (g.run (before.map .update)).reports ks, report.fault = .noFault := by
    rw [reports_of_active hact]
    decide +kernel
  have hlong : (distance (c.toInternal 1) s.position : Int) ≤ (7 : Nat) * c.rateLimit.toInt := by
    decide +kernel
  have hg : init (some c) = .ok g := rfl
  obtain ⟨-, htracked⟩ := command_tracked hg (before.map .update) hact 1 ks hks hquiet
  exact ⟨hg, hact, hks, hquiet, by decide +kernel, (htracked 7 (by decide)).2.1 hlong⟩

end Governor
end FrontZone
