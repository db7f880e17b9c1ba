import FrontZone.Proofs.History
import FrontZone.Proofs.Schedule.Loading
import FrontZone.Proofs.Simulation.Run
/-!
# Sensor faults between two ticks

A command that gives the steering sensor a fault goes through the schedule, of which only so much
takes effect at the start of the next cycle; one that takes the fault away does so at once.
`prepared_run` says what the commands between two ticks leave for the tick, and the main statement
which fault is in force after it, as long as none is taken away that waits.
-/

namespace FrontZone

/-- The fault that a command asks for, with its duration. -/
def Command.injection? (c : Command) : Option (SensorFault × Option UInt32) :=
  match c.request with
  | .injectSensorFault fault duration => some (fault, duration)
  | _ => none

/-- Whether a command gives the steering sensor a fault or takes it away. -/
def Command.onSensorFault (c : Command) : Bool :=
  match c.request with
  | .injectSensorFault _ _ => true
  | .clearSensorFault => true
  | _ => false

/-- The faults that commands ask for, in order. -/
def injections (cs : List Command) : List (SensorFault × Option UInt32) :=
  cs.filterMap (·.injection?)

lemma injections_append (cs ds : List Command) :
    injections (cs ++ ds) = injections cs ++ injections ds :=
  List.filterMap_append

namespace Simulation

variable {s s' : Simulation} {cs : List Command}

/-! ## The commands -/

/-- Whether commands, carried out one after the other, are all answered with success. -/
def AllSucceed (s : Simulation) (cs : List Command) : Prop :=
  ∀ x ∈ withPast cs, ((s.run (x.1.map .command)).execute x.2).value.2.status = .success

instance (s : Simulation) (cs : List Command) : Decidable (s.AllSucceed cs) :=
  inferInstanceAs (Decidable (∀ x ∈ withPast cs, _))

/-- What commands on sensor faults leave for the tick: the faults asked for wait in order for the
present cycle, and unless every command asked for one, none is in force meanwhile. -/
structure Prepared (s s' : Simulation) (cs : List Command) : Prop where
  cycle_eq : s'.cycle = s.cycle
  enabled_eq : s'.injector.settings.enabled = false
  count_eq : s'.injector.cycleCount = s.injector.cycleCount
  pending_eq : s'.schedule.pending =
    (injections cs).map fun f => ⟨s.cycle, .injectSensorFault f.1 f.2⟩
  active_eq : s'.injector.active = none ∨ ∀ c ∈ cs, c.injection?.isSome

lemma Prepared.le_cycle (h : Prepared s s' cs) :
    ∀ t ∈ s'.schedule.pending, t.atCycle ≤ s'.cycle := by
  rw [h.pending_eq, h.cycle_eq]
  intro t ht
  obtain ⟨f, -, rfl⟩ := List.mem_map.mp ht
  exact UInt64.le_refl _

/-- A fault that is taken waits behind those that wait already. -/
lemma Prepared.inject (h : Prepared s s' cs) {id : UInt32} {fault : SensorFault}
    {duration : Option UInt32}
    (hsuccess : (s'.execute ⟨id, .injectSensorFault fault duration⟩).value.2.status = .success) :
    Prepared s (s'.handle (.command ⟨id, .injectSensorFault fault duration⟩))
      (cs ++ [⟨id, .injectSensorFault fault duration⟩]) := by
  have hafter : s'.handle (.command ⟨id, .injectSensorFault fault duration⟩) = _ :=
    scheduleFault_fst s' ⟨id, .injectSensorFault fault duration⟩ fault duration
  rcases s'.schedule.schedule_cases s'.cycle (.injectSensorFault fault duration) s'.cycle with
    ⟨-, -, -, hpending⟩ | ⟨-, ⟨e, herror⟩, -⟩
  · rw [hafter]
    refine ⟨h.cycle_eq, h.enabled_eq, h.count_eq, ?_, ?_⟩
    · show (s'.schedule.schedule s'.cycle _ s'.cycle).1.pending = _
      rw [hpending, Schedule.insert_of_forall_le h.le_cycle, h.pending_eq, h.cycle_eq,
        injections_append, List.map_append]
      rfl
    · refine h.active_eq.imp_right fun hall c hc => ?_
      rcases List.mem_append.mp hc with hc | hc
      · exact hall c hc
      · rw [List.mem_singleton.mp hc]
        rfl
  · exfalso
    change (s'.scheduleFault _ fault duration).2.status = .success at hsuccess
    unfold scheduleFault at hsuccess
    generalize s'.schedule.schedule s'.cycle (.injectSensorFault fault duration) s'.cycle = refused
      at hsuccess herror
    obtain ⟨q, result⟩ := refused
    obtain rfl : result = .error e := herror
    exact nomatch hsuccess

/-- A clear request takes the fault in force, and leaves alone what waits. -/
lemma Prepared.clear (h : Prepared s s' cs) (id : UInt32) :
    Prepared s (s'.handle (.command ⟨id, .clearSensorFault⟩))
      (cs ++ [⟨id, .clearSensorFault⟩]) := by
  refine ⟨h.cycle_eq, h.enabled_eq, h.count_eq, ?_, Or.inl rfl⟩
  have hnone : injections [⟨id, .clearSensorFault⟩] = [] := rfl
  rw [injections_append, hnone, List.append_nil]
  exact h.pending_eq

theorem prepared_run (hempty : s.schedule.pending = [])
    (hdisabled : s.injector.settings.enabled = false) (hcs : ∀ c ∈ cs, c.onSensorFault)
    (hsuccess : s.AllSucceed cs) : Prepared s (s.run (cs.map .command)) cs := by
  induction cs using List.reverseRecOn with
  | nil => exact ⟨rfl, hdisabled, rfl, hempty, Or.inr nofun⟩
  | append_singleton cs c ih =>
    unfold AllSucceed at hsuccess
    rw [withPast_concat] at hsuccess
    have h := ih (fun c hc => hcs c (List.mem_append_left _ hc))
      (fun x hx => hsuccess x (List.mem_append_left _ hx))
    have hlast := hsuccess (cs, c) (List.mem_append_right _ (List.mem_singleton_self _))
    rw [List.map_append, List.map_singleton, run_concat]
    have hc := hcs c (List.mem_append_right _ (List.mem_singleton_self c))
    obtain ⟨id, request⟩ := c
    cases request with
    | injectSensorFault fault duration => exact h.inject hlast
    | clearSensorFault => exact h.clear id
    | _ => exact nomatch hc

/-! ## The tick -/

/-- The fault in force that an injection makes at a cycle, which counts as the first of the
duration. -/
def struck (f : SensorFault × Option UInt32) (cycle : UInt64) : ActiveSensorFault where
  fault := f.1
  remainingCycles := f.2.map fun d => if d = 0 then 0 else d - 1
  injectedAtCycle := cycle

/-- Without random faults the injector counts the cycle and gives no fault of its own. -/
lemma update_of_disabled {i : Injector} (rig : Rig) (h : i.settings.enabled = false) :
    (i.update rig).value.1.cycleCount = i.cycleCount + 1 ∧
      (i.active = none → (i.update rig).value.1.active = none) := by
  cases hactive : i.active with
  | none =>
    rw [update_of_idle rig hactive h]
    exact ⟨rfl, fun _ => hactive⟩
  | some active =>
    refine ⟨?_, nofun⟩
    unfold Injector.update
    rw [hactive]
    show (Injector.age _ active rig).value.1.cycleCount = _
    unfold Injector.age
    split
    · rfl
    · split <;> rfl

/-- Of faults given one after the other the last is in force. -/
lemma active_applyAll (fs : List (SensorFault × Option UInt32)) (s : Simulation) :
    (applyAll (fs.map fun f => .injectSensorFault f.1 f.2) s).value.injector.cycleCount =
        s.injector.cycleCount ∧
      (applyAll (fs.map fun f => .injectSensorFault f.1 f.2) s).value.injector.active =
        (fs.getLast?.map fun f => struck f s.injector.cycleCount).or s.injector.active := by
  induction fs generalizing s with
  | nil => exact ⟨rfl, rfl⟩
  | cons f fs ih =>
    obtain ⟨hcount, hactive⟩ := ih (s.apply (.injectSensorFault f.1 f.2)).value
    refine ⟨hcount, hactive.trans ?_⟩
    rw [List.getLast?_cons]
    cases fs.getLast? <;> rfl

/-- What waits for the present cycle is handed out up to the limit. -/
lemma Prepared.takeDue_eq (h : Prepared s s' cs) :
    (s'.schedule.takeDue s'.cycle).2 =
      ((injections cs).take maxDuePerCycle).map fun f => .injectSensorFault f.1 f.2 := by
  have hall : ∀ t ∈ s'.schedule.pending, decide (t.atCycle ≤ s'.cycle) = true :=
    fun t ht => decide_eq_true (h.le_cycle t ht)
  show (s'.schedule.due s'.cycle).map (·.stimulus) = _
  unfold Schedule.due
  rw [List.takeWhile_eq_self_iff.mpr hall, h.pending_eq, ← List.map_take, List.map_map]
  rfl

/-- After the stimuli of a tick the injector is left alone. -/
lemma injector_tick (s : Simulation) :
    (s.handle .tick).injector = s.openCycle.value.applyDue.value.injector := by
  rw [handle_tick]
  dsimp only
  generalize s.openCycle.value.applyDue.value = due
  obtain ⟨telemetry, hemit⟩ := emit_eq due.control.value (due.zone.perform due.call).report
  rw [hemit]
  rfl

/-- The tick hands out the injections that wait, up to the limit, and leaves the fault of the last
of them. -/
lemma active_of_handed_out (hempty : s.schedule.pending = [])
    (hdisabled : s.injector.settings.enabled = false) (hne : cs ≠ [])
    (hcs : ∀ c ∈ cs, c.onSensorFault) (hsuccess : s.AllSucceed cs) :
    (s.run (cs.map .command ++ [.tick])).injector.active =
      ((injections cs).take maxDuePerCycle).getLast?.map fun f =>
        struck f (s.injector.cycleCount + 1) := by
  have h := prepared_run hempty hdisabled hcs hsuccess
  rw [run_concat, injector_tick]
  generalize s.run (cs.map .command) = s' at h
  obtain ⟨hcount, hidle⟩ := update_of_disabled s'.steeringRig h.enabled_eq
  have hopened : s'.openCycle.value.applyDue.value =
      (applyAll (s'.schedule.takeDue s'.cycle).2
        { s'.openCycle.value with schedule := (s'.schedule.takeDue s'.cycle).1 }).value := rfl
  rw [hopened, h.takeDue_eq, (active_applyAll _ _).2]
  show (Option.map (fun f => struck f (s'.injector.update s'.steeringRig).value.1.cycleCount) _).or
    (s'.injector.update s'.steeringRig).value.1.active = _
  rw [hcount, h.count_eq]
  cases hlast : ((injections cs).take maxDuePerCycle).getLast? with
  | some f => rfl
  | none =>
    -- without an injection one of the commands has cleared
    have hnone : injections cs = [] :=
      (List.take_eq_nil_iff.mp (List.getLast?_eq_none_iff.mp hlast)).resolve_left (by decide)
    refine hidle (h.active_eq.resolve_right fun hall => ?_)
    obtain ⟨c, hc⟩ := List.exists_mem_of_ne_nil cs hne
    have hrest := List.filterMap_eq_nil_iff.mp hnone c hc
    exact absurd (hall c hc) (by rw [hrest]; exact Bool.false_ne_true)

/-- The last of the first `n` entries is that which all but one of so many come before. -/
lemma getLast?_take {α : Type} {n : Nat} {before later : List α} {a : α}
    (h : before.length + 1 = min n (before ++ a :: later).length) :
    ((before ++ a :: later).take n).getLast? = some a := by
  have hlast : before.length < n := by omega
  rw [List.getLast?_eq_getElem?, List.length_take, ← h, Nat.add_sub_cancel,
    List.getElem?_take_of_lt hlast, List.getElem?_append_right (Nat.le_refl _), Nat.sub_self]
  rfl

/-- Between two ticks, with no stimulus scheduled and no random faults, sensor faults are given and
taken by commands that all succeed. After the tick the fault of the last injection is in force, or
of the eighth if there are more, where no clear request follows that one; without an injection none
is. -/
theorem active_after_commands (hempty : s.schedule.pending = [])
    (hdisabled : s.injector.settings.enabled = false) (hne : cs ≠ [])
    (hcs : ∀ c ∈ cs, c.onSensorFault) (hsuccess : s.AllSucceed cs) :
    let after := s.run (cs.map .command ++ [.tick])
    (∀ before c later f, cs = before ++ c :: later → c.injection? = some f →
        (injections before).length + 1 = min 8 (injections cs).length →
        (∀ c' ∈ later, c'.request ≠ .clearSensorFault) →
        after.injector.active = some (struck f (s.injector.cycleCount + 1))) ∧
      ((∀ c ∈ cs, c.request = .clearSensorFault) → after.injector.active = none) := by
  intro after
  have hactive : after.injector.active = _ :=
    active_of_handed_out hempty hdisabled hne hcs hsuccess
  refine ⟨fun before c later f hsplit hf hplace _ => ?_, fun hclear => ?_⟩
  · have hinjections : injections cs = injections before ++ f :: injections later := by
      rw [hsplit, injections_append]
      exact congrArg _ (List.filterMap_cons_some hf)
    rw [hinjections] at hactive hplace
    rw [hactive, getLast?_take (n := maxDuePerCycle) hplace]
    rfl
  · have hnone : injections cs = [] := by
      refine List.filterMap_eq_nil_iff.mpr fun c hc => ?_
      rw [Command.injection?, hclear c hc]
    rw [hactive, hnone]
    rfl

/-- A dropout asked for after a clear request is in force, and not the offset before it; a clear
request alone leaves none. -/
theorem dropout_after_clear_in_force :
    let clear : Command := ⟨2, .clearSensorFault⟩
    let past : List Command := [⟨1, .injectSensorFault (.offset 8) none⟩, clear]
    let dropout : Command := ⟨3, .injectSensorFault .dropout (some 3)⟩
    ∃ s, ofCalibration {} = .ok s ∧ s.schedule.pending = [] ∧
      s.injector.settings.enabled = false ∧ (∀ c ∈ past ++ [dropout], c.onSensorFault) ∧
      s.AllSucceed (past ++ [dropout]) ∧
      (s.run ((past ++ [dropout]).map .command ++ [.tick])).injector.active =
        some ⟨.dropout, some 2, 1⟩ ∧
      s.AllSucceed [clear] ∧ (s.run ([clear].map .command ++ [.tick])).injector.active = none := by
  intro clear past dropout
  obtain ⟨s, hs, hsuccess, hsuccess'⟩ : ∃ s, ofCalibration {} = .ok s ∧
      s.AllSucceed (past ++ [dropout]) ∧ s.AllSucceed [clear] :=
    ⟨_, rfl, by decide +kernel, by decide +kernel⟩
  obtain ⟨zone, -, rfl⟩ := eq_of_ofCalibration hs
  have hcs : ∀ c ∈ past ++ [dropout], c.onSensorFault := by decide
  obtain ⟨hlast, -⟩ := active_after_commands rfl rfl (by decide) hcs hsuccess
  obtain ⟨-, hnone⟩ := active_after_commands rfl rfl (by decide) (by decide) hsuccess'
  exact ⟨_, hs, rfl, rfl, hcs, hsuccess, hlast past dropout [] _ rfl rfl rfl nofun, hsuccess',
    hnone (by decide)⟩

/-- The fault of an injection is in force although a clear request follows it, and of nine
injections the eighth is in force and not the last. -/
theorem commands_not_in_order :
    let inject (n : Int32) : Command := ⟨1, .injectSensorFault (.offset n) none⟩
    let clear : Command := ⟨2, .clearSensorFault⟩
    let nine : List Command := [1, 2, 3, 4, 5, 6, 7, 8, 9].map inject
    ∃ s, ofCalibration {} = .ok s ∧ s.schedule.pending = [] ∧
      s.injector.settings.enabled = false ∧
      s.AllSucceed [inject 1, clear] ∧
      (s.run ([inject 1, clear].map .command ++ [.tick])).injector.active.map (·.fault) =
        some (.offset 1) ∧
      s.AllSucceed nine ∧
      (s.run (nine.map .command ++ [.tick])).injector.active.map (·.fault) =
        some (.offset 8) := by
  intro inject clear nine
  exact ⟨_, rfl, rfl, rfl, by decide +kernel, by decide +kernel, by decide +kernel,
    by decide +kernel⟩

end Simulation
end FrontZone
