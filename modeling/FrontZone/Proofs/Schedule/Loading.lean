import FrontZone.Schedule
import Mathlib.Data.List.Perm.Basic
import Mathlib.Data.List.TakeWhile
/-!
# Loading a schedule

A submission is taken, found to be in the past, or finds the queue full; `schedule_of_room`,
`schedule_of_past` and `schedule_of_full` say what each comes to. A script is submitted one stimulus
after the other, so a refusal in its middle leaves what was taken before: `pending_load_of_ok` and
`pending_load_iff` say what a load adds when it succeeds, and when it adds nothing. No script is
longer than four hundred cycles, so all this goes for `load?` as long as it starts that much before
the last cycle of all (`load?_eq`).
-/

namespace FrontZone
namespace Schedule

variable {q : Schedule} {atCycle now start : UInt64} {stimulus : Stimulus}

/-! ## Insertion -/

/-- A stimulus goes behind those that are due no later. -/
lemma insert_eq (s : ScheduledStimulus) (pending : List ScheduledStimulus) :
    insert s pending =
      pending.takeWhile (·.atCycle ≤ s.atCycle) ++
        s :: pending.dropWhile (·.atCycle ≤ s.atCycle) := by
  induction pending with
  | nil => rfl
  | cons t rest ih =>
    unfold insert
    simp only [List.takeWhile_cons, List.dropWhile_cons]
    by_cases h : t.atCycle ≤ s.atCycle
    · rw [if_pos h, if_pos (decide_eq_true h), if_pos (decide_eq_true h), ih, List.cons_append]
    · rw [if_neg h, decide_eq_false h]
      rfl

/-- Behind all others if none is due later. -/
lemma insert_of_forall_le {s : ScheduledStimulus} {pending : List ScheduledStimulus}
    (h : ∀ t ∈ pending, t.atCycle ≤ s.atCycle) : insert s pending = pending ++ [s] := by
  have hall : ∀ t ∈ pending, decide (t.atCycle ≤ s.atCycle) = true :=
    fun t ht => decide_eq_true (h t ht)
  rw [insert_eq, List.takeWhile_eq_self_iff.mpr hall, List.dropWhile_eq_nil_iff.mpr hall]

lemma perm_insert (s : ScheduledStimulus) (pending : List ScheduledStimulus) :
    (insert s pending).Perm (s :: pending) := by
  rw [insert_eq]
  refine List.perm_middle.trans ?_
  rw [List.takeWhile_append_dropWhile]

lemma length_insert (s : ScheduledStimulus) (pending : List ScheduledStimulus) :
    (insert s pending).length = pending.length + 1 :=
  (perm_insert s pending).length_eq

/-! ## One submission -/

lemma schedule_of_past (h : atCycle < now) :
    q.schedule atCycle stimulus now = (q, .error (.inPast atCycle now)) :=
  if_pos h

lemma schedule_of_full (h : now ≤ atCycle) (hfull : maxScheduledStimuli ≤ q.pending.length) :
    q.schedule atCycle stimulus now =
      ({ q with stats := { q.stats with totalDropped := q.stats.totalDropped + 1 } },
        .error .queueFull) := by
  unfold schedule
  rw [if_neg (UInt64.not_lt.mpr h), if_pos hfull]

lemma schedule_of_room (h : now ≤ atCycle) (hroom : q.pending.length < maxScheduledStimuli) :
    q.schedule atCycle stimulus now =
      ({ pending := insert ⟨atCycle, stimulus⟩ q.pending
         stats :=
           { q.stats with
             totalScheduled := q.stats.totalScheduled + 1
             currentlyScheduled := UInt8.ofNat (insert ⟨atCycle, stimulus⟩ q.pending).length } },
        .ok ()) := by
  unfold schedule
  rw [if_neg (UInt64.not_lt.mpr h), if_neg (Nat.not_le.mpr hroom)]
  rfl

/-- Whether a submission is taken is seen from the number of stimuli that wait. -/
lemma schedule_cases (q : Schedule) (atCycle : UInt64) (stimulus : Stimulus) (now : UInt64) :
    (now ≤ atCycle ∧ q.pending.length < maxScheduledStimuli ∧
        (q.schedule atCycle stimulus now).2 = .ok () ∧
        (q.schedule atCycle stimulus now).1.pending = insert ⟨atCycle, stimulus⟩ q.pending) ∨
      ((atCycle < now ∨ maxScheduledStimuli ≤ q.pending.length) ∧
        (∃ e, (q.schedule atCycle stimulus now).2 = .error e) ∧
        (q.schedule atCycle stimulus now).1.pending = q.pending) := by
  rcases UInt64.lt_or_le atCycle now with hpast | hnow
  · rw [schedule_of_past hpast]
    exact Or.inr ⟨Or.inl hpast, ⟨_, rfl⟩, rfl⟩
  rcases Nat.lt_or_ge q.pending.length maxScheduledStimuli with hroom | hfull
  · rw [schedule_of_room hnow hroom]
    exact Or.inl ⟨hnow, hroom, rfl, rfl⟩
  · rw [schedule_of_full hnow hfull]
    exact Or.inr ⟨Or.inr hfull, ⟨_, rfl⟩, rfl⟩

/-! ## Scripts -/

/-- The stimuli of a script that starts at a cycle, with the cycles they are for. -/
def entries (start : UInt64) (script : List (UInt64 × Stimulus)) : List ScheduledStimulus :=
  script.map fun s => ⟨start + s.1, s.2⟩

/-- A sum of cycles that is not below the first of them has not passed the last cycle of all. -/
lemma toNat_add_of_le {a b : UInt64} (h : a ≤ a + b) : (a + b).toNat = a.toNat + b.toNat := by
  rw [UInt64.le_iff_toNat_le] at h
  have ha := a.toNat_lt
  have hb := b.toNat_lt
  rw [UInt64.toNat_add] at h ⊢
  omega

section Scripts
variable {script rest : List (UInt64 × Stimulus)} {offset : UInt64}

lemma scheduleAll_of_taken (h : (q.schedule (start + offset) stimulus start).2 = .ok ()) :
    scheduleAll start ((offset, stimulus) :: rest) q =
      scheduleAll start rest (q.schedule (start + offset) stimulus start).1 := by
  rw [scheduleAll]
  generalize q.schedule (start + offset) stimulus start = taken at h
  obtain ⟨q', result⟩ := taken
  obtain rfl : result = .ok () := h
  rfl

lemma scheduleAll_of_refused {e : ScheduleError}
    (h : (q.schedule (start + offset) stimulus start).2 = .error e) :
    scheduleAll start ((offset, stimulus) :: rest) q =
      ((q.schedule (start + offset) stimulus start).1, .error e) := by
  rw [scheduleAll]
  generalize q.schedule (start + offset) stimulus start = refused at h
  obtain ⟨q', result⟩ := refused
  obtain rfl : result = .error e := h
  rfl

/-- A script takes nothing out of the queue. -/
lemma length_le_scheduleAll (start : UInt64) (script : List (UInt64 × Stimulus)) (q : Schedule) :
    q.pending.length ≤ (scheduleAll start script q).1.pending.length := by
  induction script generalizing q with
  | nil => exact Nat.le_refl _
  | cons s rest ih =>
    obtain ⟨offset, stimulus⟩ := s
    rcases schedule_cases q (start + offset) stimulus start with
      ⟨-, -, hok, hpending⟩ | ⟨-, ⟨e, herror⟩, hpending⟩
    · rw [scheduleAll_of_taken hok]
      refine Nat.le_trans ?_ (ih _)
      rw [hpending, length_insert]
      exact Nat.le_succ _
    · rw [scheduleAll_of_refused herror]
      exact hpending ▸ Nat.le_refl _

/-- Nothing waits after a script but what did before and what is of the script. -/
lemma mem_pending_scheduleAll {e : ScheduledStimulus}
    (h : e ∈ (scheduleAll start script q).1.pending) :
    e ∈ q.pending ∨ e ∈ entries start script := by
  induction script generalizing q with
  | nil => exact Or.inl h
  | cons s rest ih =>
    obtain ⟨offset, stimulus⟩ := s
    rcases schedule_cases q (start + offset) stimulus start with
      ⟨-, -, hok, hpending⟩ | ⟨-, ⟨_, herror⟩, hpending⟩
    · rw [scheduleAll_of_taken hok] at h
      rcases ih h with hold | hrest
      · rw [hpending, (perm_insert _ _).mem_iff, List.mem_cons] at hold
        exact hold.symm.imp_right fun hnew => List.mem_cons.mpr (Or.inl hnew)
      · exact Or.inr (List.mem_cons_of_mem _ hrest)
    · rw [scheduleAll_of_refused herror] at h
      exact Or.inl (hpending ▸ h)

/-- A script whose cycles are all words is scheduled as if words did not end. -/
lemma scheduleAll?_eq (h : ∀ s ∈ script, start.toNat + s.1.toNat < 18446744073709551616) :
    scheduleAll? start script q = some (scheduleAll start script q) := by
  induction script generalizing q with
  | nil => rfl
  | cons s rest ih =>
    obtain ⟨offset, stimulus⟩ := s
    obtain ⟨hfirst, hrest⟩ := List.forall_mem_cons.mp h
    rw [scheduleAll?, if_neg (Nat.not_le.mpr hfirst), scheduleAll]
    generalize q.schedule (start + offset) stimulus start = taken
    obtain ⟨q', result⟩ := taken
    cases result with
    | ok u => exact ih hrest
    | error e => rfl

/-- A script that goes through is all in the queue, and no cycle of it passed the last one. -/
lemma scheduleAll_of_ok (h : (scheduleAll start script q).2 = .ok ()) :
    (scheduleAll start script q).1.pending.Perm (q.pending ++ entries start script) ∧
      ∀ s ∈ script, start ≤ start + s.1 := by
  induction script generalizing q with
  | nil =>
    rw [entries, List.map_nil, List.append_nil]
    exact ⟨List.Perm.refl _, nofun⟩
  | cons s rest ih =>
    obtain ⟨offset, stimulus⟩ := s
    rcases schedule_cases q (start + offset) stimulus start with
      ⟨hnow, -, hok, hpending⟩ | ⟨-, ⟨e, herror⟩, -⟩
    · rw [scheduleAll_of_taken hok] at h ⊢
      obtain ⟨hperm, hlater⟩ := ih h
      refine ⟨hperm.trans ?_, List.forall_mem_cons.mpr ⟨hnow, hlater⟩⟩
      rw [hpending]
      exact ((perm_insert _ _).append_right _).trans List.perm_middle.symm
    · rw [scheduleAll_of_refused herror] at h
      exact nomatch h

/-- A script of which something is refused changes the queue unless that is its beginning. -/
lemma pending_scheduleAll_iff {e : ScheduleError} (h : (scheduleAll start script q).2 = .error e) :
    (scheduleAll start script q).1.pending = q.pending ↔
      maxScheduledStimuli ≤ q.pending.length ∨ ∃ s ∈ script.head?, start + s.1 < start := by
  cases script with
  | nil => exact nomatch h
  | cons s rest =>
    obtain ⟨offset, stimulus⟩ := s
    have hhead : (∃ s ∈ ((offset, stimulus) :: rest).head?, start + s.1 < start) ↔
        start + offset < start := by
      simp only [List.head?_cons, Option.mem_some_iff, exists_eq_left']
    rw [hhead]
    rcases schedule_cases q (start + offset) stimulus start with
      ⟨hnow, hroom, hok, hpending⟩ | ⟨hrefused, ⟨e', herror⟩, hpending⟩
    -- what was taken first is still there
    · have hkept := length_le_scheduleAll start rest (q.schedule (start + offset) stimulus start).1
      rw [scheduleAll_of_taken hok]
      rw [hpending, length_insert] at hkept
      refine iff_of_false (fun hsame => ?_) (fun hrefused => ?_)
      · rw [hsame] at hkept
        exact absurd hkept (Nat.not_succ_le_self _)
      · rcases hrefused with hfull | hpast
        · exact absurd hroom (Nat.not_lt.mpr hfull)
        · exact absurd hpast (UInt64.not_lt.mpr hnow)
    · rw [scheduleAll_of_refused herror]
      exact iff_of_true hpending hrefused.symm

end Scripts

/-! ## Scenarios -/

/-- The first stimulus of a scenario cannot be taken: the queue is full, or its cycle would be past
the last of all. -/
def RefusesFirst (q : Schedule) (scenario : Scenario) (start : UInt64) : Prop :=
  maxScheduledStimuli ≤ q.pending.length ∨ ∃ s ∈ scenario.stimuli.head?, start + s.1 < start

section Scenarios
variable {scenario : Scenario}

/-- A load answers how many stimuli the script has if all of them are taken. -/
lemma load_eq_ok_iff {n : Nat} :
    (q.load scenario start).2 = .ok n ↔
      (scheduleAll start scenario.stimuli q).2 = .ok () ∧ n = scenario.stimuli.length := by
  show (scheduleAll start scenario.stimuli q).2.map (fun _ => scenario.stimuli.length) = .ok n ↔ _
  cases (scheduleAll start scenario.stimuli q).2 with
  | error e => exact iff_of_false nofun nofun
  | ok u => exact ⟨fun h => ⟨rfl, (Except.ok.inj h).symm⟩, fun h => congrArg Except.ok h.2.symm⟩

/-- Else it answers why the first of the others was refused. -/
lemma load_eq_error_iff {e : ScheduleError} :
    (q.load scenario start).2 = .error e ↔
      (scheduleAll start scenario.stimuli q).2 = .error e := by
  show (scheduleAll start scenario.stimuli q).2.map (fun _ => scenario.stimuli.length) =
    .error e ↔ _
  cases (scheduleAll start scenario.stimuli q).2 with
  | error e' => exact ⟨fun h => congrArg Except.error (Except.error.inj h),
      fun h => congrArg Except.error (Except.error.inj h)⟩
  | ok u => exact iff_of_false nofun nofun

/-- No scenario is longer than four hundred cycles. -/
lemma offset_le {s : UInt64 × Stimulus} (h : s ∈ scenario.stimuli) : s.1.toNat ≤ 400 := by
  have hall : ∀ s ∈ scenario.stimuli, s.1.toNat ≤ 400 := by
    cases scenario <;> decide
  exact hall s h

/-- Loading is defined unless the scenario would last beyond the last cycle of all. -/
theorem load?_eq (h : start.toNat + 400 < 18446744073709551616) :
    q.load? scenario start = some (q.load scenario start) := by
  unfold load?
  rw [scheduleAll?_eq fun s hs => Nat.lt_of_le_of_lt (Nat.add_le_add_left (offset_le hs) _) h]
  rfl

/-- A scenario that is loaded adds its stimuli and no others, each for its cycle after the start. -/
theorem pending_load_of_ok {n : Nat} (h : (q.load scenario start).2 = .ok n) :
    n = scenario.stimuli.length ∧
      (q.load scenario start).1.pending.Perm (q.pending ++ entries start scenario.stimuli) ∧
      ∀ s ∈ scenario.stimuli, (start + s.1).toNat = start.toNat + s.1.toNat := by
  obtain ⟨hall, hcount⟩ := load_eq_ok_iff.mp h
  obtain ⟨hperm, hnow⟩ := scheduleAll_of_ok hall
  exact ⟨hcount, hperm, fun s hs => toNat_add_of_le (hnow s hs)⟩

/-- A refused scenario leaves the queue as it was exactly if its first stimulus was refused. -/
theorem pending_load_iff {e : ScheduleError} (h : (q.load scenario start).2 = .error e) :
    (q.load scenario start).1.pending = q.pending ↔ q.RefusesFirst scenario start :=
  pending_scheduleAll_iff (load_eq_error_iff.mp h)

end Scenarios

end Schedule
end FrontZone
