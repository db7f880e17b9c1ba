import FrontZone.Proofs.Schedule.Loading
import Mathlib.Data.List.Basic
import Mathlib.Data.List.Induction
import Mathlib.Data.List.Nodup
import Mathlib.Data.List.Range
/-!
# Delivery

A queue does not show which of two equal stimuli it hands out. The journal of a schedule tells them
apart: it numbers what is taken in order of submission and keeps, for every number, whether it
waits, was returned or was discarded. `Records` ties the two together, and `records_run` says that
they stay so whatever is asked of the schedule. The main statement reads off the journal that every
stimulus is delivered once, not before its cycle, and in order.
-/

namespace FrontZone

/-- A stimulus that was taken, numbered in order of submission. -/
structure Submission where
  number : Nat
  entry : ScheduledStimulus
  deriving Repr, DecidableEq

/-- For an earlier cycle, or for the same one and submitted earlier. -/
def Submission.Before (a b : Submission) : Prop :=
  a.entry.atCycle < b.entry.atCycle ∨ a.entry.atCycle = b.entry.atCycle ∧ a.number < b.number

lemma Submission.Before.asymm {a b : Submission} (h : a.Before b) : ¬ b.Before a := by
  rintro (hlt | ⟨heq, hnumber⟩)
  · rcases h with hlt' | ⟨heq', -⟩
    · exact UInt64.lt_asymm hlt hlt'
    · exact UInt64.lt_irrefl _ (heq' ▸ hlt)
  · rcases h with hlt' | ⟨-, hnumber'⟩
    · exact UInt64.lt_irrefl _ (heq ▸ hlt')
    · exact Nat.lt_asymm hnumber hnumber'

namespace Schedule

/-! ## Runs -/

/-- What can be asked of a schedule. -/
inductive Op where
  | schedule (atCycle : UInt64) (stimulus : Stimulus) (now : UInt64)
  | load (scenario : Scenario) (start : UInt64)
  | takeDue (now : UInt64)
  | clear

/-- The schedule after one operation. -/
def handle (q : Schedule) : Op → Schedule
  | .schedule atCycle stimulus now => (q.schedule atCycle stimulus now).1
  | .load scenario start => (q.load scenario start).1
  | .takeDue now => (q.takeDue now).1
  | .clear => q.clear

/-- The schedule after operations on an empty one. -/
def run (ops : List Op) : Schedule :=
  ops.foldl handle {}

lemma run_concat (ops : List Op) (op : Op) : run (ops ++ [op]) = (run ops).handle op :=
  List.foldl_concat ..

/-! ## The journal -/

/-- What has become of the stimuli taken. -/
structure Journal where
  /-- In order of submission. -/
  accepted : List Submission := []
  /-- In the order of the queue. -/
  waiting : List Submission := []
  /-- In the order in which they were handed out. -/
  returned : List Submission := []
  discarded : List Submission := []
  deriving Repr, DecidableEq

namespace Journal

/-- Whether a stimulus for a cycle is taken: there is room, and the cycle is not in the past. -/
def Admits (j : Journal) (atCycle now : UInt64) : Prop :=
  now ≤ atCycle ∧ j.waiting.length < maxScheduledStimuli

instance (j : Journal) (atCycle now : UInt64) : Decidable (j.Admits atCycle now) :=
  inferInstanceAs (Decidable (_ ∧ _))

/-- Takes a stimulus, which waits behind all that are due no later. -/
def take (j : Journal) (entry : ScheduledStimulus) : Journal :=
  let s : Submission := ⟨j.accepted.length, entry⟩
  { j with
    accepted := j.accepted ++ [s]
    waiting :=
      j.waiting.filter (·.entry.atCycle ≤ entry.atCycle) ++
        s :: j.waiting.filter (entry.atCycle < ·.entry.atCycle) }

/-- Takes the stimuli of a script in order, up to the first that is not admitted. -/
def takeAll (start : UInt64) : List (UInt64 × Stimulus) → Journal → Journal
  | [], j => j
  | (offset, stimulus) :: rest, j =>
    if j.Admits (start + offset) start then takeAll start rest (j.take ⟨start + offset, stimulus⟩)
    else j

/-- The submissions to hand out at `now`: of those that are due the first, up to the limit. -/
def batch (j : Journal) (now : UInt64) : List Submission :=
  (j.waiting.filter (·.entry.atCycle ≤ now)).take maxDuePerCycle

/-- The journal after one operation. -/
def handle (j : Journal) : Op → Journal
  | .schedule atCycle stimulus now =>
    if j.Admits atCycle now then j.take ⟨atCycle, stimulus⟩ else j
  | .load scenario start => takeAll start scenario.stimuli j
  | .takeDue now =>
    { j with
      returned := j.returned ++ j.batch now
      waiting := j.waiting.drop (j.batch now).length }
  | .clear => { j with discarded := j.discarded ++ j.waiting, waiting := [] }

section Admits
variable {j : Journal} {atCycle now : UInt64} {stimulus : Stimulus}

lemma handle_of_admits (h : j.Admits atCycle now) :
    j.handle (.schedule atCycle stimulus now) = j.take ⟨atCycle, stimulus⟩ :=
  if_pos h

lemma handle_of_not_admits (h : ¬ j.Admits atCycle now) :
    j.handle (.schedule atCycle stimulus now) = j :=
  if_neg h

end Admits

end Journal

/-- The journal of operations on an empty schedule. -/
def journal (ops : List Op) : Journal :=
  ops.foldl Journal.handle {}

lemma journal_concat (ops : List Op) (op : Op) :
    journal (ops ++ [op]) = (journal ops).handle op :=
  List.foldl_concat ..

/-! ## Lists in order -/

section Ordered
variable {α : Type} {p : α → Bool} {l : List α}

/-- In a list whose first elements satisfy `p`, they are those that satisfy it at all. -/
private lemma takeWhile_dropWhile_eq_filter (h : l.Pairwise fun a b => p b → p a) :
    l.takeWhile p = l.filter p ∧ l.dropWhile p = l.filter (fun a => !p a) := by
  induction l with
  | nil => exact ⟨rfl, rfl⟩
  | cons a l ih =>
    obtain ⟨hfirst, hrest⟩ := List.pairwise_cons.mp h
    obtain ⟨htake, hdrop⟩ := ih hrest
    by_cases ha : p a
    · simp [ha, htake, hdrop]
    · have hnone : ∀ b ∈ l, ¬ p b := fun b hb hpb => ha (hfirst b hb hpb)
      have hall : l.filter (fun b => !p b) = l :=
        List.filter_eq_self.mpr fun b hb => by simpa using hnone b hb
      simp [ha, List.filter_eq_nil_iff.mpr hnone, hall]

end Ordered

/-- In a queue in order, those due come first. -/
lemma takeWhile_due {ws : List Submission} (h : ws.Pairwise Submission.Before) (now : UInt64) :
    ws.takeWhile (·.entry.atCycle ≤ now) = ws.filter (·.entry.atCycle ≤ now) ∧
      ws.dropWhile (·.entry.atCycle ≤ now) = ws.filter (now < ·.entry.atCycle) := by
  have hearlier : ws.Pairwise fun a b =>
      decide (b.entry.atCycle ≤ now) → decide (a.entry.atCycle ≤ now) := by
    refine h.imp fun {a b} hab => ?_
    simp only [decide_eq_true_eq, UInt64.le_iff_toNat_le]
    intro hb
    rcases hab with hlt | ⟨heq, -⟩
    · rw [UInt64.lt_iff_toNat_lt] at hlt
      omega
    · rwa [heq]
  obtain ⟨htake, hdrop⟩ := takeWhile_dropWhile_eq_filter hearlier
  refine ⟨htake, hdrop.trans (List.filter_congr fun s _ => ?_)⟩
  rw [← decide_not]
  exact decide_eq_decide.mpr UInt64.not_le

/-! ## What a journal records -/

/-- A schedule with its journal: what waits is in order and no more than there is room for, nothing
that was taken is lost or doubled, and the counters count. -/
structure Records (q : Schedule) (j : Journal) : Prop where
  pending_eq : q.pending = j.waiting.map (·.entry)
  ordered : j.waiting.Pairwise Submission.Before
  length_le : j.waiting.length ≤ maxScheduledStimuli
  accounted : (j.returned ++ j.discarded ++ j.waiting).Perm j.accepted
  numbered : j.accepted.map (·.number) = List.range j.accepted.length
  currently_eq : q.stats.currentlyScheduled = UInt8.ofNat j.waiting.length
  scheduled_eq : q.stats.totalScheduled = UInt32.ofNat j.accepted.length
  applied_eq : q.stats.totalApplied = UInt32.ofNat j.returned.length

section Records
variable {q : Schedule} {j : Journal} {atCycle now : UInt64}

lemma records_empty : Records {} {} :=
  ⟨rfl, List.Pairwise.nil, Nat.zero_le _, List.Perm.refl _, rfl, rfl, rfl, rfl⟩

lemma Records.length_pending (h : Records q j) : q.pending.length = j.waiting.length := by
  rw [h.pending_eq, List.length_map]

/-- What waits was taken, and so has a number that the next submission does not have. -/
lemma Records.number_lt (h : Records q j) {s : Submission} (hs : s ∈ j.waiting) :
    s.number < j.accepted.length := by
  have haccepted : s ∈ j.accepted := h.accounted.subset (List.mem_append_right _ hs)
  rw [← List.mem_range, ← h.numbered]
  exact List.mem_map_of_mem haccepted

/-- A new submission waits behind all that are due no later. -/
lemma ordered_take (h : Records q j) (entry : ScheduledStimulus) :
    (j.take entry).waiting.Pairwise Submission.Before := by
  refine List.pairwise_append.mpr ⟨h.ordered.filter _, List.pairwise_cons.mpr
    ⟨fun b hb => ?_, h.ordered.filter _⟩, fun a ha b hb => ?_⟩
  · exact Or.inl (of_decide_eq_true (List.mem_filter.mp hb).2)
  · obtain ⟨hawaits, hdue⟩ := List.mem_filter.mp ha
    rw [decide_eq_true_eq, UInt64.le_iff_toNat_le] at hdue
    rcases List.mem_cons.mp hb with rfl | hb
    · rcases Nat.lt_or_eq_of_le hdue with hlt | heq
      · exact Or.inl (UInt64.lt_iff_toNat_lt.mpr hlt)
      · exact Or.inr ⟨UInt64.toNat_inj.mp heq, h.number_lt hawaits⟩
    · have hlater := of_decide_eq_true (List.mem_filter.mp hb).2
      rw [UInt64.lt_iff_toNat_lt] at hlater
      exact Or.inl (UInt64.lt_iff_toNat_lt.mpr (by omega))

/-- A new submission joins those that wait, which keep their order. -/
lemma take_waiting (h : Records q j) (entry : ScheduledStimulus) :
    (j.take entry).waiting.Perm (⟨j.accepted.length, entry⟩ :: j.waiting) ∧
      j.waiting.Sublist (j.take entry).waiting := by
  have hsplit : j.waiting.filter (·.entry.atCycle ≤ entry.atCycle) ++
      j.waiting.filter (entry.atCycle < ·.entry.atCycle) = j.waiting := by
    obtain ⟨htake, hdrop⟩ := takeWhile_due h.ordered entry.atCycle
    rw [← htake, ← hdrop, List.takeWhile_append_dropWhile]
  constructor
  · refine List.perm_middle.trans (List.Perm.cons _ ?_)
    rw [hsplit]
  · conv_lhs => rw [← hsplit]
    exact (List.Sublist.refl _).append (List.sublist_cons_self _ _)

/-- A submission that is taken. -/
lemma records_take (h : Records q j) (stimulus : Stimulus) (hnow : now ≤ atCycle)
    (hroom : j.waiting.length < maxScheduledStimuli) :
    Records (q.schedule atCycle stimulus now).1 (j.take ⟨atCycle, stimulus⟩) := by
  have hperm := (take_waiting h ⟨atCycle, stimulus⟩).1
  have hlength : (j.take ⟨atCycle, stimulus⟩).waiting.length = j.waiting.length + 1 :=
    hperm.length_eq
  obtain ⟨htake, hdrop⟩ := takeWhile_due h.ordered atCycle
  rw [schedule_of_room hnow (h.length_pending.symm ▸ hroom)]
  refine ⟨?_, ordered_take h _, hlength ▸ hroom, ?_, ?_, ?_, ?_, h.applied_eq⟩
  · show insert ⟨atCycle, stimulus⟩ q.pending = _
    rw [insert_eq, h.pending_eq, List.takeWhile_map, List.dropWhile_map]
    show (j.waiting.takeWhile (·.entry.atCycle ≤ atCycle)).map _ ++
      _ :: (j.waiting.dropWhile (·.entry.atCycle ≤ atCycle)).map _ = _
    rw [htake, hdrop, Journal.take, List.map_append, List.map_cons]
  · refine (hperm.append_left (j.returned ++ j.discarded)).trans ?_
    exact List.perm_middle.trans ((h.accounted.cons _).trans (List.perm_append_singleton ..).symm)
  · show (j.accepted ++ [_]).map _ = List.range (j.accepted ++ [_]).length
    rw [List.map_append, h.numbered, List.length_append, List.length_singleton, List.range_succ]
    rfl
  · show UInt8.ofNat (insert _ q.pending).length = _
    rw [length_insert, h.length_pending, hlength]
  · show q.stats.totalScheduled + 1 = UInt32.ofNat (j.accepted ++ [_]).length
    rw [h.scheduled_eq, List.length_append, List.length_singleton, UInt32.ofNat_add]
    rfl

/-- Refusals are counted and leave no other trace. -/
lemma records_refused (h : Records q j) (stimulus : Stimulus) (hrefused : ¬ j.Admits atCycle now) :
    (∃ e, (q.schedule atCycle stimulus now).2 = .error e) ∧
      Records (q.schedule atCycle stimulus now).1 j := by
  rcases UInt64.lt_or_le atCycle now with hpast | hnow
  · rw [schedule_of_past hpast]
    exact ⟨⟨_, rfl⟩, h⟩
  · have hfull : maxScheduledStimuli ≤ q.pending.length := by
      rw [h.length_pending]
      exact Nat.not_lt.mp fun hroom => hrefused ⟨hnow, hroom⟩
    rw [schedule_of_full hnow hfull]
    exact ⟨⟨_, rfl⟩, { h with }⟩

/-- A submission is taken exactly if the journal admits it. -/
lemma schedule_eq_ok_iff (h : Records q j) (stimulus : Stimulus) :
    (q.schedule atCycle stimulus now).2 = .ok () ↔ j.Admits atCycle now := by
  by_cases hadmits : j.Admits atCycle now
  · rw [schedule_of_room hadmits.1 (h.length_pending.symm ▸ hadmits.2)]
    exact iff_of_true rfl hadmits
  · obtain ⟨⟨e, he⟩, -⟩ := records_refused h stimulus hadmits
    rw [he]
    exact iff_of_false nofun hadmits

/-- What a script adds to the journal: all of it if it goes through, else the part before the
first refusal. -/
lemma records_scheduleAll (start : UInt64) (script : List (UInt64 × Stimulus))
    (h : Records q j) :
    Records (scheduleAll start script q).1 (j.takeAll start script) ∧
      ∃ taken, taken <+: entries start script ∧
        (j.takeAll start script).accepted.map (·.entry) = j.accepted.map (·.entry) ++ taken ∧
        ((scheduleAll start script q).2 = .ok () ↔ taken = entries start script) := by
  induction script generalizing q j with
  | nil =>
    refine ⟨h, [], List.prefix_refl _, (List.append_nil _).symm, ?_⟩
    exact iff_of_true rfl rfl
  | cons s rest ih =>
    obtain ⟨offset, stimulus⟩ := s
    unfold Journal.takeAll
    by_cases hadmits : j.Admits (start + offset) start
    · have hok := (schedule_eq_ok_iff h stimulus).mpr hadmits
      rw [if_pos hadmits, scheduleAll_of_taken hok]
      obtain ⟨hrecords, taken, hprefix, haccepted, hiff⟩ :=
        ih (records_take h stimulus hadmits.1 hadmits.2)
      refine ⟨hrecords, ⟨start + offset, stimulus⟩ :: taken,
        List.cons_prefix_cons.mpr ⟨rfl, hprefix⟩, ?_, ?_⟩
      · rw [haccepted, Journal.take, List.map_append, List.append_assoc]
        rfl
      · rw [hiff]
        exact ⟨fun heq => heq ▸ rfl, fun heq => List.tail_eq_of_cons_eq heq⟩
    · obtain ⟨⟨e, herror⟩, hrecords⟩ := records_refused h stimulus hadmits
      rw [if_neg hadmits, scheduleAll_of_refused herror]
      exact ⟨hrecords, [], List.nil_prefix, (List.append_nil _).symm, iff_of_false nofun nofun⟩

/-- What is handed out are the first of those due. -/
lemma due_eq (h : Records q j) (now : UInt64) :
    q.due now = (j.batch now).map (·.entry) := by
  unfold due Journal.batch
  rw [h.pending_eq, List.takeWhile_map, ← List.map_take]
  show ((j.waiting.takeWhile (·.entry.atCycle ≤ now)).take _).map _ = _
  rw [(takeWhile_due h.ordered now).1]

/-- How many are handed out. -/
lemma length_batch (h : Records q j) (now : UInt64) :
    (j.batch now).length = min maxDuePerCycle (q.pending.countP (·.atCycle ≤ now)) := by
  unfold Journal.batch
  rw [List.length_take, ← List.countP_eq_length_filter, h.pending_eq, List.countP_map]
  rfl

/-- The batch is the beginning of the queue, and the rest of the queue stays. -/
lemma batch_append_drop (h : Records q j) (now : UInt64) :
    j.batch now ++ j.waiting.drop (j.batch now).length = j.waiting := by
  have hprefix : j.batch now <+: j.waiting := by
    unfold Journal.batch
    rw [← (takeWhile_due h.ordered now).1]
    exact (List.take_prefix _ _).trans (List.takeWhile_prefix _)
  exact (List.prefix_iff_eq_append.mp hprefix)

lemma records_takeDue (h : Records q j) (now : UInt64) :
    Records (q.takeDue now).1 (j.handle (.takeDue now)) := by
  have hlength : (q.due now).length = (j.batch now).length := by
    rw [due_eq h, List.length_map]
  have hrest : q.pending.drop (q.due now).length =
      (j.waiting.drop (j.batch now).length).map (·.entry) := by
    rw [hlength, h.pending_eq, List.map_drop]
  refine ⟨hrest, h.ordered.sublist (List.drop_sublist _ _),
    (List.drop_sublist _ _).length_le.trans h.length_le, ?_, h.numbered, ?_, h.scheduled_eq, ?_⟩
  · refine List.Perm.trans ?_ h.accounted
    show (j.returned ++ j.batch now ++ j.discarded ++ j.waiting.drop (j.batch now).length).Perm _
    conv_rhs => rw [← batch_append_drop h now]
    simp only [List.append_assoc]
    refine List.Perm.append_left _ ?_
    simp only [← List.append_assoc]
    exact List.perm_append_comm.append_right _
  · show UInt8.ofNat (q.pending.drop _).length = _
    rw [hrest, List.length_map]
    rfl
  · show q.stats.totalApplied + UInt32.ofNat (q.due now).length =
      UInt32.ofNat (j.returned ++ j.batch now).length
    rw [h.applied_eq, hlength, List.length_append, UInt32.ofNat_add]

lemma records_clear (h : Records q j) : Records q.clear (j.handle .clear) := by
  refine ⟨rfl, List.Pairwise.nil, Nat.zero_le _, ?_, h.numbered, rfl, h.scheduled_eq, h.applied_eq⟩
  show (j.returned ++ (j.discarded ++ j.waiting) ++ []).Perm _
  rw [List.append_nil, ← List.append_assoc]
  exact h.accounted

/-- Whatever is asked of the schedule, the journal goes on recording it. -/
lemma records_handle (h : Records q j) (op : Op) : Records (q.handle op) (j.handle op) := by
  cases op with
  | schedule atCycle stimulus now =>
    by_cases hadmits : j.Admits atCycle now
    · rw [Journal.handle_of_admits hadmits]
      exact records_take h stimulus hadmits.1 hadmits.2
    · rw [Journal.handle_of_not_admits hadmits]
      exact (records_refused h stimulus hadmits).2
  | load scenario start => exact (records_scheduleAll start scenario.stimuli h).1
  | takeDue now => exact records_takeDue h now
  | clear => exact records_clear h

theorem records_run (ops : List Op) : Records (run ops) (journal ops) := by
  induction ops using List.reverseRecOn with
  | nil => exact records_empty
  | append_singleton past op ih =>
    rw [run_concat, journal_concat]
    exact records_handle ih op

/-! ## Answers -/

/-- What the schedule answers to an operation is what the journal says becomes of it: a submission
is taken or not, a script is taken whole or up to a refusal, and what is handed out is the batch, of
which everything is due. -/
def Explains (q : Schedule) (j : Journal) : Op → Prop
  | .schedule atCycle stimulus now =>
    (q.schedule atCycle stimulus now).2 = .ok () ↔ j.Admits atCycle now
  | .load scenario start =>
    ∃ taken, taken <+: entries start scenario.stimuli ∧
      (j.handle (.load scenario start)).accepted.map (·.entry) =
        j.accepted.map (·.entry) ++ taken ∧
      match (q.load scenario start).2 with
      | .ok n => n = scenario.stimuli.length ∧ taken = entries start scenario.stimuli
      | .error _ => taken ≠ entries start scenario.stimuli
  | .takeDue now =>
    (q.takeDue now).2 = (j.batch now).map (·.entry.stimulus) ∧
      (j.batch now).length = min maxDuePerCycle (q.pending.countP (·.atCycle ≤ now)) ∧
      ∀ s ∈ j.batch now, s.entry.atCycle ≤ now
  | .clear => q.clear.pending = []

lemma explains_load (h : Records q j) (scenario : Scenario) (start : UInt64) :
    Explains q j (.load scenario start) := by
  obtain ⟨-, taken, hprefix, haccepted, hiff⟩ := records_scheduleAll start scenario.stimuli h
  refine ⟨taken, hprefix, haccepted, ?_⟩
  cases hload : (q.load scenario start).2 with
  | ok n =>
    obtain ⟨hall, hcount⟩ := load_eq_ok_iff.mp hload
    exact ⟨hcount, hiff.mp hall⟩
  | error e =>
    exact fun hwhole => nomatch (load_eq_error_iff.mp hload).symm.trans (hiff.mpr hwhole)

lemma explains_takeDue (h : Records q j) (now : UInt64) : Explains q j (.takeDue now) := by
  refine ⟨?_, length_batch h now, fun s hs => ?_⟩
  · show (q.due now).map (·.stimulus) = _
    rw [due_eq h, List.map_map]
    rfl
  · exact of_decide_eq_true (List.mem_filter.mp (List.mem_of_mem_take hs)).2

lemma explains (h : Records q j) (op : Op) : Explains q j op := by
  cases op with
  | schedule atCycle stimulus now => exact schedule_eq_ok_iff h stimulus
  | load scenario start => exact explains_load h scenario start
  | takeDue now => exact explains_takeDue h now
  | clear => rfl

/-! ## Order -/

/-- No submission stands at two places. -/
lemma Records.nodup (h : Records q j) : (j.returned ++ j.discarded ++ j.waiting).Nodup := by
  have haccepted : (j.accepted.map (·.number)).Nodup := h.numbered ▸ List.nodup_range
  exact h.accounted.nodup_iff.mpr haccepted.of_map

/-- Two that follow one another in `l ++ m` do so in `l`, unless the second is in `m`. -/
private lemma pair_sublist_append {a b : Submission} {l m : List Submission}
    (h : [a, b].Sublist (l ++ m)) : [a, b].Sublist l ∨ b ∈ m := by
  obtain ⟨front, back, heq, hfront, hback⟩ := List.sublist_append_iff.mp h
  rcases List.eq_nil_or_concat back with rfl | ⟨back, c, rfl⟩
  · rw [List.append_nil] at heq
    exact Or.inl (heq ▸ hfront)
  · have hlast : b = c := by
      have := congrArg List.getLast? heq
      simpa [← List.append_assoc] using this
    exact Or.inr (hback.subset (hlast ▸ by simp))

lemma sublist_takeAll (start : UInt64) (script : List (UInt64 × Stimulus)) (h : Records q j) :
    (j.takeAll start script).returned = j.returned ∧
      (j.takeAll start script).discarded = j.discarded ∧
      j.waiting.Sublist (j.takeAll start script).waiting := by
  induction script generalizing q j with
  | nil => exact ⟨rfl, rfl, List.Sublist.refl _⟩
  | cons s rest ih =>
    obtain ⟨offset, stimulus⟩ := s
    unfold Journal.takeAll
    by_cases hadmits : j.Admits (start + offset) start
    · rw [if_pos hadmits]
      obtain ⟨hreturned, hdiscarded, hwaiting⟩ :=
        ih (records_take h stimulus hadmits.1 hadmits.2)
      exact ⟨hreturned, hdiscarded, (take_waiting h _).2.trans hwaiting⟩
    · rw [if_neg hadmits]
      exact ⟨rfl, rfl, List.Sublist.refl _⟩

/-- Two submissions, the first of which is ahead of the second for good: it was or will be handed
out before it, or the second never will be. -/
def Ahead (j : Journal) (a b : Submission) : Prop :=
  [a, b].Sublist (j.returned ++ j.waiting) ∨ b ∈ j.discarded

lemma ahead_handle (h : Records q j) (op : Op) {a b : Submission} (hahead : Ahead j a b) :
    Ahead (j.handle op) a b := by
  cases op with
  | schedule atCycle stimulus now =>
    by_cases hadmits : j.Admits atCycle now
    · rw [Journal.handle_of_admits hadmits]
      exact hahead.imp_left fun hpair =>
        hpair.trans ((List.Sublist.refl _).append (take_waiting h _).2)
    · rwa [Journal.handle_of_not_admits hadmits]
  | load scenario start =>
    obtain ⟨hreturned, hdiscarded, hwaiting⟩ :=
      sublist_takeAll start scenario.stimuli h
    show [a, b].Sublist ((j.takeAll start scenario.stimuli).returned ++ _) ∨
      b ∈ (j.takeAll start scenario.stimuli).discarded
    rw [hreturned, hdiscarded]
    exact hahead.imp_left fun hpair => hpair.trans ((List.Sublist.refl _).append hwaiting)
  | takeDue now =>
    show [a, b].Sublist (j.returned ++ j.batch now ++ j.waiting.drop (j.batch now).length) ∨ _
    rw [List.append_assoc, batch_append_drop h now]
    exact hahead
  | clear =>
    show [a, b].Sublist (j.returned ++ []) ∨ b ∈ j.discarded ++ j.waiting
    rw [List.append_nil, List.mem_append]
    rcases hahead with hpair | hdiscarded
    · exact (pair_sublist_append hpair).imp_right Or.inr
    · exact Or.inr (Or.inl hdiscarded)

lemma ahead_run {past : List Op} {a b : Submission} (hahead : Ahead (journal past) a b)
    (later : List Op) :
    Ahead (journal (past ++ later)) a b := by
  induction later using List.reverseRecOn with
  | nil => rwa [List.append_nil]
  | append_singleton later op ih =>
    rw [← List.append_assoc, journal_concat]
    exact ahead_handle (records_run _) op ih

/-- In a queue in order, the place says who is first. -/
lemma pair_sublist {ws : List Submission} (h : ws.Pairwise Submission.Before) {a b : Submission}
    (ha : a ∈ ws) (hb : b ∈ ws) (hab : a.Before b) : [a, b].Sublist ws := by
  obtain ⟨front, back, rfl⟩ := List.append_of_mem ha
  obtain ⟨-, hback, hfront⟩ := List.pairwise_append.mp h
  rcases List.mem_append.mp hb with hb | hb
  · exact absurd (hfront b hb a List.mem_cons_self) hab.asymm
  rcases List.mem_cons.mp hb with rfl | hb
  · exact absurd hab hab.asymm
  · exact ((List.singleton_sublist.mpr hb).cons_cons a).trans (List.sublist_append_right _ _)

/-- Of two that waited together the one with the earlier place is handed out first. -/
lemma sublist_returned {past ops : List Op} (hpast : past <+: ops) {a b : Submission}
    (ha : a ∈ (journal past).waiting) (hb : b ∈ (journal past).waiting) (hab : a.Before b)
    (hreturned : b ∈ (journal ops).returned) : [a, b].Sublist (journal ops).returned := by
  obtain ⟨later, rfl⟩ := hpast
  have hwaiting := pair_sublist (records_run past).ordered ha hb hab
  have hahead : Ahead (journal past) a b :=
    Or.inl (hwaiting.trans (List.sublist_append_right _ _))
  have hnodup := (records_run (past ++ later)).nodup
  rw [List.nodup_append, List.nodup_append] at hnodup
  obtain ⟨⟨-, -, hdiscarded⟩, -, hwaits⟩ := hnodup
  rcases ahead_run hahead later with hpair | hdropped
  · rcases pair_sublist_append hpair with hpair | hstill
    · exact hpair
    · exact absurd rfl (hwaits b (List.mem_append_left _ hreturned) b hstill)
  · exact absurd rfl (hdiscarded b hreturned b hdropped)

/-! ## Delivery -/

/-- The counters of a schedule whose journal is `j`, as long as none has overflowed: what was taken
was returned, waits, or was discarded. -/
lemma counters (h : Records q j) :
    q.stats.currentlyScheduled.toNat = q.pending.length ∧
      (j.accepted.length < UInt32.size →
        q.stats.totalScheduled.toNat =
          q.stats.totalApplied.toNat + q.pending.length + j.discarded.length) := by
  have hlength := h.length_le
  have hall := h.accounted.length_eq
  rw [List.length_append, List.length_append] at hall
  rw [h.length_pending, h.currently_eq, h.scheduled_eq, h.applied_eq]
  constructor
  · rw [UInt8.toNat_ofNat']
    unfold maxScheduledStimuli at hlength
    omega
  · intro hcount
    unfold UInt32.size at hcount
    rw [UInt32.toNat_ofNat', UInt32.toNat_ofNat']
    omega

end Records

/-- After any operations on an empty schedule: what is pending is what waits, by cycle and within a
cycle in order of submission, and no more than there is room for; every submission that was taken
was returned, was discarded or waits, once; every answer on the way is explained by the journal, so
that each call hands out the first of what is due, up to the limit; of two that waited together
the first is handed out first; and the counters count. -/
theorem delivered_once_in_order (ops : List Op) :
    (run ops).pending = (journal ops).waiting.map (·.entry) ∧
      (journal ops).waiting.Pairwise Submission.Before ∧
      (run ops).pending.length ≤ maxScheduledStimuli ∧
      ((journal ops).returned ++ (journal ops).discarded ++ (journal ops).waiting).Perm
        (journal ops).accepted ∧
      (journal ops).accepted.map (·.number) = List.range (journal ops).accepted.length ∧
      (∀ past op, past ++ [op] <+: ops → Explains (run past) (journal past) op) ∧
      (∀ past, past <+: ops → ∀ a ∈ (journal past).waiting, ∀ b ∈ (journal past).waiting,
        a.Before b → b ∈ (journal ops).returned → [a, b].Sublist (journal ops).returned) ∧
      (run ops).stats.currentlyScheduled.toNat = (run ops).pending.length ∧
      ((journal ops).accepted.length < UInt32.size →
        (run ops).stats.totalScheduled.toNat =
          (run ops).stats.totalApplied.toNat + (run ops).pending.length +
            (journal ops).discarded.length) := by
  have h := records_run ops
  refine ⟨h.pending_eq, h.ordered, h.length_pending ▸ h.length_le, h.accounted, h.numbered,
    fun past op _ => explains (records_run past) op,
    fun past hpast a ha b hb => sublist_returned hpast ha hb, counters h⟩

/-- A stop and its release, both for cycle 3 and submitted in that order, after a stimulus for
cycle 9: at cycle 3 the two are handed out in their order, and the third goes on waiting. -/
theorem stop_handed_out_before_release :
    let ops : List Op :=
      [.schedule 9 .clearSensorFault 0, .schedule 3 (.emergencyStop true) 0,
        .schedule 3 (.emergencyStop false) 0, .takeDue 3]
    let stop : Submission := ⟨1, 3, .emergencyStop true⟩
    let release : Submission := ⟨2, 3, .emergencyStop false⟩
    stop.Before release ∧ [stop, release].Sublist (journal ops).returned ∧
      (journal ops).accepted.length < UInt32.size ∧
      (run ops).stats.totalScheduled.toNat =
        (run ops).stats.totalApplied.toNat + (run ops).pending.length +
          (journal ops).discarded.length := by
  intro ops stop release
  have hbefore : stop.Before release := Or.inr ⟨rfl, by decide⟩
  obtain ⟨-, -, -, -, -, -, horder, -, hcount⟩ := delivered_once_in_order ops
  exact ⟨hbefore,
    horder (ops.take 3) (List.take_prefix 3 ops) stop (by decide) release (by decide) hbefore
      (by decide),
    by decide, hcount (by decide)⟩

end Schedule
end FrontZone
