import FrontZone.Governor.Update
import Mathlib.Data.List.Basic
import Mathlib.Data.List.Induction
/-!
# Runs of a governor

A governor lives from update to update, and may be started over in between. The hardware and the
services are not its own, so a `Call` brings them along as it finds them: whatever happens to them
between two updates is covered, as is every reading and every answer of the bus.

An update of an initialised governor is one `cycle`; `perform_of_active` says so once, and
`run_updates` turns a run of updates alone into a run of states. An invariant of the state becomes
one of the governor by `satisfies_run`, restarts included.
-/

namespace FrontZone
namespace Governor

variable {c : Calibration} {s : State} {g : Governor}

/-! ## Updates -/

/-- What one update is called with. -/
structure Call where
  inputs : CycleInputs
  rig : Rig
  services : Services

namespace Call

/-- What the sensor gives in the update of a governor with calibration `c`; nothing where it is not
read or cannot be. -/
def reading (k : Call) (c : Calibration) : Option Int32 :=
  (sense c k.inputs k.rig).2

/-- The cycle that the update of a governor comes to. -/
def outcome (k : Call) (c : Calibration) (s : State) : Outcome :=
  cycle c s k.inputs (k.reading c) (!k.services.bus.rejects)

end Call

/-- One update. -/
def perform (g : Governor) (k : Call) : Update :=
  (g.update k.inputs k.rig k.services).value

/-- An update of an initialised governor succeeds; it is a cycle carried out. -/
lemma perform_of_active (h : g.active = some ⟨c, s⟩) (k : Call) :
    g.perform k =
      { governor := ⟨some ⟨c, (k.outcome c s).state⟩⟩
        rig := (k.outcome c s).onRig (sense c k.inputs k.rig).1
        services := (k.outcome c s).onServices k.services
        report := .ok (k.outcome c s).report } := by
  unfold perform update
  rw [h]
  rfl

/-- An update of a governor that is not initialised fails and touches nothing. -/
lemma perform_of_inactive (h : g.active = none) (k : Call) :
    g.perform k = ⟨g, k.rig, k.services, .error .uninitialized⟩ := by
  unfold perform update
  rw [h]
  rfl

/-! ## Runs -/

/-- What a governor can be asked to do. -/
inductive Request where
  | update (call : Call)
  | reinit (calibration : Option Calibration)

/-- The governor after one request. -/
def handle (g : Governor) : Request → Governor
  | .update k => (g.perform k).governor
  | .reinit calibration => (g.reinit calibration).1

/-- The governor after a run of requests. -/
def run (g : Governor) (rs : List Request) : Governor :=
  rs.foldl handle g

lemma run_concat (g : Governor) (rs : List Request) (r : Request) :
    g.run (rs ++ [r]) = (g.run rs).handle r :=
  List.foldl_concat ..

/-- The state after the updates of a run, for a governor that keeps its calibration. -/
def State.run (c : Calibration) (s : State) (ks : List Call) : State :=
  ks.foldl (fun s k => (k.outcome c s).state) s

lemma State.run_concat (c : Calibration) (s : State) (ks : List Call) (k : Call) :
    s.run c (ks ++ [k]) = (k.outcome c (s.run c ks)).state :=
  List.foldl_concat ..

/-- Updates alone change the state and nothing else. -/
theorem run_updates (h : g.active = some ⟨c, s⟩) (ks : List Call) :
    (g.run (ks.map .update)).active = some ⟨c, s.run c ks⟩ := by
  induction ks using List.reverseRecOn with
  | nil => exact h
  | append_singleton ks k ih =>
    rw [List.map_append, List.map_singleton, Governor.run_concat, State.run_concat]
    show ((g.run (ks.map .update)).perform k).governor.active = _
    rw [perform_of_active ih]

/-! ## What a run shows -/

/-- The outcomes of the updates of a run, oldest first. -/
def State.outcomes (c : Calibration) : State → List Call → List Outcome
  | _, [] => []
  | s, k :: ks => k.outcome c s :: State.outcomes c (k.outcome c s).state ks

/-- The reports of the cycles of a run, oldest first. -/
def State.reports (c : Calibration) (s : State) (ks : List Call) : List CycleReport :=
  (s.outcomes c ks).map (·.report)

/-- The reports of the updates of a run that succeeded, oldest first. -/
def reports : Governor → List Call → List CycleReport
  | _, [] => []
  | g, k :: ks => (g.perform k).report.toOption.toList ++ reports (g.perform k).governor ks

lemma State.outcomes_append (c : Calibration) (s : State) (ks ks' : List Call) :
    s.outcomes c (ks ++ ks') = s.outcomes c ks ++ (s.run c ks).outcomes c ks' := by
  induction ks generalizing s with
  | nil => rfl
  | cons k ks ih => exact congrArg (k.outcome c s :: ·) (ih (k.outcome c s).state)

lemma State.outcomes_concat (c : Calibration) (s : State) (ks : List Call) (k : Call) :
    s.outcomes c (ks ++ [k]) = s.outcomes c ks ++ [k.outcome c (s.run c ks)] :=
  s.outcomes_append c ks [k]

lemma State.getElem?_outcomes (c : Calibration) (s : State) (ks : List Call) (n : Nat) :
    (s.outcomes c ks)[n]? = ks[n]?.map fun k => k.outcome c (s.run c (ks.take n)) := by
  induction ks generalizing s n with
  | nil => rfl
  | cons k ks ih =>
    cases n with
    | zero => rfl
    | succ n => exact ih (k.outcome c s).state n

lemma State.reports_append (c : Calibration) (s : State) (ks ks' : List Call) :
    s.reports c (ks ++ ks') = s.reports c ks ++ (s.run c ks).reports c ks' := by
  rw [State.reports, State.outcomes_append, List.map_append]
  rfl

lemma State.reports_concat (c : Calibration) (s : State) (ks : List Call) (k : Call) :
    s.reports c (ks ++ [k]) = s.reports c ks ++ [(k.outcome c (s.run c ks)).report] :=
  s.reports_append c ks [k]

/-- Every update of an initialised governor reports its cycle. -/
lemma reports_of_active (h : g.active = some ⟨c, s⟩) (ks : List Call) :
    g.reports ks = s.reports c ks := by
  induction ks generalizing g s with
  | nil => rfl
  | cons k ks ih =>
    rw [reports, perform_of_active h, ih rfl]
    rfl

/-! ## What holds throughout a run -/

/-- That every call of a run of updates satisfies `P` and every report of it `R`. -/
structure Throughout (P : Call → Prop) (R : CycleReport → Prop) (c : Calibration) (s : State)
    (ks : List Call) : Prop where
  calls : ∀ k ∈ ks, P k
  reports : ∀ report ∈ s.reports c ks, R report

section Throughout
variable {P : Call → Prop} {R : CycleReport → Prop} {ks ks' : List Call}

lemma Throughout.of_append (h : Throughout P R c s (ks ++ ks')) : Throughout P R c s ks where
  calls k hk := h.calls k (List.mem_append_left _ hk)
  reports report hreport := by
    refine h.reports report ?_
    rw [State.reports_append]
    exact List.mem_append_left _ hreport

lemma Throughout.take (h : Throughout P R c s ks) (n : Nat) : Throughout P R c s (ks.take n) := by
  rw [← List.take_append_drop n ks] at h
  exact h.of_append

/-- What holds throughout a run holds of its last update. -/
lemma Throughout.last {k : Call} (h : Throughout P R c s (ks ++ [k])) :
    P k ∧ R (k.outcome c (s.run c ks)).report := by
  refine ⟨h.calls k (List.mem_append_right _ List.mem_cons_self), h.reports _ ?_⟩
  rw [State.reports_concat]
  exact List.mem_append_right _ List.mem_cons_self

end Throughout

/-! ## Starting -/

/-- A governor starts exactly on a valid calibration, in its initial state. -/
lemma init_eq_ok_iff : init (some c) = .ok g ↔ c.IsValid ∧ g = ⟨some ⟨c, .initial c⟩⟩ := by
  rw [← Calibration.validate_eq_ok_iff]
  cases hv : c.validate with
  | error e => simp [init, hv]
  | ok u => simp [init, hv, eq_comm]

/-- Starting over on a valid calibration forgets everything. -/
lemma reinit_of_isValid (g : Governor) (hv : c.IsValid) :
    (g.reinit (some c)).1 = ⟨some ⟨c, .initial c⟩⟩ := by
  rw [reinit, init_eq_ok_iff.mpr ⟨hv, rfl⟩]

/-! ## Invariants -/

/-- That a governor, where it runs, does so on a valid calibration and in a state with `P`. -/
def Satisfies (P : Calibration → State → Prop) (g : Governor) : Prop :=
  ∀ c s, g.active = some ⟨c, s⟩ → c.IsValid ∧ P c s

section Satisfies
variable {P : Calibration → State → Prop}

lemma satisfies_of_init (hinit : ∀ {c}, c.IsValid → P c (.initial c))
    {calibration : Option Calibration} (h : init calibration = .ok g) : g.Satisfies P := by
  intro c s hact
  cases calibration with
  | none =>
    obtain rfl : ({} : Governor) = g := by injection h
    exact nomatch hact
  | some start =>
    obtain ⟨hv, rfl⟩ := init_eq_ok_iff.mp h
    cases hact
    exact ⟨hv, hinit hv⟩

/-- What every cycle keeps and every start brings is kept by every request; a refused calibration
leaves the governor as it is. -/
theorem satisfies_handle (hinit : ∀ {c}, c.IsValid → P c (.initial c))
    (hstep : ∀ {c s}, c.IsValid → P c s → ∀ k : Call, P c (k.outcome c s).state)
    (hg : g.Satisfies P) (r : Request) : (g.handle r).Satisfies P := by
  cases r with
  | update k =>
    show (g.perform k).governor.Satisfies P
    cases hact : g.active with
    | none =>
      rw [perform_of_inactive hact]
      exact hg
    | some a =>
      obtain ⟨c, s⟩ := a
      obtain ⟨hv, hs⟩ := hg c s hact
      rw [perform_of_active hact]
      intro c' s' h
      cases h
      exact ⟨hv, hstep hv hs k⟩
  | reinit calibration =>
    show (g.reinit calibration).1.Satisfies P
    unfold reinit
    split
    · next h => exact satisfies_of_init hinit h
    · exact hg

theorem satisfies_run (hinit : ∀ {c}, c.IsValid → P c (.initial c))
    (hstep : ∀ {c s}, c.IsValid → P c s → ∀ k : Call, P c (k.outcome c s).state)
    (hg : g.Satisfies P) (rs : List Request) : (g.run rs).Satisfies P := by
  induction rs using List.reverseRecOn with
  | nil => exact hg
  | append_singleton rs r ih =>
    rw [Governor.run_concat]
    exact satisfies_handle hinit hstep ih r

end Satisfies

end Governor
end FrontZone
