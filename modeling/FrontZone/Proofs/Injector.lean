import FrontZone.Injector
import FrontZone.Proofs.History
import FrontZone.Proofs.Rig
/-!
# An injector on its rig

An injector opens every control cycle of its rig, and may be told in between to give a fault or to
take it. `opens_update` says once what the opening of a cycle can do, and `begins_handle` what the
beginning of a fault does, whether it was asked for or drawn. Whatever happens, the faults of the
sensor are those of the fault in force (`matches_run`).
-/

namespace FrontZone

/-- Whether the faults of a sensor are those of one fault in force, wherever a stuck sensor froze,
or none where none is in force. -/
def Disturbance.Shows (d : Disturbance) : Option SensorFault → Prop
  | none => d = {}
  | some .dropout => d = { failReads := true }
  | some (.offset deg) => d = { offset := deg }
  | some .stuck => ∃ value, d = { stuckAt := some value }

lemma Rig.shows_disturbanceOf (r : Rig) (fault : SensorFault) :
    (r.disturbanceOf fault).Shows (some fault) := by
  cases fault with
  | dropout => rfl
  | offset deg => rfl
  | stuck => exact ⟨_, rfl⟩

lemma Disturbance.Shows.pendingFailures_eq {d : Disturbance} {fault : Option SensorFault}
    (h : d.Shows fault) : d.pendingFailures = 0 := by
  rcases fault with _ | _ | deg | _
  · rw [show d = {} from h]
  · rw [show d = { failReads := true } from h]
  · rw [show d = { offset := deg } from h]
  · obtain ⟨value, rfl⟩ := h
    rfl

namespace Injector

/-- An injector and the rig whose sensor it gives faults. -/
structure Bench where
  injector : Injector
  rig : Rig

namespace Bench

/-- What can happen to an injector and its rig. -/
inductive Event where
  /-- A control cycle opens. -/
  | update
  | inject (fault : SensorFault) (duration : Option UInt32)
  | clear
  | setEnabled (enabled : Bool)
  | use (u : Rig.Use)

/-- Whether an event gives a fault or takes one by hand. -/
def Event.interferes : Event → Bool
  | .inject _ _ => true
  | .clear => true
  | _ => false

/-- The bench after an operation of the injector. -/
def ofPair (p : Injector × Rig) : Bench := ⟨p.1, p.2⟩

/-- The bench after one event. -/
def handle (b : Bench) : Event → Bench
  | .update => ofPair (b.injector.update b.rig).value
  | .inject fault duration => ofPair (b.injector.inject fault duration b.rig).value
  | .clear => ofPair (b.injector.clear b.rig)
  | .setEnabled enabled => ⟨b.injector.setEnabled enabled, b.rig⟩
  | .use u => ⟨b.injector, b.rig.use u⟩

/-- The bench after a run of events. -/
def run (b : Bench) (es : List Event) : Bench :=
  es.foldl handle b

variable {b b' : Bench} {e : Event} {fault : SensorFault} {duration : Option UInt32}

lemma run_concat (b : Bench) (es : List Event) (e : Event) :
    b.run (es ++ [e]) = (b.run es).handle e :=
  List.foldl_concat ..

/-! ## Beginnings -/

/-- The fault that the next update draws, with its duration. None is drawn while one is in force. -/
def drawn? (b : Bench) : Option (SensorFault × UInt32) :=
  if b.injector.active.isNone && b.injector.settings.enabled then
    (draw b.injector.settings b.injector.random).1
  else none

/-- The fault that an event begins, with its duration. -/
def begins? (b : Bench) : Event → Option (SensorFault × Option UInt32)
  | .update => b.drawn?.map fun x => (x.1, some x.2)
  | .inject fault duration => some (fault, duration)
  | _ => none

/-- A fault that has just begun, by one event, in place of any other. -/
structure Begun (b b' : Bench) (fault : SensorFault) (duration : Option UInt32) : Prop where
  active_eq : ∃ cycle, b'.injector.active =
    some ⟨fault, duration.map fun d => if d = 0 then 0 else d - 1, cycle⟩
  stats_eq : b'.injector.stats = b.injector.stats.count fault
  rig_eq : b'.rig = b.rig.suffer fault

/-! ## The opening of a cycle -/

/-- What an update can do. -/
inductive Opens (b : Bench) : Bench → Prop where
  /-- It takes the fault that has no cycles left. -/
  | expires {a : ActiveSensorFault} {injector : Injector} (hactive : b.injector.active = some a)
      (hdone : a.remainingCycles = some 0) (hnone : injector.active = none)
      (hstats : injector.stats =
        { b.injector.stats with expired := b.injector.stats.expired + 1 }) :
      Opens b ⟨injector, b.rig.clearFaults⟩
  /-- It counts down the fault that has some left. -/
  | ages {a : ActiveSensorFault} {n : UInt32} {injector : Injector}
      (hactive : b.injector.active = some a) (hleft : a.remainingCycles = some n) (hn : n ≠ 0)
      (haged : injector.active = some { a with remainingCycles := some (n - 1) })
      (hstats : injector.stats = b.injector.stats) : Opens b ⟨injector, b.rig⟩
  /-- It leaves the fault that lasts until cleared. -/
  | lasts {a : ActiveSensorFault} {injector : Injector} (hactive : b.injector.active = some a)
      (hforever : a.remainingCycles = none) (hsame : injector.active = some a)
      (hstats : injector.stats = b.injector.stats) : Opens b ⟨injector, b.rig⟩
  /-- It begins the fault that it draws. -/
  | begins {b' : Bench} {fault : SensorFault} {d : UInt32} (hidle : b.injector.active = none)
      (hdrawn : b.drawn? = some (fault, d)) (hbegun : Begun b b' fault (some d)) : Opens b b'
  /-- It draws none. -/
  | passes {injector : Injector} (hidle : b.injector.active = none) (hdrawn : b.drawn? = none)
      (hnone : injector.active = none) (hstats : injector.stats = b.injector.stats) :
      Opens b ⟨injector, b.rig⟩

/-- What is drawn comes from the settings by some random byte and word. -/
lemma drawn?_eq_some {d : UInt32} (h : b.drawn? = some (fault, d)) :
    b.injector.active = none ∧ ∃ byte word, b.injector.settings.hasWeight ∧
      fault = b.injector.settings.pick byte ∧ d = b.injector.settings.duration word := by
  unfold drawn? at h
  split at h
  · next hopen =>
    obtain ⟨hidle, -⟩ := Bool.and_eq_true_iff.mp hopen
    refine ⟨Option.isNone_iff_eq_none.mp hidle, ?_⟩
    unfold draw at h
    generalize b.injector.random.next = random at h
    dsimp only at h
    split at h
    · next hdraws =>
      obtain ⟨-, hweight⟩ := Bool.and_eq_true_iff.mp hdraws
      split at h
      · obtain ⟨rfl, rfl⟩ := Prod.mk.inj (Option.some.inj h)
        exact ⟨_, _, hweight, rfl, rfl⟩
      · obtain ⟨rfl, rfl⟩ := Prod.mk.inj (Option.some.inj h)
        exact ⟨_, _, hweight, rfl, rfl⟩
    · exact nomatch h
  · exact nomatch h

lemma drawn?_of_idle (hidle : b.injector.active = none) :
    b.drawn? = if b.injector.settings.enabled then (draw b.injector.settings b.injector.random).1
      else none := by
  rw [drawn?, hidle, Option.isNone_none, Bool.true_and]

lemma drawn?_of_active {a : ActiveSensorFault} (hactive : b.injector.active = some a) :
    b.drawn? = none := by
  rw [drawn?, hactive, Option.isNone_some, Bool.false_and, if_neg Bool.false_ne_true]

lemma opens_update (b : Bench) : Opens b (b.handle .update) := by
  show Opens b (ofPair (b.injector.update b.rig).value)
  unfold Injector.update
  extract_lets counted
  split
  · next a ha =>
    unfold Injector.age
    split
    · next hforever => exact .lasts ha hforever ha rfl
    · next n hleft =>
      split
      · next hn =>
        subst hn
        exact .expires ha hleft rfl rfl
      · next hn => exact .ages ha hleft hn rfl rfl
  · next ha =>
    have hdrawn : b.drawn? = if counted.settings.enabled then
        (draw counted.settings counted.random).1 else none := drawn?_of_idle ha
    -- what is drawn has to be out of sight before anything reduces
    generalize draw counted.settings counted.random = drawn at hdrawn ⊢
    obtain ⟨x, random⟩ := drawn
    dsimp only at hdrawn
    split
    · next henabled =>
      rw [if_pos henabled] at hdrawn
      cases x with
      | none => exact .passes ha hdrawn ha rfl
      | some x => exact .begins ha hdrawn ⟨⟨_, rfl⟩, rfl, rfl⟩
    · next henabled =>
      rw [if_neg henabled] at hdrawn
      exact .passes ha hdrawn ha rfl

/-- A fault is drawn only if none is in force, and then it is the one that begins. -/
lemma Opens.begun {d : UInt32} (h : Opens b b') (hdrawn : b.drawn? = some (fault, d)) :
    Begun b b' fault (some d) := by
  cases h with
  | begins hidle hdrawn' hbegun =>
    rw [hdrawn] at hdrawn'
    injection hdrawn' with hx
    obtain ⟨rfl, rfl⟩ := Prod.mk.inj hx
    exact hbegun
  | passes hidle hnone => exact nomatch hnone.symm.trans hdrawn
  | expires hactive => exact nomatch (drawn?_of_active hactive).symm.trans hdrawn
  | ages hactive => exact nomatch (drawn?_of_active hactive).symm.trans hdrawn
  | lasts hactive => exact nomatch (drawn?_of_active hactive).symm.trans hdrawn

/-- The beginning of a fault, asked for or drawn. -/
lemma begins_handle (h : b.begins? e = some (fault, duration)) :
    Begun b (b.handle e) fault duration := by
  cases e with
  | update =>
    obtain ⟨x, hdrawn, hx⟩ := Option.map_eq_some_iff.mp h
    obtain ⟨rfl, rfl⟩ := Prod.mk.inj hx
    exact b.opens_update.begun hdrawn
  | inject fault duration =>
    obtain ⟨rfl, rfl⟩ := Prod.mk.inj (Option.some.inj h)
    exact ⟨⟨_, rfl⟩, rfl, rfl⟩
  | clear => exact nomatch h
  | setEnabled enabled => exact nomatch h
  | use u => exact nomatch h

/-! ## The sensor and the fault in force -/

/-- A bench whose sensor has the faults of the fault in force, and no others. -/
def Matches (b : Bench) : Prop :=
  b.rig.disturbance.Shows (b.injector.active.map (·.fault))

lemma Begun.matches (h : Begun b b' fault duration) : b'.Matches := by
  obtain ⟨cycle, hactive⟩ := h.active_eq
  unfold Matches
  rw [hactive, h.rig_eq]
  exact b.rig.shows_disturbanceOf fault

lemma Opens.matches (hopens : Opens b b') (h : b.Matches) : b'.Matches := by
  unfold Matches at h ⊢
  cases hopens with
  | expires hactive hdone hnone =>
    rw [hnone]
    rfl
  | ages hactive hleft hn haged =>
    rw [hactive] at h
    rw [haged]
    exact h
  | lasts hactive hforever hsame =>
    rw [hactive] at h
    rw [hsame]
    exact h
  | begins hidle hdrawn hbegun => exact hbegun.matches
  | passes hidle hdrawn hnone =>
    rw [hidle] at h
    rw [hnone]
    exact h

lemma matches_handle (h : b.Matches) (e : Event) : (b.handle e).Matches := by
  cases e with
  | update => exact b.opens_update.matches h
  | inject fault duration => exact (begins_handle (e := .inject fault duration) rfl).matches
  | clear => exact rfl
  | setEnabled enabled => exact h
  | use u =>
    unfold Matches at h ⊢
    show (b.rig.use u).disturbance.Shows _
    rw [Rig.disturbance_use h.pendingFailures_eq u]
    exact h

theorem matches_run (h : b.Matches) (es : List Event) : (b.run es).Matches := by
  induction es using List.reverseRecOn with
  | nil => exact h
  | append_singleton es e ih =>
    rw [run_concat]
    exact matches_handle ih e

end Bench
end Injector
end FrontZone
