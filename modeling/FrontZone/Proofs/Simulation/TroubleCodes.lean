import FrontZone.Proofs.Governor.TroubleCodes
import FrontZone.Proofs.History
import FrontZone.Proofs.Simulation.Run
/-!
# Trouble codes across restarts

A restart throws away what a governor knows of its faults, while the event store lives on. A code
that was active then has nobody left to report its recovery: it stays so until the fault comes back
and goes away again, or a clear request wipes the store. `isFailed_iff_leftover` says that this is
the only way for a code to be active without a fault; the main statement is what it means for the
report of a tick.
-/

namespace FrontZone

/-- The codes configured for both actuators. -/
def ZoneCalibration.codes (z : ZoneCalibration) : List Dtc :=
  z.steering.dtc.codes ++ z.brake.dtc.codes

lemma ZoneCalibration.length_codes_le (z : ZoneCalibration) : z.codes.length ≤ maxEventEntries := by
  have hsteering := z.steering.dtc.length_codes_le
  have hbrake := z.brake.dtc.length_codes_le
  have hmax : maxEventEntries = 16 := rfl
  rw [ZoneCalibration.codes, List.length_append, hmax]
  omega

namespace Simulation

open EventStore (Announces outcomesOf)
open Governor (State Call Topic Accounts)

variable {s s' : Simulation} {z : ZoneCalibration} {st : Actuator → State} {a : Actuator}
  {code : Dtc}

/-! ## What every simulation satisfies -/

/-- Governors that run, whose codes are all that the store knows. -/
structure Sound (s : Simulation) (z : ZoneCalibration) (st : Actuator → State) : Prop where
  runs : Runs s z st
  consistent : ∀ a, (st a).Consistent (z.actuator a)
  accounts : ∀ a, Accounts (z.actuator a) (st a).latch (st a).episode
  within : s.services.events.Within z.codes

lemma mem_codes_of_mem_tickEvents {k : Actuator → Call} :
    ∀ e ∈ tickEvents z st k, e.1 ∈ z.codes := by
  intro e he
  rcases List.mem_append.mp he with he | he
  · exact List.mem_append_left _ (Governor.mem_codes_of_mem_events he)
  · exact List.mem_append_right _ (Governor.mem_codes_of_mem_events he)

/-- Where no code is shared, an actuator's code is reported by its own governor alone. -/
lemma outcomesOf_tickEvents (hcodes : z.codes.Nodup) (hcode : code ∈ (z.actuator a).dtc.codes)
    (k : Actuator → Call) :
    outcomesOf code (tickEvents z st k) =
      outcomesOf code ((k a).outcome (z.actuator a) (st a)).events := by
  obtain ⟨-, -, hdisjoint⟩ := List.nodup_append.mp hcodes
  rw [tickEvents, EventStore.outcomesOf_append]
  cases a with
  | steering =>
    have hother : outcomesOf code ((k .brake).outcome z.brake (st .brake)).events = [] :=
      EventStore.outcomesOf_eq_nil fun e he =>
        (hdisjoint code hcode e.1 (Governor.mem_codes_of_mem_events he)).symm
    rw [hother, List.append_nil]
    rfl
  | brake =>
    have hother : outcomesOf code ((k .steering).outcome z.steering (st .steering)).events = [] :=
      EventStore.outcomesOf_eq_nil fun e he =>
        hdisjoint e.1 (Governor.mem_codes_of_mem_events he) code hcode
    rw [hother, List.nil_append]
    rfl

lemma nodup_actuator (hcodes : z.codes.Nodup) (a : Actuator) : (z.actuator a).dtc.codes.Nodup := by
  obtain ⟨hsteering, hbrake, -⟩ := List.nodup_append.mp hcodes
  cases a with
  | steering => exact hsteering
  | brake => exact hbrake

lemma sound_tick (hv : ∀ a, (z.actuator a).IsValid) (hs : Sound s z st) :
    ∃ st', Sound (s.handle .tick) z st' := by
  obtain ⟨k, hk⟩ := tick_cycles hs.runs
  refine ⟨_, hk.runs, fun a => Governor.consistent_outcome (hv a) (hs.consistent a) (k a),
    fun a => Governor.accounts_outcome (hs.accounts a) (k a), ?_⟩
  rw [hk.events_eq]
  exact (EventStore.entry_recordAll hs.within z.length_codes_le mem_codes_of_mem_tickEvents).1

lemma sound_command (hv : ∀ a, (z.actuator a).IsValid) (hs : Sound s z st) (c : Command) :
    ∃ st', Sound (s.handle (.command c)) z st' := by
  by_cases hrestart : ∃ b, c.request = .restart b
  · obtain ⟨b, hb⟩ := hrestart
    refine ⟨_, hs.runs.restart hv hb, fun a => ?_, fun a => ?_, ?_⟩
    · split
      · exact Governor.consistent_initial (hv a)
      · exact hs.consistent a
    · split
      · exact Governor.accounts_initial _
      · exact hs.accounts a
    · rw [(handle_restart s hb).2.1]
      exact hs.within
  by_cases hclear : c.request = .clearDtcs
  · obtain ⟨hcalibration, hgovernor, hevents⟩ := handle_clearDtcs s hclear
    refine ⟨st, ⟨hcalibration.trans hs.runs.calibration_eq, fun a => ?_⟩, hs.consistent, hs.accounts,
      ?_⟩
    · rw [hgovernor a]
      exact hs.runs.active_eq a
    · rw [hevents]
      exact EventStore.within_clear ..
  · have hkeeps := keeps_execute s (fun b hb => hrestart ⟨b, hb⟩) hclear
    refine ⟨st, hs.runs.of_keeps hkeeps, hs.consistent, hs.accounts, ?_⟩
    rw [hkeeps.services_eq]
    exact hs.within

/-! ## Codes with a fault behind them -/

/-- Whether the governor of an actuator fails the test that a code stands for. -/
def Backs (s : Simulation) (a : Actuator) (code : Dtc) : Prop :=
  ∃ active ∈ (s.zone.governor a).active, ∃ t : Topic,
    t.code active.calibration = some code ∧ active.state.fails t

/-- A code has a fault behind it as long as the test of its topic fails. -/
lemma backs_iff {t : Topic} (hs : Runs s z st) (hcodes : z.codes.Nodup)
    (ht : t.code (z.actuator a) = some code) : s.Backs a code ↔ (st a).fails t := by
  unfold Backs
  rw [hs.active_eq a]
  constructor
  · rintro ⟨_, ⟨rfl⟩, t', ht', hfails⟩
    rwa [Topic.code_injective (nodup_actuator hcodes a) ht' ht] at hfails
  · intro hfails
    exact ⟨_, rfl, t, ht, hfails⟩

lemma backs_congr (h : s'.zone.governor a = s.zone.governor a) :
    s'.Backs a code ↔ s.Backs a code := by
  unfold Backs
  rw [h]

/-- After a tick a code without a fault is failed exactly if it was failed without a fault before.
-/
lemma isFailed_tick (hs : Sound s z st) (hcodes : z.codes.Nodup)
    (hcode : code ∈ (z.actuator a).dtc.codes) (hafter : ¬ (s.handle .tick).Backs a code) :
    (s.handle .tick).services.events.isFailed code ↔
      ¬ s.Backs a code ∧ s.services.events.isFailed code := by
  obtain ⟨k, hk⟩ := tick_cycles hs.runs
  obtain ⟨t, ht⟩ := Topic.mem_codes_iff.mp hcode
  rw [backs_iff hk.runs hcodes ht, Bool.not_eq_true] at hafter
  have hannounces := Governor.announces_outcome (hs.consistent a) (hs.accounts a)
    (nodup_actuator hcodes a) ht (k a)
  rw [← outcomesOf_tickEvents hcodes hcode] at hannounces
  have hfailed := EventStore.isFailed_of_announces hs.within z.length_codes_le
    mem_codes_of_mem_tickEvents hannounces hafter
  rw [hk.events_eq, backs_iff hs.runs hcodes ht, hfailed, Bool.and_eq_true,
    Bool.not_eq_true', Bool.not_eq_true]

/-- Whether an event starts the governor of an actuator over. -/
def Event.Restarts (a : Actuator) : Event → Prop
  | .tick => False
  | .command c => c.request = .restart a

/-- Whether an event wipes the event store. -/
def Event.Wipes : Event → Prop
  | .tick => False
  | .command c => c.request = .clearDtcs

/-- A command takes a failure out of the store only by wiping it, and a fault from behind its code
only by a restart. -/
lemma isFailed_command (s : Simulation) (c : Command)
    (hafter : ¬ (s.handle (.command c)).Backs a code) :
    (s.handle (.command c)).services.events.isFailed code ↔
      (¬ s.Backs a code ∨ c.request = .restart a) ∧ c.request ≠ .clearDtcs ∧
        s.services.events.isFailed code := by
  by_cases hrestart : ∃ b, c.request = .restart b
  · obtain ⟨b, hb⟩ := hrestart
    obtain ⟨-, hservices, hgovernor⟩ := handle_restart s hb
    have hforgets : ¬ s.Backs a code ∨ c.request = .restart a := by
      by_cases hsame : a = b
      · exact Or.inr (hsame ▸ hb)
      · rw [backs_congr ((hgovernor a).trans (if_neg hsame))] at hafter
        exact Or.inl hafter
    have hkept : c.request ≠ .clearDtcs := by
      rw [hb]
      exact nofun
    rw [hservices]
    exact ⟨fun hfailed => ⟨hforgets, hkept, hfailed⟩, fun h => h.2.2⟩
  by_cases hclear : c.request = .clearDtcs
  · obtain ⟨-, -, hevents⟩ := handle_clearDtcs s hclear
    rw [hevents]
    exact iff_of_false Bool.false_ne_true fun hkept => hkept.2.1 hclear
  · have hkeeps := keeps_execute s (fun b hb => hrestart ⟨b, hb⟩) hclear
    rw [backs_congr (hkeeps.governor_eq a)] at hafter
    rw [hkeeps.services_eq]
    simp only [hafter, hclear, not_false_eq_true, ne_eq, true_or, true_and]

/-- After any event, a code without a fault behind it is failed exactly if it was failed and not
wiped, and either had no fault behind it before or lost it to a restart. -/
lemma isFailed_handle (hs : Sound s z st) (hcodes : z.codes.Nodup)
    (hcode : code ∈ (z.actuator a).dtc.codes) (e : Event) (hafter : ¬ (s.handle e).Backs a code) :
    (s.handle e).services.events.isFailed code ↔
      (¬ s.Backs a code ∨ e.Restarts a) ∧ ¬ e.Wipes ∧ s.services.events.isFailed code := by
  cases e with
  | tick =>
    rw [isFailed_tick hs hcodes hcode hafter]
    simp only [Event.Restarts, Event.Wipes, or_false, not_false_eq_true, true_and]
  | command c => exact isFailed_command s c hafter

/-! ## What is left over -/

/-- Whether a restart of an actuator found a code active, and since then the governor has not failed
the code's test and no clear request has wiped the code. -/
def Leftover (s : Simulation) (es : List Event) (a : Actuator) (code : Dtc) : Prop :=
  Since (fun past e => e.Restarts a ∧ code ∈ (s.run past).services.events.activeCodes)
    (fun es => ¬ (s.run es).Backs a code ∧ ∀ e ∈ es.getLast?, ¬ e.Wipes) es

lemma leftover_concat (s : Simulation) (es : List Event) (e : Event) (a : Actuator) (code : Dtc) :
    Leftover s (es ++ [e]) a code ↔
      (e.Restarts a ∧ code ∈ (s.run es).services.events.activeCodes ∨ Leftover s es a code) ∧
        ¬ (s.run (es ++ [e])).Backs a code ∧ ¬ e.Wipes := by
  unfold Leftover
  rw [since_concat, List.getLast?_concat]
  simp only [Option.mem_some_iff, forall_eq']

/-! ## Runs -/

lemma sound_of_ofCalibration (h : ofCalibration z = .ok s) :
    Sound s z fun a => .initial (z.actuator a) := by
  obtain ⟨hv, hruns, hservices⟩ := runs_of_ofCalibration h
  refine ⟨hruns, fun a => Governor.consistent_initial (hv a),
    fun a => Governor.accounts_initial _, ?_⟩
  rw [hservices]
  exact EventStore.within_empty _

/-- Whatever happens to a simulation, its governors run and the store knows their codes. -/
theorem sound_run (h : ofCalibration z = .ok s) (es : List Event) : ∃ st, Sound (s.run es) z st := by
  obtain ⟨hv, -, -⟩ := runs_of_ofCalibration h
  induction es using List.reverseRecOn with
  | nil => exact ⟨_, sound_of_ofCalibration h⟩
  | append_singleton es e ih =>
    obtain ⟨st, hs⟩ := ih
    rw [run_concat]
    cases e with
    | tick => exact sound_tick hv hs
    | command c => exact sound_command hv hs c

/-- A code without a fault behind it is failed exactly if it is left over. -/
theorem isFailed_iff_leftover (h : ofCalibration z = .ok s) (hcodes : z.codes.Nodup)
    (hcode : code ∈ (z.actuator a).dtc.codes) (es : List Event) (hopen : ¬ (s.run es).Backs a code) :
    (s.run es).services.events.isFailed code ↔ Leftover s es a code := by
  induction es using List.reverseRecOn with
  | nil =>
    obtain ⟨-, -, hservices⟩ := runs_of_ofCalibration h
    refine iff_of_false ?_ not_since_nil
    show ¬ s.services.events.isFailed code
    rw [hservices]
    exact Bool.false_ne_true
  | append_singleton es e ih =>
    obtain ⟨st, hs⟩ := sound_run h es
    have hleft : Leftover s es a code → ¬ (s.run es).Backs a code := fun hl => hl.now.1
    rw [leftover_concat, EventStore.mem_activeCodes_iff hs.within]
    rw [run_concat] at hopen ⊢
    rw [isFailed_handle hs hcodes hcode e hopen]
    -- before the event, failed without a fault is the same as left over
    tauto

/-- After every tick of every run, a governor that reports no fault finds those of its codes active
that a restart has left over, and no others. -/
theorem active_iff_leftover (h : ofCalibration z = .ok s) (hcodes : z.codes.Nodup) (es : List Event)
    (a : Actuator) :
    let after := s.run (es ++ [.tick])
    ∃ report zoneReport, after.lastReport = some zoneReport ∧ zoneReport.actuator a = some report ∧
      (report.fault = .noFault → ∀ code ∈ (z.actuator a).dtc.codes,
        (code ∈ after.services.events.activeCodes ↔ Leftover s (es ++ [.tick]) a code)) := by
  intro after
  obtain ⟨st, hs⟩ := sound_run h es
  obtain ⟨k, hk⟩ := tick_cycles hs.runs
  obtain ⟨zoneReport, hlast, hreport⟩ := hk.report_eq
  have hafter : after = (s.run es).handle .tick := run_concat ..
  rw [← hafter] at hlast hk
  refine ⟨_, zoneReport, hlast, hreport a, fun hfault code hcode => ?_⟩
  obtain ⟨t, ht⟩ := Topic.mem_codes_iff.mp hcode
  -- without a fault reported no test fails
  have hopen : ¬ after.Backs a code := by
    obtain ⟨-, -, hsame, -, -⟩ := Governor.report_eq_state (z.actuator a) (st a) (k a)
    rw [backs_iff hk.runs hcodes ht, Bool.not_eq_true]
    exact Governor.not_fails_of_noFault (Governor.accounts_outcome (hs.accounts a) (k a))
      (hsame.symm.trans hfault) t
  obtain ⟨st', hs'⟩ := sound_run h (es ++ [.tick])
  rw [EventStore.mem_activeCodes_iff hs'.within]
  exact isFailed_iff_leftover h hcodes hcode (es ++ [.tick]) hopen

/-- A dropout of one cycle, a restart while its code is active, and a tick without a fault: the code
is left over. -/
theorem dropout_code_left_over :
    let z : ZoneCalibration := {}
    let es : List Event :=
      [.command ⟨1, .injectSensorFault .dropout (some 1)⟩, .tick, .command ⟨2, .restart .steering⟩]
    ∃ s report zoneReport, ofCalibration z = .ok s ∧ z.codes.Nodup ∧
      (s.run (es ++ [.tick])).lastReport = some zoneReport ∧ zoneReport.steering = some report ∧
      report.fault = .noFault ∧
      .steerSensor ∈ (s.run (es ++ [.tick])).services.events.activeCodes ∧
      Leftover s (es ++ [.tick]) .steering .steerSensor := by
  intro z es
  have hcodes : z.codes.Nodup := by decide
  have hstart : ∃ s, ofCalibration z = .ok s ∧
      (s.run (es ++ [.tick])).lastReport.any (fun r => r.steering.any (·.fault = .noFault)) ∧
      .steerSensor ∈ (s.run (es ++ [.tick])).services.events.activeCodes :=
    ⟨_, rfl, by decide +kernel, by decide +kernel⟩
  obtain ⟨s, hs, hclean, hactive⟩ := hstart
  obtain ⟨report, zoneReport, hlast, hreport, hiff⟩ := active_iff_leftover hs hcodes es .steering
  have hfault : report.fault = .noFault := by
    rw [hlast, Option.any_some, show zoneReport.steering = some report from hreport] at hclean
    exact of_decide_eq_true hclean
  exact ⟨s, report, zoneReport, hs, hcodes, hlast, hreport, hfault, hactive,
    (hiff hfault .steerSensor (by decide)).mp hactive⟩

/-- After the same run the code of the sensor is active, although no fault is reported. -/
theorem restart_leaves_code_active :
    let z : ZoneCalibration := {}
    let es : List Event :=
      [.command ⟨1, .injectSensorFault .dropout (some 1)⟩, .tick, .command ⟨2, .restart .steering⟩]
    ∃ s, ofCalibration z = .ok s ∧ z.codes.Nodup ∧
      (s.run (es ++ [.tick])).lastReport.any (fun r => r.steering.any (·.fault = .noFault)) ∧
      .steerSensor ∈ z.steering.dtc.codes ∧
      .steerSensor ∈ (s.run (es ++ [.tick])).services.events.activeCodes :=
  ⟨_, rfl, by decide, by decide +kernel, by decide, by decide +kernel⟩

end Simulation
end FrontZone
