import FrontZone.Proofs.Wire.Value
import FrontZone.Simulation.Execution
/-!
# Replies of a simulation

`reply_execute`: whatever is asked for, the reply has the number of the command and the cycle at
which it was carried out, and data only where the status or the stored trouble codes are asked for
(`replyData`). What that data holds, every receiver reads as it was written (`faithful_execute`).
-/

namespace FrontZone

namespace Simulation

/-- The data that a request is answered with. -/
def replyData (s : Simulation) : Request → Option Json
  | .status => some s.status.toJson.sorted
  | .getDtcs => some (Json.ofList DtcEntry.toJson s.services.events.entries).sorted
  | _ => none

/-- A reply of the present cycle with the data for its command. -/
def Replies (s : Simulation) (c : Command) (r : Reply) : Prop :=
  ∃ status message, r = { s.reply c status message with data := s.replyData c.request }

lemma replies_reply {s : Simulation} {c : Command} (h : s.replyData c.request = none)
    (status : ReplyStatus) (message : String) : s.Replies c (s.reply c status message) :=
  ⟨status, message, by rw [h]; rfl⟩

lemma replies_scheduleFault (s : Simulation) (c : Command) (fault : SensorFault)
    (duration : Option UInt32) (h : s.replyData c.request = none) :
    s.Replies c (s.scheduleFault c fault duration).2 := by
  unfold scheduleFault
  dsimp only
  split
  · exact replies_reply h _ _
  · exact replies_reply h _ _

lemma replies_runScenario (s : Simulation) (c : Command) (scenario : Scenario)
    (h : s.replyData c.request = none) : s.Replies c (s.runScenario c scenario).value.2 := by
  unfold runScenario
  dsimp only
  split
  · exact replies_reply h _ _
  · exact replies_reply h _ _

/-- Starting a governor over does not count as a cycle. -/
lemma cycle_reinit (z : Zone) (a : Actuator) (calibration : Option Calibration) :
    (z.reinit a calibration).value.1.cycle = z.cycle := by
  cases a <;> rfl

lemma replies_restart (s : Simulation) (c : Command) (a : Actuator)
    (h : s.replyData c.request = none) : s.Replies c (s.restart c a).value.2 := by
  unfold restart
  simp only [Logged.value_bind]
  split
  · refine ⟨.success, "governor re-initialised", ?_⟩
    simp only [Logged.value_pure, h, reply, cycle, cycle_reinit]
  · next e _ =>
    refine ⟨.error, e.message, ?_⟩
    simp only [Logged.value_pure, h, reply, cycle, cycle_reinit]

/-- The reply to a command has its number, the present cycle and the data for its request. -/
theorem reply_execute (s : Simulation) (c : Command) : s.Replies c (s.execute c).value.2 := by
  obtain ⟨id, request⟩ := c
  cases request with
  | status | getDtcs => exact ⟨_, _, rfl⟩
  | injectSensorFault fault duration => exact replies_scheduleFault s _ fault duration rfl
  | runScenario scenario => exact replies_runScenario s _ scenario rfl
  | restart a => exact replies_restart s _ a rfl
  -- every other request is answered in fixed words, by the cycle as it was
  | _ => exact ⟨_, _, rfl⟩

lemma id_execute (s : Simulation) (c : Command) : (s.execute c).value.2.id = c.id := by
  obtain ⟨status, message, h⟩ := reply_execute s c
  rw [h]
  rfl

lemma cycle_execute (s : Simulation) (c : Command) : (s.execute c).value.2.cycle = s.cycle := by
  obtain ⟨status, message, h⟩ := reply_execute s c
  rw [h]
  rfl

/-- The data of a reply is faithful. -/
theorem faithful_execute {n : Nat} (s : Simulation) (c : Command) :
    ∀ j ∈ (s.execute c).value.2.data, Json.Faithful (n + 5) j := by
  obtain ⟨status, message, h⟩ := reply_execute s c
  rw [h]
  intro j hj
  have hj : s.replyData c.request = some j := hj
  unfold replyData at hj
  split at hj
  · obtain rfl := Option.some.inj hj
    exact s.status.faithful_toJson.sorted
  · obtain rfl := Option.some.inj hj
    exact (Json.faithful_ofList DtcEntry.faithful_toJson _).sorted
  · exact nomatch hj

end Simulation

end FrontZone
