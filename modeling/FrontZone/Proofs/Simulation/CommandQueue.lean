import FrontZone.Proofs.History
import FrontZone.Proofs.Simulation.Replies
import FrontZone.Proofs.Simulation.Run
/-!
# Commands that wait

A client may put commands into a bounded queue, have all of them carried out, and fetch the replies,
of which the newest are kept. The `Ledger` of a run has no bounds: it keeps every command accepted
and every one carried out, so that what waits and what is unread are read off. `follows_ledger` says
that a simulation does what the ledger of its run says, wherever its buffers are full. The mailbox,
that is the queue and the kept replies, is not looked at by anything else (`execute_withMail`,
`tick_withMail`).
-/

namespace FrontZone

namespace Simulation

/-! ## The mailbox is not read -/

/-- The simulation with another queue and other replies. -/
def withMail (s : Simulation) (queue : List Command) (replies : List Reply) : Simulation :=
  { s with queue, replies }

/-- The simulation without its mailbox. -/
def bare (s : Simulation) : Simulation :=
  s.withMail [] []

variable {z : ZoneCalibration} {start s : Simulation}

section Mail
variable (s) (queue : List Command) (replies : List Reply)

lemma apply_withMail (stimulus : Stimulus) :
    ((s.withMail queue replies).apply stimulus).value =
      (s.apply stimulus).value.withMail queue replies := by
  cases stimulus with
  | emergencyStop active => cases active <;> rfl
  | _ => rfl

lemma emit_withMail (report : ZoneReport) :
    ((s.withMail queue replies).emit report).1 = (s.emit report).1.withMail queue replies := by
  unfold emit
  dsimp only
  show (if (s.telemetry.observe report.faultMask).2 then _ else _ : Simulation × _).1 = _
  split <;> rfl

lemma tick_withMail :
    (s.withMail queue replies).tick.value.1 = s.tick.value.1.withMail queue replies := by
  have hdue : (s.withMail queue replies).openCycle.value.applyDue.value =
      s.openCycle.value.applyDue.value.withMail queue replies :=
    applyAll_map _ (fun s stimulus => apply_withMail s queue replies stimulus)
      { s.openCycle.value with
        schedule := (s.openCycle.value.schedule.takeDue s.openCycle.value.cycle).1 }
  rw [tick_value, tick_value, hdue]
  generalize s.openCycle.value.applyDue.value = due
  exact emit_withMail due.control.value queue replies (due.zone.perform due.call).report

section Execute
variable (c : Command)

lemma scheduleFault_withMail (fault : SensorFault) (duration : Option UInt32) :
    (s.withMail queue replies).scheduleFault c fault duration =
      ((s.scheduleFault c fault duration).1.withMail queue replies,
        (s.scheduleFault c fault duration).2) := by
  unfold scheduleFault
  dsimp only [withMail, cycle]
  split <;> rfl

lemma runScenario_withMail (scenario : Scenario) :
    ((s.withMail queue replies).runScenario c scenario).value =
      ((s.runScenario c scenario).value.1.withMail queue replies,
        (s.runScenario c scenario).value.2) := by
  unfold runScenario
  dsimp only [withMail, cycle]
  split <;> rfl

lemma restart_withMail (a : Actuator) :
    ((s.withMail queue replies).restart c a).value =
      ((s.restart c a).value.1.withMail queue replies, (s.restart c a).value.2) := by
  unfold restart
  simp only [Logged.value_bind]
  cases a <;> dsimp only [withMail] <;> split <;> rfl

/-- A command is carried out and answered alike whatever waits and whatever is unread. -/
theorem execute_withMail :
    ((s.withMail queue replies).execute c).value =
      ((s.execute c).value.1.withMail queue replies, (s.execute c).value.2) := by
  obtain ⟨id, request⟩ := c
  cases request with
  | injectSensorFault fault duration =>
    exact scheduleFault_withMail s queue replies _ fault duration
  | runScenario scenario => exact runScenario_withMail s queue replies _ scenario
  | restart a => exact restart_withMail s queue replies _ a
  | emergencyStop active => cases active <;> rfl
  | _ => rfl

end Execute

end Mail

/-! ## The ledger -/

/-- A command carried out from the queue. -/
structure Execution where
  command : Command
  /-- The simulation that it was carried out against. -/
  before : Simulation
  reply : Reply

/-- Commands carried out in order, each against what the one before has left. -/
def executions : Simulation → List Command → List Execution
  | _, [] => []
  | s, c :: rest => ⟨c, s, (s.execute c).value.2⟩ :: executions (s.execute c).value.1 rest

/-- What has come of a run. -/
structure Ledger where
  /-- The simulation without its mailbox. -/
  simulation : Simulation
  /-- The commands accepted, oldest first. -/
  accepted : List Command := []
  /-- Those carried out, oldest first. -/
  carriedOut : List Execution := []
  /-- How many had been carried out when the replies were last fetched. -/
  fetched : Nat := 0

namespace Ledger

/-- The commands accepted and not yet carried out. -/
def waiting (l : Ledger) : List Command :=
  l.accepted.drop l.carriedOut.length

/-- The replies given since they were last fetched. -/
def unread (l : Ledger) : List Reply :=
  (l.carriedOut.drop l.fetched).map (·.reply)

/-- The ledger after an operation. -/
def enter (l : Ledger) : Operation → Ledger
  | .enqueue c => if l.waiting.length = 15 then l else { l with accepted := l.accepted ++ [c] }
  | .processQueue =>
    { l with
      simulation := l.simulation.operateAll (l.waiting.map .execute)
      carriedOut := l.carriedOut ++ executions l.simulation l.waiting }
  | .takeReplies => { l with fetched := l.carriedOut.length }
  | op => { l with simulation := l.simulation.operate op }

/-- The ledger of a run. -/
def ofRun (start : Simulation) (ops : List Operation) : Ledger :=
  ops.foldl enter { simulation := start.bare }

lemma ofRun_concat (start : Simulation) (ops : List Operation) (op : Operation) :
    ofRun start (ops ++ [op]) = (ofRun start ops).enter op :=
  List.foldl_concat ..

end Ledger

/-! ## One operation -/

lemma map_command_executions (s : Simulation) (cs : List Command) :
    (executions s cs).map (·.command) = cs := by
  induction cs generalizing s with
  | nil => rfl
  | cons c rest ih => exact congrArg (c :: ·) (ih _)

lemma answered_executions (s : Simulation) (cs : List Command) :
    ∀ e ∈ executions s cs, e.reply.id = e.command.id ∧ e.reply.cycle = e.before.cycle := by
  induction cs generalizing s with
  | nil => exact List.forall_mem_nil _
  | cons c rest ih =>
    exact List.forall_mem_cons.mpr ⟨⟨id_execute s c, cycle_execute s c⟩, ih _⟩

/-- Carrying out commands keeps the newest of their replies and does not touch the queue. -/
lemma executeAll_withMail (s : Simulation) (queue : List Command) (replies : List Reply)
    (cs : List Command) :
    (executeAll cs (s.withMail queue replies)).value =
      (s.operateAll (cs.map .execute)).withMail queue
        (((executions s cs).map (·.reply)).foldl (pushRecent maxReplies) replies) := by
  induction cs generalizing s replies with
  | nil => rfl
  | cons c rest ih =>
    unfold executeAll
    simp only [Logged.value_bind]
    rw [execute_withMail]
    exact ih (s.execute c).value.1 _

/-- A simulation whose mailbox is empty keeps it empty while it carries out commands. -/
lemma bare_operateAll (s : Simulation) (cs : List Command) :
    (s.bare.operateAll (cs.map .execute)).bare = s.bare.operateAll (cs.map .execute) := by
  induction cs generalizing s with
  | nil => rfl
  | cons c rest ih =>
    have hnext : (s.bare.execute c).value.1 = (s.execute c).value.1.bare :=
      congrArg Prod.fst (execute_withMail s [] [] c)
    show (((s.bare.execute c).value.1).operateAll (rest.map .execute)).bare =
      ((s.bare.execute c).value.1).operateAll (rest.map .execute)
    rw [hnext]
    exact ih _

/-- What the ledger of a run says about the simulation after it. -/
structure Conforms (l : Ledger) (s : Simulation) : Prop where
  bare_eq : s.bare = l.simulation
  queue_eq : s.queue = l.waiting
  replies_eq : s.replies = lastN maxReplies l.unread
  accepted_eq : l.carriedOut.map (·.command) ++ l.waiting = l.accepted
  waiting_le : l.waiting.length ≤ maxQueuedCommands
  fetched_le : l.fetched ≤ l.carriedOut.length
  answered : ∀ e ∈ l.carriedOut, e.reply.id = e.command.id ∧ e.reply.cycle = e.before.cycle

section Conforms
variable {l : Ledger}

lemma conforms_start (hqueue : start.queue = []) (hreplies : start.replies = []) :
    Conforms { simulation := start.bare } start :=
  ⟨rfl, hqueue, hreplies, rfl, Nat.zero_le _, Nat.le_refl _, List.forall_mem_nil _⟩

namespace Conforms

/-- A command is refused exactly if as many wait as can. -/
lemma enqueue_eq_none_iff (h : Conforms l s) (c : Command) :
    s.enqueue c = none ↔ l.waiting.length = maxQueuedCommands := by
  have hle := h.waiting_le
  unfold Simulation.enqueue
  rw [h.queue_eq]
  split
  · simp only [reduceCtorEq, false_iff]
    omega
  · simp only [true_iff]
    omega

lemma length_accepted (h : Conforms l s) :
    l.accepted.length = l.carriedOut.length + l.waiting.length := by
  rw [← h.accepted_eq, List.length_append, List.length_map]

lemma enqueue (h : Conforms l s) (c : Command) :
    Conforms (l.enter (.enqueue c)) (s.operate (.enqueue c)) := by
  unfold Ledger.enter operate
  dsimp only
  by_cases hfull : l.waiting.length = 15
  · rw [if_pos hfull, (h.enqueue_eq_none_iff c).mpr hfull]
    exact h
  · have hlt : s.queue.length < maxQueuedCommands := by
      have hle := h.waiting_le
      rw [h.queue_eq]
      exact Nat.lt_of_le_of_ne hle hfull
    have hcarried : l.carriedOut.length ≤ l.accepted.length := by
      rw [h.length_accepted]
      exact Nat.le_add_right _ _
    have hwaiting : ({ l with accepted := l.accepted ++ [c] } : Ledger).waiting =
        l.waiting ++ [c] := List.drop_append_of_le_length hcarried
    rw [if_neg hfull, Simulation.enqueue, if_pos hlt, Option.getD_some]
    exact
      { bare_eq := h.bare_eq
        queue_eq := by rw [hwaiting, ← h.queue_eq]
        replies_eq := h.replies_eq
        accepted_eq := by rw [hwaiting, ← List.append_assoc, h.accepted_eq]
        waiting_le := by
          rw [hwaiting, List.length_append, ← h.queue_eq]
          exact hlt
        fetched_le := h.fetched_le
        answered := h.answered }

/-- Processing carries out all that wait and keeps the newest replies. -/
lemma processQueue_eq (h : Conforms l s) :
    s.processQueue.value =
      (l.simulation.operateAll (l.waiting.map .execute)).withMail []
        (lastN maxReplies (l.enter .processQueue).unread) := by
  have hunread : (l.enter .processQueue).unread =
      l.unread ++ (executions l.simulation l.waiting).map (·.reply) := by
    show ((l.carriedOut ++ executions l.simulation l.waiting).drop l.fetched).map _ = _
    rw [List.drop_append_of_le_length h.fetched_le, List.map_append]
    rfl
  rw [hunread, ← foldl_pushRecent, ← h.replies_eq, ← h.bare_eq, ← h.queue_eq]
  exact executeAll_withMail s.bare [] s.replies s.queue

lemma process (h : Conforms l s) :
    Conforms (l.enter .processQueue) (s.operate .processQueue) := by
  show Conforms _ s.processQueue.value
  have hcommands : (l.enter .processQueue).carriedOut.map (·.command) = l.accepted := by
    show (l.carriedOut ++ executions l.simulation l.waiting).map _ = _
    rw [List.map_append, map_command_executions, h.accepted_eq]
  have hwaiting : (l.enter .processQueue).waiting = [] := by
    rw [Ledger.waiting, ← List.length_map (·.command), hcommands]
    exact List.drop_length
  have hbare := bare_operateAll s l.waiting
  rw [h.bare_eq] at hbare
  rw [h.processQueue_eq]
  exact
    { bare_eq := hbare
      queue_eq := hwaiting.symm
      replies_eq := rfl
      accepted_eq := by rw [hwaiting, List.append_nil, hcommands]; rfl
      waiting_le := by rw [hwaiting]; exact Nat.zero_le _
      fetched_le := by
        rw [← List.length_map (·.command), hcommands, h.length_accepted]
        exact h.fetched_le.trans (Nat.le_add_right _ _)
      answered := List.forall_mem_append.mpr ⟨h.answered, answered_executions _ _⟩ }

lemma take (h : Conforms l s) : Conforms (l.enter .takeReplies) (s.operate .takeReplies) :=
  { h with
    replies_eq := by
      show [] = lastN maxReplies ((l.carriedOut.drop l.carriedOut.length).map _)
      rw [List.drop_length]
      rfl
    fetched_le := Nat.le_refl _ }

/-- What does not look at the mailbox leaves the commands and replies as they are. -/
lemma pass (h : Conforms l s) {op : Operation}
    (hop : ∀ (s : Simulation) queue replies,
      (s.withMail queue replies).operate op = (s.operate op).withMail queue replies) :
    Conforms { l with simulation := l.simulation.operate op } (s.operate op) := by
  have hs : s.operate op = (s.bare.operate op).withMail s.queue s.replies :=
    hop s.bare s.queue s.replies
  have hbare : (s.bare.operate op).bare = s.bare.operate op := (hop s.bare [] []).symm
  rw [hs]
  exact
    { h with
      bare_eq := by
        rw [← h.bare_eq]
        exact hbare
      queue_eq := h.queue_eq
      replies_eq := h.replies_eq }

/-- Every operation is entered as it happens. -/
theorem operate (h : Conforms l s) (op : Operation) : Conforms (l.enter op) (s.operate op) := by
  cases op with
  | tick => exact h.pass tick_withMail
  | apply stimulus => exact h.pass fun s queue replies => apply_withMail s queue replies stimulus
  | execute c =>
    exact h.pass fun s queue replies => congrArg Prod.fst (execute_withMail s queue replies c)
  | enqueue c => exact h.enqueue c
  | processQueue => exact h.process
  | takeReplies => exact h.take

end Conforms

theorem conforms_operateAll (hqueue : start.queue = []) (hreplies : start.replies = [])
    (ops : List Operation) : Conforms (.ofRun start ops) (start.operateAll ops) := by
  induction ops using List.reverseRecOn with
  | nil => exact conforms_start hqueue hreplies
  | append_singleton ops op ih =>
    rw [Ledger.ofRun_concat, operateAll_concat]
    exact ih.operate op

end Conforms

/-! ## Whole runs -/

/-- Whatever was asked of a simulation since its start, it is as its ledger says. Each command
accepted was carried out once and in order, or waits; a command is refused, and changes nothing,
exactly if fifteen wait; those that wait are carried out one after the other; and of the replies not
yet fetched, each with the number of its command and the cycle at which that was carried out, the
newest sixteen are fetched. -/
theorem follows_ledger (hstart : ofCalibration z = .ok start) (ops : List Operation) :
    let s := start.operateAll ops
    let l := Ledger.ofRun start ops
    s.bare = l.simulation ∧
      l.carriedOut.map (·.command) ++ l.waiting = l.accepted ∧
      (∀ c, (s.enqueue c = none ↔ l.waiting.length = 15) ∧
        (s.enqueue c = none → s.operate (.enqueue c) = s)) ∧
      s.processQueue.value.bare = l.simulation.operateAll (l.waiting.map .execute) ∧
      s.takeReplies.2 = lastN 16 l.unread ∧
      ∀ e ∈ l.carriedOut, e.reply.id = e.command.id ∧ e.reply.cycle = e.before.cycle := by
  intro s l
  have h : Conforms l s := by
    obtain ⟨zone, -, rfl⟩ := eq_of_ofCalibration hstart
    exact conforms_operateAll rfl rfl ops
  refine ⟨h.bare_eq, h.accepted_eq, fun c => ⟨h.enqueue_eq_none_iff c, fun hnone => ?_⟩,
    h.process.bare_eq, h.replies_eq, h.answered⟩
  show (s.enqueue c).getD s = s
  rw [hnone, Option.getD_none]

/-- Of sixteen commands the last is refused; once those accepted have been carried out and two more
after a tick, the reply to the first is the one that is not kept. -/
theorem newest_replies_fetched :
    let ops : List Operation :=
      (List.range 16).map (fun n => .enqueue ⟨.ofNat (n + 1), .ping⟩) ++
        [.processQueue, .tick, .enqueue ⟨17, .ping⟩, .enqueue ⟨18, .status⟩, .processQueue]
    ∃ start, ofCalibration {} = .ok start ∧
      (start.operateAll ops).takeReplies.2.map (fun r => (r.id, r.cycle)) =
        (List.range 14).map (fun n => (.ofNat (n + 2), 0)) ++ [(17, 1), (18, 1)] := by
  intro ops
  have hstart : ofCalibration {} = .ok _ := rfl
  obtain ⟨-, -, -, -, hfetched, -⟩ := follows_ledger hstart ops
  refine ⟨_, hstart, ?_⟩
  rw [hfetched]
  decide +kernel

end Simulation
end FrontZone
