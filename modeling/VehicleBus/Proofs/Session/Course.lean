import Mathlib.Logic.Relation
import VehicleBus.Proofs.Session.Endings
import VehicleBus.Proofs.Session.Traffic

/-!
The course of an iteration. A runner at work serves the requests and asks the bus for a frame; then
it breaks down, ends, or ticks its node and carries out what the tick asks for. Carrying out is a
chain of acts, each begun by a runner that is still at work: a frame is handed over, a notification
is published, the queue is pulled, or the runner ends. What every act keeps is kept by the whole of
it, however the bus answers.
-/
namespace VehicleBus.Session

/-- One act of a runner that carries out what its node asked for. -/
inductive Act (session : Session) : Session → Prop where
  /-- A control frame is handed over. -/
  | sends (frame : Frame) :
      Act session (record { session with script := session.script.afterAnswer }
        (.controlSent frame session.script.nextAnswer))
  /-- A waiting frame is handed over. -/
  | hands (entry : Entry) :
      Act session (record { session with script := session.script.afterAnswer }
        (.queuedSent entry session.script.nextAnswer))
  | publishes (event : Notification) : Act session (session.publish event)
  | pulls : Act session session.pullQueue
  /-- The bus failed for good. -/
  | fails (code : Nat) : Act session (session.finish (.transport code))
  /-- The bus broke down. -/
  | breaks : Act session session.abort

/-- A chain of acts, each of a runner at work. -/
abbrev Acts : Session → Session → Prop :=
  Relation.ReflTransGen fun before after => before.ending = none ∧ before.Act after

section Chains

variable {session between last : Session}

theorem Act.acts (act : session.Act last) (running : session.ending = none) : session.Acts last :=
  .single ⟨running, act⟩

/-- Work is continued where the runner is at work still. -/
theorem Acts.unless (next : Session → Session) (first : session.Acts between)
    (rest : between.ending = none → between.Acts (next between)) :
    session.Acts (if between.ending.isSome then between else next between) := by
  cases running : between.ending with
  | none => exact first.trans (rest running)
  | some ending => exact first

theorem acts_afterAnswer (session : Session) (answer : Bus.Answer)
    (running : session.ending = none) : session.Acts (session.afterAnswer answer) := by
  match answer with
  | .accepted => exact .refl
  | .failure (.recoverable _) => exact .refl
  | .failure (.fatal code) => exact (Act.fails code).acts running
  | .crash => exact Act.breaks.acts running

theorem acts_transmitControl (session : Session) (frame : Frame) (running : session.ending = none) :
    session.Acts (session.transmitControl frame) :=
  ((Act.sends frame).acts running).trans (acts_afterAnswer _ _ running)

theorem acts_transmitControls (session : Session) (frames : List Frame)
    (running : session.ending = none) : session.Acts (session.transmitControls frames) := by
  induction frames generalizing session with
  | nil => exact .refl
  | cons frame rest ih =>
    exact Acts.unless (fun sent => sent.transmitControls rest)
      (acts_transmitControl session frame running) (ih _)

theorem acts_publishAll (session : Session) (events : List Notification)
    (running : session.ending = none) : session.Acts (session.publishAll events) := by
  induction events generalizing session with
  | nil => exact .refl
  | cons event rest ih =>
    obtain ⟨_, calm⟩ := session.calm_publish event
    exact ((Act.publishes event).acts running).trans (ih _ (calm.ending.trans running))

theorem acts_transmitQueued (session : Session) (entry : Entry) (running : session.ending = none) :
    session.Acts (session.transmitQueued entry) := by
  have handed := (Act.hands entry).acts running
  show session.Acts (((record { session with script := session.script.afterAnswer }
    (.queuedSent entry session.script.nextAnswer)).afterAnswer session.script.nextAnswer).echo
      entry.frame session.script.nextAnswer)
  unfold echo
  split
  · rename_i wanted
    -- The copy is published by a runner at work: what the bus accepted ended nothing.
    rw [wanted.1] at handed ⊢
    exact handed.trans ((Act.publishes _).acts running)
  · exact handed.trans (acts_afterAnswer _ _ running)

theorem acts_drainQueue (session : Session) (running : session.ending = none) :
    session.Acts session.drainQueue := by
  have pulled := Act.pulls.acts running
  unfold drainQueue
  split
  · split
    · exact pulled
    · rename_i entry _
      exact pulled.trans (session.pullQueue.acts_transmitQueued entry running)
  · exact .refl

/-- What a tick asks for is carried out act by act, once the status was shown. -/
theorem acts_carryOut (session : Session) (outbox : Outbox) (running : session.ending = none) :
    session.showStatus.Acts (session.carryOut outbox) := by
  have sent := acts_transmitControls session.showStatus outbox.transmit running
  refine Acts.unless (fun sent => (sent.publishAll outbox.events).drainQueue) sent fun still => ?_
  obtain ⟨_, calm⟩ :=
    (session.showStatus.transmitControls outbox.transmit).calm_publishAll outbox.events
  exact (acts_publishAll _ outbox.events still).trans
    (acts_drainQueue _ (calm.ending.trans still))

end Chains

/-- What the acts of a runner leave as it is. The queue only shrinks. -/
structure Retains (session after : Session) : Prop where
  node : after.node = session.node
  clock : after.clock = session.clock
  commands : after.commands = session.commands
  stopRequested : after.stopRequested = session.stopRequested
  deliveries : after.script.deliveries = session.script.deliveries
  status : after.status = session.status
  queue : after.queue.size ≤ session.queue.size

section Retention

variable {session between after : Session}

theorem Retains.refl (session : Session) : session.Retains session :=
  ⟨rfl, rfl, rfl, rfl, rfl, rfl, Nat.le_refl _⟩

theorem Retains.trans (first : session.Retains between) (second : between.Retains after) :
    session.Retains after where
  node := second.node.trans first.node
  clock := second.clock.trans first.clock
  commands := second.commands.trans first.commands
  stopRequested := second.stopRequested.trans first.stopRequested
  deliveries := second.deliveries.trans first.deliveries
  status := second.status.trans first.status
  queue := Nat.le_trans second.queue first.queue

theorem Act.retains (act : session.Act after) : session.Retains after := by
  cases act with
  | sends | hands | fails | breaks => exact ⟨rfl, rfl, rfl, rfl, rfl, rfl, Nat.le_refl _⟩
  | publishes event =>
    unfold publish
    split <;> exact ⟨rfl, rfl, rfl, rfl, rfl, rfl, Nat.le_refl _⟩
  | pulls =>
    exact ⟨rfl, rfl, rfl, rfl, rfl, rfl, session.queue.size_afterPull_le session.clock⟩

theorem Acts.retains (acts : session.Acts after) : session.Retains after := by
  induction acts with
  | refl => exact .refl session
  | tail _ last ih => exact ih.trans last.2.retains

end Retention

/-- The session once the requests are served and the bus is asked for a frame. -/
def afterPoll (session : Session) : Session :=
  record { session.record (.began session.clock) with
    node := session.served.value
    commands := []
    script := session.script.afterDelivery } (.polled session.script.nextDelivery)

/-- The tick of the next iteration. -/
def ticked (session : Session) : Reaction Node :=
  session.served.value.tick session.clock session.incoming

/-- The session once its node has ticked. -/
def afterTick (session : Session) : Session :=
  { session.afterPoll with node := session.ticked.value }

/-- How an iteration of a runner at work goes. -/
inductive Course (session : Session) : Session → Prop where
  /-- The clock overflows over the requests that wait. -/
  | swamped (late : ¬ session.served.InRange) :
      Course session (abort { session.record (.began session.clock) with commands := [] })
  /-- The bus fails for good as it is asked. -/
  | failed (code : Nat) (delivered : session.script.nextDelivery = some (.failure (.fatal code))) :
      Course session (session.afterPoll.finish (.transport code))
  /-- The bus breaks down as it is asked. -/
  | broken (delivered : session.script.nextDelivery = some .crash) :
      Course session session.afterPoll.abort
  /-- The clock overflows over the tick. -/
  | overrun (late : ¬ session.ticked.InRange) : Course session session.afterPoll.abort
  /-- The node ticks, and what the tick asks for is carried out. -/
  | carried (inTime : session.ticked.InRange) :
      Course session (session.afterTick.carryOut session.ticked.outbox)

section Iteration

variable (session : Session)

/-- The node is ticked with what the bus delivered. -/
theorem course_tickNode :
    session.Course (session.afterPoll.tickNode session.incoming) := by
  have ticks : session.afterPoll.node.tick session.afterPoll.clock session.incoming =
      session.ticked := rfl
  rw [tickNode, ticks]
  cases settled : session.ticked.settle with
  | none =>
    refine .overrun fun inTime => ?_
    simp [Reaction.settle, inTime] at settled
  | some outcome =>
    obtain ⟨inTime, rfl⟩ := (Reaction.settle_eq_some_iff _ _).mp settled
    exact .carried inTime

theorem course_handle :
    session.Course (session.afterPoll.handle session.script.nextDelivery) := by
  have ticks := session.course_tickNode
  unfold incoming at ticks
  match delivered : session.script.nextDelivery with
  | none =>
    rw [delivered] at ticks
    exact ticks
  | some (.frame frame) =>
    rw [delivered] at ticks
    exact ticks
  | some (.failure (.recoverable _)) =>
    rw [delivered] at ticks
    exact ticks
  | some (.failure (.fatal code)) => exact .failed code delivered
  | some .crash => exact .broken delivered

/-- An iteration of a runner that is at work, and was not asked to stop, takes one of the five
courses. -/
theorem course_iterate (running : session.ending = none) (unasked : session.stopRequested = false) :
    session.Course session.iterate := by
  have on : ¬ session.ending.isSome = true := by simp [running]
  have serves : (session.record (.began session.clock)).served = session.served := rfl
  rw [iterate, if_neg on, if_neg (by simp [unasked]), work, serves]
  cases settled : session.served.settle with
  | none =>
    refine .swamped fun inTime => ?_
    simp [Reaction.settle, inTime] at settled
  | some outcome =>
    obtain ⟨-, rfl⟩ := (Reaction.settle_eq_some_iff _ _).mp settled
    exact session.course_handle

/-- A runner that is at work after an iteration has carried out what the tick asked for. -/
theorem carried_of_goes (running : session.ending = none) (goes : session.iterate.ending = none) :
    session.stopRequested = false ∧ session.ticked.InRange ∧
      session.iterate = session.afterTick.carryOut session.ticked.outbox := by
  cases asked : session.stopRequested with
  | true =>
    rw [session.iterate_of_asked running asked] at goes
    cases goes
  | false =>
    have course := session.course_iterate running asked
    generalize session.iterate = after at course goes
    cases course with
    | swamped => cases goes
    | failed => cases goes
    | broken => cases goes
    | overrun => cases goes
    | carried inTime => exact ⟨rfl, inTime, rfl⟩

end Iteration

end VehicleBus.Session
