import VehicleBus.Proofs.Node.Stages
import VehicleBus.Session.Run

/-!
What an input comes to. An iteration of the runner prepares, which the journal shows by beginnings,
polls and the closing of the bus, and either rests there or ticks the node and carries out what the
tick asks for. Every other input leaves the node alone, and what it does to the queues fits in one
occurrence.
-/
namespace VehicleBus

/-- The occurrence belongs to the preparation of an iteration, or to its end. -/
@[simp] def Occurrence.Plain : Occurrence → Prop
  | began _ | polled _ | closed => True
  | _ => False

namespace Journal

variable {turn : List Occurrence}

/-- Nothing is read off a preparation by what reads nothing off its occurrences. -/
theorem filterMap_of_plain {α : Type} (read : Occurrence → Option α)
    (plain : ∀ occurrence ∈ turn, occurrence.Plain) (began : ∀ now, read (.began now) = none)
    (polled : ∀ delivery, read (.polled delivery) = none) (closed : read .closed = none) :
    turn.filterMap read = [] := by
  apply List.filterMap_eq_nil_iff.mpr
  intro occurrence member
  have simple := plain occurrence member
  cases occurrence with
  | began now => exact began now
  | polled delivery => exact polled delivery
  | closed => exact closed
  | _ => exact simple.elim

end Journal

namespace Session

/-- A part of an iteration in which the queues are left alone. -/
structure Prepares (session after : Session) (turn : List Occurrence) : Prop where
  plain : ∀ occurrence ∈ turn, occurrence.Plain
  journal : after.journal = session.journal ++ turn
  queue : after.queue = session.queue
  inbound : after.inbound = session.inbound
  clock : after.clock = session.clock
  config : after.node.config = session.node.config

theorem Prepares.trans {first second third : Session} {early late : List Occurrence}
    (before : first.Prepares second early) (after : second.Prepares third late) :
    first.Prepares third (early ++ late) where
  plain := by
    intro occurrence member
    rcases List.mem_append.mp member with now | later
    · exact before.plain occurrence now
    · exact after.plain occurrence later
  journal := by rw [after.journal, before.journal, List.append_assoc]
  queue := after.queue.trans before.queue
  inbound := after.inbound.trans before.inbound
  clock := after.clock.trans before.clock
  config := after.config.trans before.config

/-- What the runner's work with a node comes to. -/
inductive Comes (session : Session) (node : Node) (after : Session) : Prop where
  /-- The node does not tick, or breaks down over it. -/
  | rests (turn : List Occurrence) (prepares : session.Prepares after turn)
  /-- The node ticks, and what the tick asks for is carried out. -/
  | ticks (turn : List Occurrence) (ready : Session) (frame : Option Frame)
      (prepares : session.Prepares ready turn) (running : ready.ending = none)
      (ticked : ready.node = (node.tick session.clock frame).value)
      (carried : after = ready.carryOut (node.tick session.clock frame).outbox)

/-- Preparation may come before. -/
theorem Comes.after {session between after : Session} {node : Node} {early : List Occurrence}
    (first : session.Prepares between early) (rest : between.Comes node after) :
    session.Comes node after := by
  cases rest with
  | rests late prepares => exact .rests _ (first.trans prepares)
  | ticks late ready frame prepares running ticked carried =>
    rw [first.clock] at ticked carried
    exact .ticks _ ready frame (first.trans prepares) running ticked carried

/-- What each request keeps is kept over all that wait for the node. -/
theorem served_of_keeps (session : Session) (holds : Node → Prop)
    (keeps : ∀ node command, holds node → holds (serve session.clock node command).value)
    (before : holds session.node) : holds session.served.value := by
  have serves (commands : List Command) (node : Node) (before : holds node) :
      holds (commands.foldlM (serve session.clock) node).value := by
    induction commands generalizing node with
    | nil => exact before
    | cons command rest ih =>
      rw [List.foldlM_cons, Reaction.value_bind]
      exact ih _ (keeps node command before)
  exact serves session.commands session.node before

/-- The requests that wait for a node change what it is to send, and nothing else. -/
theorem value_served (session : Session) : ∃ enterRequest exitRequest,
    session.served.value = { session.node with enterRequest, exitRequest } := by
  refine session.served_of_keeps (fun node => ∃ enterRequest exitRequest,
    node = { session.node with enterRequest, exitRequest }) ?_ ⟨_, _, rfl⟩
  rintro _ command ⟨enterRequest, exitRequest, rfl⟩
  cases command with
  | enterConfiguration => exact ⟨_, _, rfl⟩
  | exitConfiguration =>
    unfold serve Node.requestExit
    dsimp only
    split
    · exact ⟨_, _, rfl⟩
    · exact ⟨_, _, rfl⟩

theorem config_served (session : Session) :
    session.served.value.config = session.node.config := by
  obtain ⟨_, _, served⟩ := session.value_served
  rw [served]

section Iteration

variable (session : Session)

/-- Without an occurrence, only the node may have changed. -/
theorem prepares_nothing {after : Session} (journal : after.journal = session.journal)
    (queue : after.queue = session.queue) (inbound : after.inbound = session.inbound)
    (clock : after.clock = session.clock) (config : after.node.config = session.node.config) :
    session.Prepares after [] :=
  ⟨nofun, journal.trans (List.append_nil _).symm, queue, inbound, clock, config⟩

theorem comes_tickNode (frame : Option Frame) (running : session.ending = none) :
    session.Comes session.node (session.tickNode frame) := by
  unfold tickNode
  cases settled : (session.node.tick session.clock frame).settle with
  | none => exact .rests [] (session.prepares_nothing rfl rfl rfl rfl rfl)
  | some outcome =>
    obtain ⟨-, rfl⟩ := (Reaction.settle_eq_some_iff _ _).mp settled
    let ticked : Session := { session with node := (session.node.tick session.clock frame).value }
    have config : ticked.node.config = session.node.config :=
      (Node.configured_stages session.clock).tick session.node frame
    exact .ticks [] ticked frame (session.prepares_nothing rfl rfl rfl rfl config) running rfl rfl

theorem comes_handle (delivery : Option Bus.Delivery) (running : session.ending = none) :
    session.Comes session.node (session.handle delivery) := by
  match delivery with
  | none => exact session.comes_tickNode none running
  | some (.frame frame) => exact session.comes_tickNode (some frame) running
  | some (.failure (.recoverable _)) => exact session.comes_tickNode none running
  | some (.failure (.fatal _)) =>
    exact .rests [.closed] ⟨by simp, rfl, rfl, rfl, rfl, rfl⟩
  | some .crash => exact .rests [] (session.prepares_nothing rfl rfl rfl rfl rfl)

theorem comes_poll (running : session.ending = none) :
    session.Comes session.node session.poll := by
  let polled := record { session with script := session.script.afterDelivery }
    (.polled session.script.nextDelivery)
  have asked : session.Prepares polled [.polled session.script.nextDelivery] :=
    ⟨by simp, rfl, rfl, rfl, rfl, rfl⟩
  exact .after asked (polled.comes_handle session.script.nextDelivery running)

theorem comes_work (running : session.ending = none) :
    session.Comes session.served.value session.work := by
  unfold work
  cases settled : session.served.settle with
  | none => exact .rests [] (session.prepares_nothing rfl rfl rfl rfl rfl)
  | some outcome =>
    obtain ⟨-, rfl⟩ := (Reaction.settle_eq_some_iff _ _).mp settled
    let served : Session := { session with node := session.served.value, commands := [] }
    have first : session.Prepares served [] :=
      session.prepares_nothing rfl rfl rfl rfl session.config_served
    exact .after first (served.comes_poll running)

/-- What an iteration comes to. -/
theorem comes_iterate : session.Comes session.served.value session.iterate := by
  unfold iterate
  split
  · exact .rests [] (session.prepares_nothing rfl rfl rfl rfl rfl)
  · rename_i running
    split
    · exact .rests [.closed] ⟨by simp, rfl, rfl, rfl, rfl, rfl⟩
    · have begun : session.Prepares (session.record (.began session.clock))
          [.began session.clock] := ⟨by simp, rfl, rfl, rfl, rfl, rfl⟩
      exact .after begun ((session.record (.began session.clock)).comes_work
        (by simpa [record] using running))

end Iteration

/-- What becomes of a session with an input other than an iteration. -/
inductive Aside (session : Session) (input : Input) (after : Session) : Prop where
  /-- Nothing that the journal shows. -/
  | unmoved (journal : after.journal = session.journal) (queue : after.queue = session.queue)
      (inbound : after.inbound = session.inbound) (node : after.node = session.node)
      (refused : ∀ outgoing, input = .send outgoing → session.running = false)
  /-- A frame waits from now on. -/
  | enqueued (outgoing : Outgoing) (given : input = .send outgoing)
      (running : session.running = true)
      (journal : after.journal =
        session.journal ++ [.enqueued (.ofOutgoing outgoing session.clock)])
      (queue : after.queue = session.queue.enqueue outgoing session.clock)
      (inbound : after.inbound = session.inbound) (node : after.node = session.node)
  /-- The application takes the oldest notification. -/
  | taken (event : Notification) (given : input = .receive)
      (journal : after.journal = session.journal ++ [.taken event])
      (queue : after.queue = session.queue) (oldest : session.inbound = event :: after.inbound)
      (node : after.node = session.node)

/-- Nothing but an iteration publishes, drops or hands over. -/
theorem aside_react (session : Session) (input : Input) (other : input ≠ .iterate) :
    session.Aside input (session.react input) := by
  cases input with
  | advance span => exact .unmoved rfl rfl rfl rfl nofun
  | expectDeliveries deliveries => exact .unmoved rfl rfl rfl rfl nofun
  | expectAnswers answers => exact .unmoved rfl rfl rfl rfl nofun
  | requestStop => exact .unmoved rfl rfl rfl rfl nofun
  | iterate => exact absurd rfl other
  | command command =>
    unfold react Session.command
    dsimp only
    split
    · split
      · exact .unmoved rfl rfl rfl rfl nofun
      · exact .unmoved rfl rfl rfl rfl nofun
    · exact .unmoved rfl rfl rfl rfl nofun
  | receive =>
    unfold react Session.receive
    dsimp only
    split
    · exact .unmoved rfl rfl rfl rfl nofun
    · rename_i event rest waiting
      exact .taken event rfl rfl rfl waiting rfl
  | send outgoing =>
    unfold react Session.send
    dsimp only
    by_cases running : session.running = true
    · rw [if_pos running]
      exact .enqueued outgoing rfl running rfl rfl rfl rfl
    · rw [if_neg running]
      exact .unmoved rfl rfl rfl rfl fun _ _ => Bool.not_eq_true _ ▸ running

/-- What nothing but an iteration changes. -/
structure Untouched (session after : Session) : Prop where
  node : after.node = session.node
  status : after.status = session.status
  ending : after.ending = session.ending

theorem untouched_react (session : Session) (input : Input) (other : input ≠ .iterate) :
    session.Untouched (session.react input) := by
  cases input with
  | iterate => exact absurd rfl other
  | advance | expectDeliveries | expectAnswers | requestStop => exact ⟨rfl, rfl, rfl⟩
  | send =>
    unfold react Session.send
    dsimp only
    split <;> exact ⟨rfl, rfl, rfl⟩
  | command =>
    unfold react Session.command
    dsimp only
    split
    · split <;> exact ⟨rfl, rfl, rfl⟩
    · exact ⟨rfl, rfl, rfl⟩
  | receive =>
    unfold react Session.receive
    dsimp only
    split <;> exact ⟨rfl, rfl, rfl⟩

section Iterations

variable (session : Session)

theorem run_replicate_iterate (count : Nat) :
    session.run (List.replicate count .iterate) = session.iterations count := by
  induction count generalizing session with
  | zero => rfl
  | succ count ih => exact ih session.iterate

/-- The runner makes a number of iterations until a notification waits. -/
theorem exists_awaitEvent (count : Nat) :
    ∃ made, session.awaitEvent count = session.iterations made := by
  induction count generalizing session with
  | zero => exact ⟨0, rfl⟩
  | succ count ih =>
    unfold awaitEvent
    dsimp only
    split
    · exact ⟨1, rfl⟩
    · obtain ⟨made, same⟩ := ih session.iterate
      exact ⟨made + 1, same⟩

end Iterations

end Session

end VehicleBus
