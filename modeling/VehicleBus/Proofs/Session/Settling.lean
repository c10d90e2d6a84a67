import VehicleBus.Proofs.Node.Repose
import VehicleBus.Proofs.Session.Course

/-!
A runner whose clock stands still comes to rest. Two iterations bring the node to where nothing is
due at the instant any more. From then on each iteration takes something from the bus or out of the
queue, and nobody adds to either; when there is nothing left to take, the iteration does nothing,
and so does every later one. The measure is what the bus has still to deliver together with what
waits in the queue. How the bus answers has no part in it, unless it ends the runner.
-/
namespace VehicleBus

namespace Session

/-- An iteration that went on: the requests are served, the bus was asked, and the node has ticked
with what it delivered. -/
structure Proceeds (session after : Session) : Prop where
  node : after.node = session.ticked.value
  clock : after.clock = session.clock
  commands : after.commands = []
  unasked : after.stopRequested = false
  deliveries : after.script.deliveries = session.script.deliveries.tail
  status : after.status = after.node.status
  queue : after.queue.size ≤ session.queue.size

/-- What is left to take from the bus and out of the queue. -/
def pending (session : Session) : Nat := session.script.deliveries.length + session.queue.size

section Iteration

variable {session after : Session}

theorem proceeds_iterate (running : session.ending = none)
    (goes : session.iterate.ending = none) : session.Proceeds session.iterate := by
  obtain ⟨unasked, -, carried⟩ := session.carried_of_goes running goes
  have kept := (session.afterTick.acts_carryOut session.ticked.outbox running).retains
  rw [carried]
  refine ⟨kept.node, kept.clock, kept.commands, kept.stopRequested.trans unasked, kept.deliveries,
    ?_, kept.queue⟩
  rw [kept.status, kept.node]
  rfl

theorem Proceeds.pending_le (proceeds : session.Proceeds after) :
    after.pending ≤ session.pending := by
  have fewer := proceeds.queue
  unfold pending
  rw [proceeds.deliveries, List.length_tail]
  omega

/-- A runner that has ended stays so. -/
theorem ended_iterations (ended : session.ending.isSome = true) (count : Nat) :
    (session.iterations count).ending.isSome = true := by
  obtain ⟨ending, some⟩ := Option.isSome_iff_exists.mp ended
  induction count with
  | zero => exact ended
  | succ count ih =>
    rw [iterations, iterate_of_ended some]
    exact ih

end Iteration

section Withdrawal

variable {session : Session}

/-- The requests of the application and the ticks leave no request to leave System Configuration
behind outside of it. -/
theorem withdrawn_served (withdrawn : session.node.Withdrawn) :
    session.served.value.Withdrawn := by
  refine session.served_of_keeps Node.Withdrawn (fun node command withdrawn => ?_) withdrawn
  cases command with
  | enterConfiguration =>
    have fits : node.Fits ⟨session.clock, .requestEnter⟩ := trivial
    exact withdrawn.perform fits
  | exitConfiguration =>
    have fits : node.Fits ⟨session.clock, .requestExit⟩ := trivial
    exact withdrawn.perform fits

theorem withdrawn_ticked (withdrawn : session.node.Withdrawn) :
    session.ticked.value.Withdrawn := by
  let input : Node.Input := .tick session.clock session.incoming
  have steps := (withdrawn_served withdrawn).follow (session.served.value.fitting_inputSteps input)
  rw [Node.follow_inputSteps] at steps
  exact steps

theorem Course.withdrawn {after : Session} (course : session.Course after)
    (running : session.ending = none) (withdrawn : session.node.Withdrawn) :
    after.node.Withdrawn := by
  have served := withdrawn_served withdrawn
  cases course with
  | swamped => exact withdrawn
  | failed => exact served
  | broken => exact served
  | overrun => exact served
  | carried =>
    rw [(session.afterTick.acts_carryOut session.ticked.outbox running).retains.node]
    exact withdrawn_ticked withdrawn

theorem withdrawn_react (withdrawn : session.node.Withdrawn) (input : Input) :
    (session.react input).node.Withdrawn := by
  by_cases iterates : input = .iterate
  · subst iterates
    show session.iterate.node.Withdrawn
    cases ended : session.ending with
    | some ending =>
      rw [iterate_of_ended ended]
      exact withdrawn
    | none =>
      cases asked : session.stopRequested with
      | true =>
        rw [session.iterate_of_asked ended asked]
        exact withdrawn
      | false => exact (session.course_iterate ended asked).withdrawn ended withdrawn
  · rw [(session.untouched_react input iterates).node]
    exact withdrawn

theorem withdrawn_run (withdrawn : session.node.Withdrawn) (inputs : List Input) :
    (session.run inputs).node.Withdrawn := by
  induction inputs generalizing session with
  | nil => exact withdrawn
  | cons input rest ih => exact ih (withdrawn_react withdrawn input)

end Withdrawal

/-- A runner at work for which nothing is due at its clock. No request waits. -/
structure Rests (session : Session) : Prop where
  running : session.ending = none
  unasked : session.stopRequested = false
  unbidden : session.commands = []
  withdrawn : session.node.Withdrawn
  node : session.node.AtRest session.clock
  status : session.status = session.node.status

/-- A runner that rests, and for which nothing is left to take. -/
structure Dormant (session : Session) : Prop extends Rests session where
  silent : session.script.deliveries = []
  drained : session.node.drains = true → session.queue.toList = []
  inTime : (session.node.tick session.clock none).InRange

/-- An iteration in which nothing happens: the bus has nothing, and the status is shown as it
was. -/
def Idles (session : Session) : Prop :=
  session.iterate = { session with
    journal := session.journal ++
      [.began session.clock, .polled none, .shown session.status] }

instance (session : Session) : Decidable session.Idles := inferInstanceAs (Decidable (_ = _))

section Rest

variable {session : Session}

theorem served_of_unbidden (unbidden : session.commands = []) :
    session.served = pure session.node := by
  rw [served, unbidden]
  rfl

/-- Without requests and deliveries the node is ticked with nothing. -/
theorem ticked_of_silent (unbidden : session.commands = [])
    (silent : session.script.deliveries = []) :
    session.ticked = session.node.tick session.clock none := by
  have nothing : session.incoming = none := by
    simp [incoming, Bus.Script.nextDelivery, silent]
  rw [ticked, served_of_unbidden unbidden, nothing]
  rfl

theorem outbox_of_quiet {reaction : Reaction Node} (quiet : reaction.Quiet) :
    reaction.outbox = {} := by
  simp [Reaction.outbox, quiet.unsent, quiet.untold]

/-- A tick that asks for nothing leads on to the queue. -/
theorem carryOut_of_quiet (session : Session) (running : session.ending = none) :
    session.carryOut {} = session.showStatus.drainQueue := by
  have on : ¬ session.showStatus.ending.isSome = true := by simp [showStatus, record, running]
  show (if session.showStatus.ending.isSome then session.showStatus
    else session.showStatus.drainQueue) = _
  rw [if_neg on]

theorem drainQueue_of_drained (session : Session)
    (drained : session.node.drains = true → session.queue.toList = []) :
    session.drainQueue = session := by
  unfold drainQueue
  split
  · rename_i traffic
    obtain ⟨missing, unexpired, same⟩ := session.queue.pull_of_empty session.clock (drained traffic)
    rw [missing]
    simp [pullQueue, unexpired, same]
  · rfl

/-- Where something waits and may leave, it gets fewer. -/
theorem size_drainQueue_lt (session : Session) (running : session.ending = none)
    (traffic : session.node.drains = true) (waiting : session.queue.toList ≠ []) :
    session.drainQueue.queue.size < session.queue.size := by
  have fewer := session.queue.size_afterPull_lt session.clock waiting
  unfold drainQueue
  rw [if_pos traffic]
  split
  · exact fewer
  · rename_i entry _
    have sent := (session.pullQueue.acts_transmitQueued entry running).retains
    exact Nat.lt_of_le_of_lt sent.queue fewer

theorem Dormant.idles (dormant : session.Dormant) : session.Idles := by
  have ticked := ticked_of_silent dormant.unbidden dormant.silent
  obtain ⟨quiet, same⟩ := dormant.node.idles
  have course := session.course_iterate dormant.running dormant.unasked
  unfold Idles
  generalize session.iterate = after at course ⊢
  cases course with
  | swamped late =>
    rw [served_of_unbidden dormant.unbidden] at late
    exact absurd (by decide : 0 < Clock.limit) late
  | failed code delivered => simp [Bus.Script.nextDelivery, dormant.silent] at delivered
  | broken delivered => simp [Bus.Script.nextDelivery, dormant.silent] at delivered
  | overrun late => exact absurd (ticked ▸ dormant.inTime) late
  | carried =>
    have node : session.ticked.value = session.node := by rw [ticked, same]
    have outbox : session.ticked.outbox = {} := by rw [ticked, outbox_of_quiet quiet]
    rw [outbox, carryOut_of_quiet session.afterTick dormant.running,
      drainQueue_of_drained session.afterTick.showStatus]
    · have script : session.script.afterDelivery = session.script := by
        rw [Bus.Script.afterDelivery, dormant.silent, List.tail_nil, ← dormant.silent]
      have nothing : session.script.nextDelivery = none := by
        simp [Bus.Script.nextDelivery, dormant.silent]
      simp [afterTick, afterPoll, showStatus, record, node, nothing, script,
        dormant.unbidden, dormant.status]
    · show session.ticked.value.drains = true → session.queue.toList = []
      rw [node]
      exact dormant.drained

/-- What an idle iteration adds to the journal changes nothing for the next one. -/
theorem Dormant.iterate (dormant : session.Dormant) : session.iterate.Dormant := by
  have idles : session.Idles := dormant.idles
  rw [idles]
  exact ⟨⟨dormant.running, dormant.unasked, dormant.unbidden, dormant.withdrawn, dormant.node,
    dormant.status⟩, dormant.silent, dormant.drained, dormant.inTime⟩

theorem Dormant.iterations (dormant : session.Dormant) (count : Nat) :
    (session.iterations count).Dormant := by
  induction count generalizing session with
  | zero => exact dormant
  | succ count ih => exact ih dormant.iterate

/-- A runner that goes on rests if nothing was due but perhaps a byte of the enter sequence. -/
theorem Proceeds.rests {after : Session} (proceeds : session.Proceeds after)
    (running : after.ending = none) (withdrawn : session.node.Withdrawn)
    (reposed : session.served.value.Reposed session.clock) : after.Rests where
  running := running
  unasked := proceeds.unasked
  unbidden := proceeds.commands
  withdrawn := proceeds.node ▸ withdrawn_ticked withdrawn
  node := by
    rw [proceeds.node, proceeds.clock]
    exact reposed.atRest_tick (withdrawn_served withdrawn) session.incoming
  status := proceeds.status

/-- A runner that rests and finds nothing to take goes on as it is, or it takes something. -/
theorem Rests.dormant_or_fewer (rests : session.Rests) (goes : session.iterate.ending = none) :
    session.Dormant ∨ session.iterate.pending < session.pending := by
  have proceeds := proceeds_iterate rests.running goes
  cases silent : session.script.deliveries with
  | cons delivery later =>
    have fewer := proceeds.queue
    right
    unfold pending
    rw [proceeds.deliveries, silent, List.tail_cons, List.length_cons]
    omega
  | nil =>
    obtain ⟨-, inTime, carried⟩ := session.carried_of_goes rests.running goes
    have ticked := ticked_of_silent rests.unbidden silent
    obtain ⟨quiet, same⟩ := rests.node.idles
    by_cases waiting : session.node.drains = true ∧ session.queue.toList ≠ []
    · have node : session.ticked.value = session.node := by rw [ticked, same]
      have outbox : session.ticked.outbox = {} := by rw [ticked, outbox_of_quiet quiet]
      have traffic : session.afterTick.showStatus.node.drains = true := by
        show session.ticked.value.drains = true
        rw [node]
        exact waiting.1
      have fewer := session.afterTick.showStatus.size_drainQueue_lt rests.running traffic waiting.2
      right
      unfold pending
      rw [proceeds.deliveries, silent, carried, outbox,
        carryOut_of_quiet session.afterTick rests.running]
      exact Nat.add_lt_add_left fewer _
    · refine .inl ⟨rests, silent, fun traffic => ?_, ticked ▸ inTime⟩
      exact Classical.byContradiction fun some => waiting ⟨traffic, some⟩

/-- An iteration of a runner that rests ends it, takes something, or finds nothing to take. -/
theorem Rests.iterate (rests : session.Rests) :
    session.iterate.ending.isSome = true ∨ session.Dormant ∨
      session.iterate.Rests ∧ session.iterate.pending < session.pending := by
  cases goes : session.iterate.ending with
  | some ending => exact .inl rfl
  | none =>
    right
    have reposed : session.served.value.Reposed session.clock := by
      rw [served_of_unbidden rests.unbidden]
      exact rests.node.toReposed
    have later := (proceeds_iterate rests.running goes).rests goes rests.withdrawn reposed
    exact (rests.dormant_or_fewer goes).imp_right fun fewer => ⟨later, fewer⟩

/-- A runner that rests comes to its end, or finds nothing to take, before long. -/
theorem Rests.settles (rests : session.Rests) (bound : Nat) (few : session.pending ≤ bound) :
    (session.iterations (bound + 1)).ending.isSome = true ∨
      (session.iterations (bound + 1)).Dormant := by
  induction bound generalizing session with
  | zero =>
    obtain ended | dormant | ⟨-, fewer⟩ := rests.iterate
    · exact .inl ended
    · exact .inr dormant.iterate
    · omega
  | succ bound ih =>
    obtain ended | dormant | ⟨later, fewer⟩ := rests.iterate
    · exact .inl (ended_iterations ended _)
    · exact .inr (dormant.iterations _)
    · exact ih later (by omega)

/-- After two iterations that go on, a runner rests. -/
theorem rests_of_goes (running : session.ending = none) (withdrawn : session.node.Withdrawn)
    (goes : session.iterate.ending = none) (again : session.iterate.iterate.ending = none) :
    session.iterate.iterate.Rests ∧ session.iterate.iterate.pending ≤ session.pending := by
  have first := proceeds_iterate running goes
  have second := proceeds_iterate goes again
  have left : session.iterate.node.Withdrawn := first.node ▸ withdrawn_ticked withdrawn
  have reposed : session.iterate.served.value.Reposed session.iterate.clock := by
    rw [served_of_unbidden first.commands, first.clock]
    show session.iterate.node.Reposed session.clock
    rw [first.node]
    exact Node.reposed_tick (withdrawn_served withdrawn)
  exact ⟨second.rests again left reposed, Nat.le_trans second.pending_le first.pending_le⟩

theorem settles (withdrawn : session.node.Withdrawn) (bound : Nat)
    (few : session.pending ≤ bound) :
    (session.iterations (bound + 3)).ending.isSome = true ∨
      (session.iterations (bound + 3)).Dormant := by
  cases running : session.ending with
  | some _ =>
    have ended : session.ending.isSome = true := by simp [running]
    exact .inl (ended_iterations ended _)
  | none =>
    cases goes : session.iterate.ending with
    | some _ =>
      have ended : session.iterate.ending.isSome = true := by simp [goes]
      exact .inl (ended_iterations ended _)
    | none =>
      cases again : session.iterate.iterate.ending with
      | some _ =>
        have ended : session.iterate.iterate.ending.isSome = true := by simp [again]
        exact .inl (ended_iterations ended _)
      | none =>
        obtain ⟨rests, fewer⟩ := rests_of_goes running withdrawn goes again
        exact rests.settles bound (Nat.le_trans fewer few)

/-- So the patience with which a session is let settle is enough. -/
theorem settle_dormant (withdrawn : session.node.Withdrawn) :
    session.settle.ending.isSome = true ∨ session.settle.Dormant :=
  settles withdrawn (session.pending + 2) (Nat.le_add_right _ _)

end Rest

end Session

open Session

/-- Every session that runs on at a fixed clock, with nothing more from the application and nothing
new from the bus, comes to rest: after as many iterations as the bus has things to deliver and
frames wait in the queue, and three more, its runner has ended, or every later iteration does
nothing. -/
theorem runner_settles (config : Config) (origin : Nat) (inputs : List Session.Input) :
    let session := (Session.ofNode (Node.start config origin).value origin).run inputs
    let last := session.iterations
      (session.script.deliveries.length + session.queue.size + 3)
    last.ending.isSome = true ∨ ∀ count, (last.iterations count).Idles := by
  intro session last
  have withdrawn : session.node.Withdrawn := withdrawn_run (fun _ => rfl) inputs
  obtain ended | dormant := settles withdrawn session.pending (Nat.le_refl _)
  · exact .inl ended
  · exact .inr fun count => (dormant.iterations count).idles

/-- A candidate that is behind beats and sends the first letter of the enter sequence in one
iteration. Nothing is due to it then. -/
example :
    let opened := Session.ofNode (Node.start (Config.candidate 10 (by decide)) 0).value 0
    let session := opened.run [.iterate, .advance 20000, .command .enterConfiguration]
    ¬ session.Idles ∧ (session.iterations 3).Idles := by
  decide +kernel

end VehicleBus
