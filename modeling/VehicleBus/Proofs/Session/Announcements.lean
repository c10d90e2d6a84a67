import VehicleBus.Proofs.Notification.ChangeLog
import VehicleBus.Proofs.Session.Course
import VehicleBus.Proofs.Session.Inbox

/-!
The status that a session shows against the notifications that it publishes. A tick changes both at
once, but the runner shows the status first, hands the control frames of the tick over, and
publishes the notifications last. An application that replays what was published so far is at the
status shown, then, after every iteration but one: where the runner ends over a control frame, the
notifications of the tick go down with it, and what is published stays at the status before.
-/
namespace VehicleBus

/-- Copies of frames leave the status alone. -/
@[simp] theorem Status.replay_copies (status : Status) (config : Config) (frames : List Frame) :
    status.replay (config.copies frames) = status := by
  unfold Config.copies
  split
  · induction frames with
    | nil => rfl
    | cons frame rest ih => exact ih
  · rfl

/-- Where no notification was dropped, those kept are those published. -/
theorem Journal.kept_eq_published {journal : List Occurrence}
    (spared : ∀ event, .published event false ∉ journal) : kept journal = published journal := by
  induction journal with
  | nil => rfl
  | cons occurrence rest ih =>
    have others := ih fun event member => spared event (List.mem_cons_of_mem _ member)
    unfold kept published at others ⊢
    cases occurrence with
    | published event room =>
      cases room with
      | true => simp [others]
      | false => exact absurd List.mem_cons_self (spared event)
    | _ => exact others

namespace Session

/-- The status that an application knows which replays all notifications published so far. -/
def heard (session : Session) : Status := Status.replay {} (Journal.published session.journal)

/-- A part of an iteration, told by what it publishes and by the control frames over which it ends
the runner. -/
def Tells (session after : Session) (events : List Notification) (broken : List Frame) : Prop :=
  ∃ turn, after.journal = session.journal ++ turn ∧ Journal.published turn = events ∧
    Journal.broken turn = broken

section Parts

variable {session between after : Session} {events more : List Notification}
  {broken others : List Frame}

theorem Tells.nothing (journal : after.journal = session.journal) : session.Tells after [] [] :=
  ⟨[], journal.trans (List.append_nil _).symm, rfl, rfl⟩

/-- An occurrence that neither publishes nor ends the runner over a control frame. -/
theorem Tells.one {item : Occurrence} (journal : after.journal = session.journal ++ [item])
    (unpublished : item.published? = none) (unbroken : item.broken? = none) :
    session.Tells after [] [] :=
  ⟨[item], journal, List.filterMap_cons_none unpublished, List.filterMap_cons_none unbroken⟩

theorem Tells.trans (first : session.Tells between events broken)
    (second : between.Tells after more others) :
    session.Tells after (events ++ more) (broken ++ others) := by
  obtain ⟨early, journal, told, broke⟩ := first
  obtain ⟨late, rest, toldLater, brokeLater⟩ := second
  refine ⟨early ++ late, ?_, ?_, ?_⟩
  · rw [rest, journal, List.append_assoc]
  · rw [Journal.published_append, told, toldLater]
  · rw [← broke, ← brokeLater]
    exact List.filterMap_append

/-- What is published in a part and what is tallied of it are read off the same occurrences. -/
theorem tells_of_fills {turn : List Occurrence} {carried : List Frame} {address : UInt8}
    {tally : Tally} (fills : session.Fills after turn events carried)
    (adds : Adds address session after tally) : session.Tells after events tally.broken := by
  obtain ⟨-, other, journal, told⟩ := adds
  have same : turn = other := List.append_cancel_left (fills.journal.symm.trans journal)
  refine ⟨turn, fills.journal, fills.published, ?_⟩
  rw [same, ← told]
  rfl

theorem Tells.heard (tells : session.Tells after events broken) :
    after.heard = session.heard.replay events := by
  obtain ⟨turn, journal, told, -⟩ := tells
  rw [Session.heard, Session.heard, journal, Journal.published_append, Status.replay_append, told]

theorem Tells.since (tells : session.Tells after events broken) :
    Journal.published (after.since session) = events ∧
      Journal.broken (after.since session) = broken := by
  obtain ⟨turn, journal, told, broke⟩ := tells
  rw [Session.since, journal, List.drop_left]
  exact ⟨told, broke⟩

end Parts

/-- What an iteration of a runner at work makes of the status and of what is published. -/
inductive Reports (session after : Session) : Prop where
  /-- The node does not tick. -/
  | keeps (tells : session.Tells after [] []) (status : after.status = session.status)
  /-- The notifications of the tick are published, and copies of waiting frames behind them. -/
  | follows (copied : List Frame)
      (tells : session.Tells after
        (session.ticked.events ++ session.ticked.value.config.copies copied) [])
      (status : after.status = session.ticked.value.status)
  /-- The runner ends over a control frame of the tick, and nothing is published. -/
  | breaks (broken : List Frame) (some : broken ≠ []) (tells : session.Tells after [] broken)
      (status : after.status = session.ticked.value.status)
      (ended : after.ending.isSome = true)

section Iteration

variable (session : Session)

/-- The status is shown whatever becomes of the control frames. -/
theorem status_carryOut (outbox : Outbox) (running : session.ending = none) :
    (session.carryOut outbox).status = session.node.status :=
  (session.acts_carryOut outbox running).retains.status

theorem tells_carryOut (outbox : Outbox) (running : session.ending = none) :
    (∃ copied, session.Tells (session.carryOut outbox)
        (outbox.events ++ session.node.config.copies copied) []) ∨
      ∃ broken, broken ≠ [] ∧ session.Tells (session.carryOut outbox) [] broken ∧
        (session.carryOut outbox).ending.isSome = true := by
  have shown : session.Tells session.showStatus [] [] := .one rfl rfl rfl
  obtain ⟨_, broken, adds, ended, -⟩ :=
    session.showStatus.adds_transmitControls session.address outbox.transmit running
  obtain ⟨_, fills⟩ := session.showStatus.fills_transmitControls outbox.transmit
  have sent := shown.trans (tells_of_fills fills adds)
  unfold carryOut
  dsimp only
  split
  · rename_i stopped
    exact .inr ⟨broken, ended.mp stopped, sent, stopped⟩
  · rename_i on
    have unbroken : broken = [] := by simpa using mt ended.mpr on
    have added := adds_publishAll session.address
      (session.showStatus.transmitControls outbox.transmit) outbox.events
    obtain ⟨_, published⟩ :=
      (session.showStatus.transmitControls outbox.transmit).fills_publishAll outbox.events
    generalize (session.showStatus.transmitControls outbox.transmit).publishAll outbox.events =
      ready at added published ⊢
    obtain ⟨_, drained⟩ := ready.adds_drainQueue session.address
    obtain ⟨_, copied, carried⟩ := ready.fills_drainQueue
    have config : ready.node.config = session.node.config := by
      rw [published.config, fills.config]
      rfl
    rw [config] at carried
    have told :=
      (sent.trans (tells_of_fills published added)).trans (tells_of_fills carried drained)
    refine .inl ⟨copied, ?_⟩
    simpa [unbroken, passing] using told

/-- The node of the next tick shows the status of the node now: requests do not change it. -/
theorem status_served : session.served.value.status = session.node.status := by
  obtain ⟨_, _, served⟩ := session.value_served
  rw [served]
  rfl

theorem reports_iterate (running : session.ending = none) : session.Reports session.iterate := by
  cases asked : session.stopRequested with
  | true =>
    rw [session.iterate_of_asked running asked]
    exact .keeps (.one rfl rfl rfl) rfl
  | false =>
    have began : session.Tells (session.record (.began session.clock)) [] [] := .one rfl rfl rfl
    have polled : session.Tells session.afterPoll [] [] := began.trans (.one rfl rfl rfl)
    have course := session.course_iterate running asked
    generalize session.iterate = after at course ⊢
    cases course with
    | swamped => exact .keeps began rfl
    | failed code => exact .keeps (polled.trans (.one rfl rfl rfl)) rfl
    | broken => exact .keeps polled rfl
    | overrun => exact .keeps polled rfl
    | carried =>
      have status := session.afterTick.status_carryOut session.ticked.outbox running
      obtain ⟨copied, tells⟩ | ⟨broken, some, tells, ended⟩ :=
        session.afterTick.tells_carryOut session.ticked.outbox running
      · exact .follows copied (polled.trans tells) status
      · exact .breaks broken some (polled.trans tells) status ended

end Iteration

/-- As long as the runner is at work the status shown is that of the node, and that of the
notifications published so far. -/
structure Agrees (session : Session) : Prop where
  heard : session.heard = session.status
  shown : session.status = session.node.status

section Run

variable {session : Session}

/-- The notifications of a tick lead from the status before it to the status after it. -/
theorem replay_ticked (agrees : session.Agrees) :
    session.heard.replay session.ticked.events = session.ticked.value.status := by
  have logs := (Node.logs_stages session.clock).tick session.served.value session.incoming
  rw [agrees.heard, agrees.shown, ← session.status_served]
  exact logs.replayed

/-- What an iteration publishes leads to the status that it shows, unless a control frame ends the
runner in it. -/
theorem Agrees.reports {after : Session} (agrees : session.Agrees)
    (reports : session.Reports after) :
    (Journal.broken (after.since session) = [] → after.heard = after.status) ∧
      (Journal.broken (after.since session) ≠ [] →
        after.heard = session.status ∧ after.status = session.ticked.value.status ∧
          Journal.published (after.since session) = [] ∧ after.ending.isSome = true) := by
  cases reports with
  | keeps tells status =>
    have whole : after.heard = after.status := by
      rw [tells.heard, status]
      exact agrees.heard
    exact ⟨fun _ => whole, fun broken => absurd tells.since.2 broken⟩
  | follows copied tells status =>
    have whole : after.heard = after.status := by
      rw [tells.heard, Status.replay_append, Status.replay_copies, replay_ticked agrees, status]
    exact ⟨fun _ => whole, fun broken => absurd tells.since.2 broken⟩
  | breaks broken some tells status ended =>
    refine ⟨fun unbroken => absurd (tells.since.2.symm.trans unbroken) some, fun _ => ?_⟩
    exact ⟨tells.heard.trans agrees.heard, status, tells.since.1, ended⟩

theorem Agrees.iterate (agrees : session.Agrees) (running : session.ending = none)
    (goes : session.iterate.ending = none) : session.iterate.Agrees := by
  obtain ⟨whole, cut⟩ := agrees.reports (session.reports_iterate running)
  constructor
  · refine whole (Classical.byContradiction fun broken => ?_)
    obtain ⟨-, -, -, ended⟩ := cut broken
    simp [goes] at ended
  · obtain ⟨-, -, carried⟩ := session.carried_of_goes running goes
    have kept := (session.afterTick.acts_carryOut session.ticked.outbox running).retains
    rw [carried, kept.status, kept.node]
    rfl

/-- The application changes neither the status nor what is published. -/
theorem Agrees.react_of_other (agrees : session.Agrees) (input : Input)
    (other : input ≠ .iterate) : (session.react input).Agrees := by
  have untouched := session.untouched_react input other
  have tells : session.Tells (session.react input) [] [] := by
    cases session.aside_react input other with
    | unmoved journal => exact .nothing journal
    | enqueued outgoing _ _ journal => exact .one journal rfl rfl
    | taken event _ journal => exact .one journal rfl rfl
  constructor
  · rw [tells.heard, untouched.status]
    exact agrees.heard
  · rw [untouched.status, untouched.node]
    exact agrees.shown

theorem agrees_react (agrees : session.ending = none → session.Agrees) (input : Input)
    (running : (session.react input).ending = none) : (session.react input).Agrees := by
  have before := running_of_react running
  by_cases iterates : input = .iterate
  · subst iterates
    exact (agrees before).iterate before running
  · exact (agrees before).react_of_other input iterates

theorem agrees_run (agrees : session.ending = none → session.Agrees) (inputs : List Input)
    (running : (session.run inputs).ending = none) : (session.run inputs).Agrees := by
  induction inputs generalizing session with
  | nil => exact agrees running
  | cons input rest ih => exact ih (agrees_react agrees input) running

end Run

end Session

open Session

/-- Over every run of a session, at the end of every iteration of a runner at work: if the runner
did not end over a control frame in it, the notifications published so far, replayed from the
status of a node that is off, lead to the status shown. If it did, the status shown is that after
the tick, and the notifications lead to the status before: none of the iteration was published.
Those published are those that the application gets, as long as none was dropped for want of
room. -/
theorem notifications_follow_the_status (config : Config) (origin : Nat)
    (inputs : List Session.Input) :
    let session := (Session.ofNode (Node.start config origin).value origin).run inputs
    let after := session.iterate
    let turn := after.since session
    let heard := Status.replay ⟨.powerOff, 0, none⟩ (Journal.published after.journal)
    session.ending = none →
      (Journal.broken turn = [] → heard = after.status) ∧
      (Journal.broken turn ≠ [] →
        heard = session.status ∧ after.status = session.ticked.value.status ∧
          Journal.published turn = [] ∧ after.ending.isSome = true) ∧
      ((∀ event, .published event false ∉ after.journal) →
        Journal.kept after.journal = Journal.published after.journal) := by
  intro session after turn heard running
  have begun : (Session.ofNode (Node.start config origin).value origin).Agrees := ⟨rfl, rfl⟩
  have agrees : session.Agrees := agrees_run (fun _ => begun) inputs running
  obtain ⟨whole, cut⟩ := agrees.reports (session.reports_iterate running)
  exact ⟨whole, cut, Journal.kept_eq_published⟩

/-- A candidate becomes master, and the notifications of that iteration lead to its status. -/
theorem ten_is_followed :
    let session := (Session.ofNode (Node.start (Config.candidate 10 (by decide)) 0).value 0).run
      [.iterate, .advance 7813]
    let after := session.iterate
    session.ending = none ∧ after.status = ⟨.preOperational, 1, some 10⟩ ∧
      Status.replay ⟨.powerOff, 0, none⟩ (Journal.published after.journal) = after.status := by
  have ran :
      let session := (Session.ofNode (Node.start (Config.candidate 10 (by decide)) 0).value 0).run
        [.iterate, .advance 7813]
      let after := session.iterate
      session.ending = none ∧ Journal.broken (after.since session) = [] ∧
        after.status = ⟨.preOperational, 1, some 10⟩ := by
    decide +kernel
  obtain ⟨running, unbroken, status⟩ := ran
  obtain ⟨whole, -⟩ :=
    notifications_follow_the_status (Config.candidate 10 (by decide)) 0 _ running
  exact ⟨running, status, whole unbroken⟩

/-- If the bus fails for good over the first sync of a candidate, the application is shown a master
that it is never told of. -/
theorem ten_is_shown_a_master_untold :
    let session := (Session.ofNode (Node.start (Config.candidate 10 (by decide)) 0).value 0).run
      [.iterate, .advance 7813, .expectAnswers [.failure (.fatal 7)], .iterate]
    session.ending = some (.transport 7) ∧ session.status = ⟨.preOperational, 1, some 10⟩ ∧
      Status.replay ⟨.powerOff, 0, none⟩ (Journal.published session.journal) =
        ⟨.preOperational, 0, none⟩ ∧
      session.inbound = Journal.published session.journal := by
  decide +kernel

end VehicleBus
