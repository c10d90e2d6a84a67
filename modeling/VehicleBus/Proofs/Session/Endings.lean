import VehicleBus.Proofs.Session.Inputs

/-!
How the runner of a session ends, and what becomes of the session then. An iteration goes through
its occurrences until one of them calls for an end. A fatal failure of the bus does, whether it is
asked for a frame or handed one, and so does a bus that breaks down; a recoverable failure calls
for nothing. Whatever the iteration had still to do is left undone: the occurrence that ends it is
followed by the closing of the bus at most.

After that the session is over. The application may take what waits for it, and the runner's
result is what closing the session returns, whenever that is.
-/
namespace VehicleBus

/-- The end that a failure calls for. -/
def Bus.Failure.ends? : Bus.Failure → Option Ending
  | recoverable _ => none
  | fatal code => some (.transport code)

def Bus.Delivery.ends? : Bus.Delivery → Option Ending
  | frame _ => none
  | failure fault => fault.ends?
  | crash => some .aborted

def Bus.Answer.ends? : Bus.Answer → Option Ending
  | accepted => none
  | failure fault => fault.ends?
  | crash => some .aborted

/-- The end that an occurrence calls for. -/
def Occurrence.ends? : Occurrence → Option Ending
  | polled delivery => delivery.bind (·.ends?)
  | controlSent _ answer | queuedSent _ answer => answer.ends?
  | _ => none

/-- Nothing here calls for an end. -/
def Journal.Harmless (journal : List Occurrence) : Prop :=
  ∀ occurrence ∈ journal, occurrence.ends? = none

theorem Journal.Harmless.append {first second : List Occurrence} (early : Harmless first)
    (late : Harmless second) : Harmless (first ++ second) := by
  intro occurrence member
  rcases List.mem_append.mp member with now | later
  · exact early occurrence now
  · exact late occurrence later

/-- What a runner that ends does last: it closes the bus, unless it breaks down. -/
def Ending.closing : Ending → List Occurrence
  | .stopped | .transport _ => [.closed]
  | .aborted => []

namespace Session

open Journal (Harmless)

/-- Work over which nothing calls for an end, told by what it adds to the journal. -/
structure Calm (session after : Session) (turn : List Occurrence) : Prop where
  journal : after.journal = session.journal ++ turn
  harmless : Harmless turn
  ending : after.ending = session.ending

/-- What becomes of a runner over its work, or a part of it. -/
inductive Fares (overflow : Prop) (session after : Session) : Prop where
  | goesOn (turn : List Occurrence) (journal : after.journal = session.journal ++ turn)
      (harmless : Harmless turn) (running : after.ending = none)
  /-- An occurrence calls for an end, and is the last one but for the closing of the bus. -/
  | ends (past : List Occurrence) (item : Occurrence) (ending : Ending)
      (journal : after.journal = session.journal ++ (past ++ item :: ending.closing))
      (harmless : Harmless past) (called : item.ends? = some ending)
      (ended : after.ending = some ending)
  /-- The clock overflows. -/
  | overflows (turn : List Occurrence) (journal : after.journal = session.journal ++ turn)
      (harmless : Harmless turn) (late : overflow) (ended : after.ending = some .aborted)

section Parts

variable {overflow : Prop} {session between last : Session} {turn : List Occurrence}

theorem Calm.refl (session : Session) : session.Calm session [] :=
  ⟨(List.append_nil _).symm, nofun, rfl⟩

theorem Calm.trans {rest : List Occurrence} (first : session.Calm between turn)
    (second : between.Calm last rest) : session.Calm last (turn ++ rest) where
  journal := by rw [second.journal, first.journal, List.append_assoc]
  harmless := first.harmless.append second.harmless
  ending := second.ending.trans first.ending

/-- One occurrence that calls for nothing. -/
theorem Calm.one (item : Occurrence) (uncalled : item.ends? = none)
    (journal : last.journal = session.journal ++ [item]) (ending : last.ending = session.ending) :
    session.Calm last [item] where
  journal := journal
  harmless := by
    intro occurrence member
    rw [List.mem_singleton.mp member, uncalled]
  ending := ending

theorem Calm.fares (calm : session.Calm last turn) (running : session.ending = none) :
    Fares overflow session last :=
  .goesOn turn calm.journal calm.harmless (calm.ending.trans running)

/-- Work over which nothing calls for an end may come before. -/
theorem Fares.after (rest : Fares overflow between last)
    (before : between.journal = session.journal ++ turn) (early : Harmless turn) :
    Fares overflow session last := by
  cases rest with
  | goesOn late journal harmless running =>
    refine .goesOn (turn ++ late) ?_ (early.append harmless) running
    rw [journal, before, List.append_assoc]
  | ends past item ending journal harmless called ended =>
    refine .ends (turn ++ past) item ending ?_ (early.append harmless) called ended
    rw [journal, before, List.append_assoc, List.append_assoc]
  | overflows late journal harmless overflowed ended =>
    refine .overflows (turn ++ late) ?_ (early.append harmless) overflowed ended
    rw [journal, before, List.append_assoc]

theorem Calm.before (calm : session.Calm between turn) (rest : Fares overflow between last) :
    Fares overflow session last := rest.after calm.journal calm.harmless

/-- Work is continued where it did not end. -/
theorem Fares.bind (next : Session → Session) (first : Fares overflow session between)
    (rest : between.ending = none → Fares overflow between (next between)) :
    Fares overflow session (if between.ending.isSome then between else next between) := by
  cases first with
  | goesOn turn journal harmless running =>
    rw [if_neg (by simp [running])]
    exact (rest running).after journal harmless
  | ends past item ending journal harmless called ended =>
    rw [if_pos (by simp [ended])]
    exact .ends past item ending journal harmless called ended
  | overflows turn journal harmless late ended =>
    rw [if_pos (by simp [ended])]
    exact .overflows turn journal harmless late ended

end Parts

section Work

variable {overflow : Prop} {session between : Session}

/-- A frame was handed over, and its answer is judged. -/
theorem fares_afterAnswer {item : Occurrence} (answer : Bus.Answer)
    (handed : between.journal = session.journal ++ [item]) (running : between.ending = none)
    (called : item.ends? = answer.ends?) :
    Fares overflow session (between.afterAnswer answer) := by
  have alone (uncalled : item.ends? = none) : Harmless [item] := by
    intro occurrence member
    rw [List.mem_singleton.mp member, uncalled]
  match answer with
  | .accepted => exact .goesOn [item] handed (alone called) running
  | .failure (.recoverable _) => exact .goesOn [item] handed (alone called) running
  | .failure (.fatal code) =>
    refine .ends [] item (.transport code) ?_ nofun called rfl
    show between.journal ++ [.closed] = _
    rw [handed, List.append_assoc]
    rfl
  | .crash => exact .ends [] item .aborted handed nofun called rfl

theorem fares_transmitControl (frame : Frame) (running : session.ending = none) :
    Fares overflow session (session.transmitControl frame) := by
  let answer := session.script.nextAnswer
  let sent := record { session with script := session.script.afterAnswer }
    (.controlSent frame answer)
  have handed : sent.journal = session.journal ++ [.controlSent frame answer] := rfl
  exact fares_afterAnswer answer handed running rfl

theorem fares_transmitControls (frames : List Frame) (running : session.ending = none) :
    Fares overflow session (session.transmitControls frames) := by
  induction frames generalizing session with
  | nil => exact (Calm.refl session).fares running
  | cons frame rest ih =>
    exact (fares_transmitControl frame running).bind (fun sent => sent.transmitControls rest) ih

theorem calm_publish (session : Session) (event : Notification) :
    ∃ turn, session.Calm (session.publish event) turn := by
  unfold publish
  split
  · exact ⟨_, .one (.published event true) rfl rfl rfl⟩
  · exact ⟨_, .one (.published event false) rfl rfl rfl⟩

theorem calm_publishAll (session : Session) (events : List Notification) :
    ∃ turn, session.Calm (session.publishAll events) turn := by
  induction events generalizing session with
  | nil => exact ⟨[], .refl session⟩
  | cons event rest ih =>
    obtain ⟨early, first⟩ := session.calm_publish event
    obtain ⟨late, second⟩ := ih (session.publish event)
    exact ⟨early ++ late, first.trans second⟩

theorem calm_pullQueue (session : Session) :
    session.Calm session.pullQueue
      ((session.queue.pull session.clock).expired.map .expired) where
  journal := rfl
  harmless := by
    intro occurrence member
    obtain ⟨entry, -, rfl⟩ := List.mem_map.mp member
    rfl
  ending := rfl

/-- The copy of a waiting frame comes after an answer that calls for nothing. -/
theorem fares_transmitQueued (entry : Entry) (running : session.ending = none) :
    Fares overflow session (session.transmitQueued entry) := by
  let answer := session.script.nextAnswer
  let sent := record { session with script := session.script.afterAnswer }
    (.queuedSent entry answer)
  have handed : sent.journal = session.journal ++ [.queuedSent entry answer] := rfl
  have judged : Fares overflow session (sent.afterAnswer answer) :=
    fares_afterAnswer answer handed running rfl
  show Fares overflow session ((sent.afterAnswer answer).echo entry.frame answer)
  unfold echo
  split
  · rename_i wanted
    have carried : session.Calm sent [.queuedSent entry answer] :=
      .one _ (congrArg Bus.Answer.ends? wanted.1) handed rfl
    rw [wanted.1]
    obtain ⟨turn, copied⟩ := sent.calm_publish (.message entry.frame)
    exact (carried.trans copied).fares running
  · exact judged

theorem fares_drainQueue (running : session.ending = none) :
    Fares overflow session session.drainQueue := by
  have pulled := session.calm_pullQueue
  unfold drainQueue
  split
  · split
    · exact pulled.fares running
    · rename_i entry _
      exact pulled.before (fares_transmitQueued entry running)
  · exact (Calm.refl session).fares running

theorem fares_carryOut (outbox : Outbox) (running : session.ending = none) :
    Fares overflow session (session.carryOut outbox) := by
  have shown : session.Calm session.showStatus [.shown session.node.status] := .one _ rfl rfl rfl
  have sent : Fares overflow session (session.showStatus.transmitControls outbox.transmit) :=
    shown.before (fares_transmitControls outbox.transmit running)
  refine sent.bind (fun sent => (sent.publishAll outbox.events).drainQueue) fun goes => ?_
  obtain ⟨turn, published⟩ :=
    (session.showStatus.transmitControls outbox.transmit).calm_publishAll outbox.events
  exact published.before (fares_drainQueue (published.ending.trans goes))

theorem fares_tickNode (frame : Option Frame) (running : session.ending = none)
    (late : ¬ (session.node.tick session.clock frame).InRange → overflow) :
    Fares overflow session (session.tickNode frame) := by
  unfold tickNode
  cases settled : (session.node.tick session.clock frame).settle with
  | none =>
    refine .overflows [] (List.append_nil _).symm nofun (late ?_) rfl
    intro inRange
    simp [Reaction.settle, inRange] at settled
  | some outcome =>
    let ticked : Session := { session with node := outcome.1 }
    have same : session.Calm ticked [] := ⟨(List.append_nil _).symm, nofun, rfl⟩
    exact same.before (fares_carryOut outcome.2 running)

end Work

/-- The frame that the next iteration takes in. -/
def incoming (session : Session) : Option Frame :=
  match session.script.nextDelivery with
  | some (.frame frame) => some frame
  | _ => none

/-- The clock overflows in the next iteration: over the requests that wait, or over the tick. -/
def Overflows (session : Session) : Prop :=
  ¬ session.served.InRange ∨
    ¬ (session.served.value.tick session.clock session.incoming).InRange

/-- A runner that has ended does nothing more. -/
theorem iterate_of_ended {session : Session} {ending : Ending}
    (ended : session.ending = some ending) : session.iterate = session := by
  rw [iterate, if_pos (by simp [ended])]

section Iteration

variable (session : Session) (running : session.ending = none)
include running

theorem fares_poll {overflow : Prop}
    (late : ¬ (session.node.tick session.clock session.incoming).InRange → overflow) :
    Fares overflow session session.poll := by
  unfold poll incoming at *
  have polled (delivery : Option Bus.Delivery) (uncalled : delivery.bind (·.ends?) = none) :
      session.Calm (record { session with script := session.script.afterDelivery }
        (.polled delivery)) [.polled delivery] := .one _ uncalled rfl rfl
  match delivered : session.script.nextDelivery with
  | none =>
    rw [delivered] at late
    exact (polled none rfl).before (fares_tickNode none running late)
  | some (.frame frame) =>
    rw [delivered] at late
    exact (polled (some (.frame frame)) rfl).before (fares_tickNode (some frame) running late)
  | some (.failure (.recoverable reason)) =>
    rw [delivered] at late
    exact (polled (some (.failure (.recoverable reason))) rfl).before
      (fares_tickNode none running late)
  | some (.failure (.fatal code)) =>
    refine .ends [] (.polled (some (.failure (.fatal code)))) (.transport code) ?_ nofun rfl rfl
    show session.journal ++ [_] ++ [_] = _
    rw [List.append_assoc]
    rfl
  | some .crash => exact .ends [] (.polled (some .crash)) .aborted rfl nofun rfl rfl

theorem fares_work : Fares session.Overflows session session.work := by
  unfold work
  cases settled : session.served.settle with
  | none =>
    refine .overflows [] (List.append_nil _).symm nofun (.inl ?_) rfl
    intro inRange
    simp [Reaction.settle, inRange] at settled
  | some outcome =>
    obtain ⟨-, rfl⟩ := (Reaction.settle_eq_some_iff _ _).mp settled
    let served : Session := { session with node := session.served.value, commands := [] }
    have same : session.Calm served [] := ⟨(List.append_nil _).symm, nofun, rfl⟩
    exact same.before (served.fares_poll running .inr)

/-- An iteration that finds a stop request. -/
theorem iterate_of_asked (asked : session.stopRequested = true) :
    session.iterate = session.finish .stopped := by
  rw [iterate, if_neg (by simp [running]), if_pos asked]

/-- An iteration without one. -/
theorem fares_iterate (unasked : session.stopRequested = false) :
    Fares session.Overflows session session.iterate := by
  have begun : session.Calm (session.record (.began session.clock)) [.began session.clock] :=
    .one _ rfl rfl rfl
  have on : ¬ session.ending.isSome = true := by simp [running]
  rw [iterate, if_neg on, if_neg (by simp [unasked])]
  exact begun.before (fares_work (session.record (.began session.clock)) running)

/-- An iteration of which nothing calls for an end leaves the runner at work. Frames that were lost
to recoverable failures call for nothing. -/
theorem running_of_harmless (unasked : session.stopRequested = false)
    (inTime : ¬ session.Overflows) (harmless : Harmless (session.iterate.since session)) :
    session.iterate.ending = none := by
  unfold since at harmless
  cases session.fares_iterate running unasked with
  | goesOn _ _ _ goes => exact goes
  | ends past item ending journal _ called _ =>
    rw [journal, List.drop_left] at harmless
    have uncalled := harmless item (by simp)
    simp [called] at uncalled
  | overflows _ _ _ late _ => exact absurd late inTime

end Iteration

/-- An input other than an iteration neither ends the runner nor calls for an end. -/
theorem calm_react (session : Session) (input : Input) (other : input ≠ .iterate) :
    ∃ turn, session.Calm (session.react input) turn := by
  have ending := (session.untouched_react input other).ending
  cases session.aside_react input other with
  | unmoved journal => exact ⟨[], journal.trans (List.append_nil _).symm, nofun, ending⟩
  | enqueued outgoing _ _ journal => exact ⟨_, .one _ rfl journal ending⟩
  | taken event _ journal => exact ⟨_, .one _ rfl journal ending⟩

/-- Nothing that has happened to a running session calls for an end. -/
theorem harmless_react {session : Session} (input : Input)
    (harmless : session.ending = none → Harmless session.journal)
    (running : (session.react input).ending = none) : Harmless (session.react input).journal := by
  have grows {after : Session} {turn : List Occurrence} (before : session.ending = none)
      (journal : after.journal = session.journal ++ turn) (unharmed : Harmless turn) :
      Harmless after.journal := by
    rw [journal]
    exact (harmless before).append unharmed
  by_cases iterates : input = .iterate
  · subst iterates
    change session.iterate.ending = none at running
    have before : session.ending = none := by
      cases ended : session.ending with
      | none => rfl
      | some ending =>
        rw [iterate_of_ended ended, ended] at running
        cases running
    cases asked : session.stopRequested with
    | true =>
      rw [session.iterate_of_asked before asked] at running
      cases running
    | false =>
      cases session.fares_iterate before asked with
      | goesOn turn journal unharmed _ => exact grows before journal unharmed
      | ends _ _ _ _ _ _ ended =>
        rw [ended] at running
        cases running
      | overflows _ _ _ _ ended =>
        rw [ended] at running
        cases running
  · obtain ⟨turn, calm⟩ := session.calm_react input iterates
    exact grows (calm.ending.symm.trans running) calm.journal calm.harmless

theorem harmless_run {session : Session} (inputs : List Input)
    (harmless : session.ending = none → Harmless session.journal)
    (running : (session.run inputs).ending = none) : Harmless (session.run inputs).journal := by
  induction inputs generalizing session with
  | nil => exact harmless running
  | cons input rest ih => exact ih (harmless_react input harmless) running

/-- What is left to happen to a session that is over: the application takes what waits for it. -/
structure Outlives (session after : Session) : Prop where
  ending : after.ending = session.ending
  node : after.node = session.node
  queue : after.queue = session.queue
  commands : after.commands = session.commands
  status : after.status = session.status
  journal : ∃ events : List Notification,
    after.journal = session.journal ++ events.map .taken

section Ended

variable {session : Session} {ending : Ending} (ended : session.ending = some ending)
include ended

theorem not_running_of_ended : session.running = false := by simp [running, ended]

theorem send_of_ended (outgoing : Outgoing) : session.send outgoing = .error .closed := by
  rw [send, if_neg (by simp [not_running_of_ended ended])]

theorem command_of_ended (command : Command) : session.command command = .error .closed := by
  rw [Session.command, if_neg (by simp [not_running_of_ended ended])]

theorem outlives_react (input : Input) : session.Outlives (session.react input) := by
  have unmoved : session.Outlives session :=
    ⟨rfl, rfl, rfl, rfl, rfl, [], (List.append_nil _).symm⟩
  cases input with
  | advance | expectDeliveries | expectAnswers | requestStop =>
    exact ⟨rfl, rfl, rfl, rfl, rfl, [], (List.append_nil _).symm⟩
  | send outgoing =>
    show session.Outlives ((session.send outgoing).toOption.getD session)
    rw [send_of_ended ended]
    exact unmoved
  | command command =>
    show session.Outlives ((session.command command).toOption.getD session)
    rw [command_of_ended ended]
    exact unmoved
  | receive =>
    unfold react Session.receive
    dsimp only
    split
    · exact unmoved
    · rename_i event rest _
      exact ⟨rfl, rfl, rfl, rfl, rfl, [event], rfl⟩
  | iterate =>
    show session.Outlives session.iterate
    rw [iterate_of_ended ended]
    exact unmoved

theorem outlives_run (inputs : List Input) : session.Outlives (session.run inputs) := by
  induction inputs generalizing session with
  | nil => exact ⟨rfl, rfl, rfl, rfl, rfl, [], (List.append_nil _).symm⟩
  | cons input rest ih =>
    have first := outlives_react ended input
    have later := ih (first.ending.trans ended)
    obtain ⟨early, journal⟩ := first.journal
    obtain ⟨late, more⟩ := later.journal
    refine ⟨later.ending.trans first.ending, later.node.trans first.node,
      later.queue.trans first.queue, later.commands.trans first.commands,
      later.status.trans first.status, early ++ late, ?_⟩
    rw [run_cons, more, journal, List.append_assoc, List.map_append]

end Ended

/-- A runner at work was at work before. -/
theorem running_of_react {session : Session} {input : Input}
    (running : (session.react input).ending = none) : session.ending = none := by
  cases ended : session.ending with
  | none => rfl
  | some ending =>
    rw [(outlives_react ended input).ending, ended] at running
    cases running

/-- Letting a session go ends its runner, which stops if it was at work. -/
theorem ending_release (session : Session) :
    session.release.ending = some (session.ending.getD .stopped) := by
  cases ended : session.ending with
  | none =>
    have running : session.requestStop.ending = none := ended
    rw [release, iterate_of_asked _ running rfl]
    rfl
  | some ending =>
    have stopping : session.requestStop.ending = some ending := ended
    rw [release, iterate_of_ended stopping, stopping]
    rfl

/-- Closing a session returns how its runner ended. -/
theorem close_result (session : Session) :
    session.close.1 = (session.ending.getD .stopped).result := by
  show (session.release.ending.getD .stopped).result = _
  rw [session.ending_release]
  rfl

end Session

open Session

/-- Over every run of a session, whatever the bus has to say and whenever the application calls:

while the runner is at work, nothing has happened that calls for an end. Its next iteration stops
it if it was asked to stop, and otherwise ends it over a fatal failure, with the code of that
failure, or where the bus or the clock breaks down, and the occurrence that ends it is the last one
but for the closing of the bus; if no occurrence of the iteration calls for an end, recoverable
failures among them, and the clock holds, the runner goes on;

nothing but an iteration ends the runner;

once it has ended, whatever comes later, the application takes notifications and nothing else
happens: the queue, the waiting requests and the shown status stay as they are, frames and requests
are refused, and closing the session returns how the runner ended, as it does at any time. -/
theorem errors_stop_the_session (config : Config) (origin : Nat) (inputs : List Session.Input) :
    let session := (Session.ofNode (Node.start config origin).value origin).run inputs
    (session.ending = none →
      Journal.Harmless session.journal ∧
        (session.stopRequested = true → session.iterate = session.finish .stopped) ∧
        (session.stopRequested = false → Fares session.Overflows session session.iterate ∧
          (¬ session.Overflows → Journal.Harmless (session.iterate.since session) →
            session.iterate.ending = none))) ∧
      (∀ input, input ≠ .iterate → (session.react input).ending = session.ending) ∧
      (∀ ending, session.ending = some ending → ∀ later,
        let after := session.run later
        session.Outlives after ∧ (∀ outgoing, after.send outgoing = .error .closed) ∧
          (∀ command, after.command command = .error .closed) ∧
          after.close.1 = ending.result) ∧
      session.close.1 = (session.ending.getD .stopped).result := by
  intro session
  refine ⟨fun running => ⟨harmless_run inputs (fun _ => nofun) running,
    session.iterate_of_asked running, ?_⟩, ?_, ?_, session.close_result⟩
  · intro unasked
    exact ⟨session.fares_iterate running unasked, session.running_of_harmless running unasked⟩
  · intro input other
    obtain ⟨turn, calm⟩ := session.calm_react input other
    exact calm.ending
  · intro ending ended later after
    have outlives := outlives_run ended later
    have still : after.ending = some ending := outlives.ending.trans ended
    refine ⟨outlives, send_of_ended still, command_of_ended still, ?_⟩
    rw [close_result, still]
    rfl

/-- A master whose sync the bus answers with a fatal failure has told nothing of it yet. -/
example :
    let opened := Session.ofNode (Node.start (Config.candidate 10 (by decide)) 0).value 0
    let session := opened.run [.iterate, .advance 7813,
      .expectAnswers [.failure (.recoverable "arbitration"), .failure (.fatal 5)], .iterate,
      .advance 7813, .iterate, .requestStop, .iterate]
    session.ending = some (.transport 5) ∧ session.inbound =
      [.modeChanged .preOperational, .masterChanged (some 10), .syncUpdated 1] := by
  decide +kernel

end VehicleBus
