import VehicleBus.Proofs.Session.OwnFrames

/-!
The inbound queue keeps the oldest. The runner publishes and the application takes, in any order,
one at a time; what was taken, followed by what waits, is what was published, without what came
while the queue was full. A run of a session is such an interleaving: an iteration publishes what
its journal shows, and an application that waits for a notification takes one between iterations.
-/
namespace VehicleBus

namespace Journal

/-- The room for the rest of a journal, after its first occurrence. -/
theorem Roomy.tail {waiting : List Notification} {occurrence : Occurrence}
    {rest : List Occurrence} (roomy : Roomy waiting (occurrence :: rest)) :
    Roomy (waiting ++ kept [occurrence]) rest := by
  intro before event kept after split
  rw [List.append_assoc, ← kept_append]
  apply roomy ([occurrence] ++ before) event kept after
  rw [split]
  rfl

end Journal

namespace Session

/-- What moves the inbound queue: the runner publishes, or the application takes. -/
inductive Exchange where
  | publish (event : Notification)
  | receive
  deriving DecidableEq, Repr

def exchange (session : Session) : Exchange → Session
  | .publish event => session.publish event
  | .receive => session.receive.2

/-- The session after an interleaving. -/
def exchanged (session : Session) (exchanges : List Exchange) : Session :=
  exchanges.foldl exchange session

/-- What the application gets, call by call. -/
def answers (session : Session) : List Exchange → List (Option Notification)
  | [] => []
  | .publish event :: rest => (session.publish event).answers rest
  | .receive :: rest => session.receive.1 :: session.receive.2.answers rest

/-- What is published, without what is published while thirty notifications wait. -/
def undropped (session : Session) : List Exchange → List Notification
  | [] => []
  | .publish event :: rest =>
    if session.inbound.length = 30 then (session.publish event).undropped rest
    else event :: (session.publish event).undropped rest
  | .receive :: rest => session.receive.2.undropped rest

section Exchange

variable (session : Session)

theorem exchanged_cons (exchange : Exchange) (rest : List Exchange) :
    session.exchanged (exchange :: rest) = (session.exchange exchange).exchanged rest := rfl

theorem exchanged_append (first second : List Exchange) :
    session.exchanged (first ++ second) = (session.exchanged first).exchanged second :=
  List.foldl_append

theorem answers_append (first second : List Exchange) :
    session.answers (first ++ second) =
      session.answers first ++ (session.exchanged first).answers second := by
  induction first generalizing session with
  | nil => rfl
  | cons exchange rest ih =>
    cases exchange with
    | publish event => exact ih (session.publish event)
    | receive => exact congrArg (session.receive.1 :: ·) (ih session.receive.2)

theorem answers_publish (events : List Notification) :
    session.answers (events.map .publish) = [] := by
  induction events generalizing session with
  | nil => rfl
  | cons event rest ih => exact ih (session.publish event)

theorem receive_fst : session.receive.1 = session.inbound.head? := by
  unfold receive
  split <;> simp_all

theorem inbound_receive : session.receive.2.inbound = session.inbound.tail := by
  unfold receive
  split <;> simp_all [record]

theorem inbound_publish (event : Notification) : (session.publish event).inbound =
    if session.inbound.length < maxInbound then session.inbound ++ [event]
    else session.inbound := by
  unfold publish
  split <;> rfl

end Exchange

section Bounded

variable {session : Session} (few : session.inbound.length ≤ maxInbound)

include few

theorem length_inbound_exchange (exchange : Exchange) :
    (session.exchange exchange).inbound.length ≤ maxInbound := by
  cases exchange with
  | publish event =>
    rw [Session.exchange, inbound_publish]
    split
    · rw [List.length_append]
      assumption
    · exact few
  | receive =>
    rw [Session.exchange, inbound_receive, List.length_tail]
    omega

theorem length_inbound_exchanged (exchanges : List Exchange) :
    (session.exchanged exchanges).inbound.length ≤ maxInbound := by
  induction exchanges generalizing session with
  | nil => exact few
  | cons exchange rest ih => exact ih (length_inbound_exchange few exchange)

/-- A queue that is not full takes what is published next, behind what waits. -/
theorem inbound_publish_of_few (event : Notification) : (session.publish event).inbound =
    if session.inbound.length = 30 then session.inbound else session.inbound ++ [event] := by
  unfold maxInbound at few
  rw [inbound_publish, maxInbound]
  by_cases full : session.inbound.length = 30
  · rw [if_neg (by omega), if_pos full]
  · rw [if_pos (by omega), if_neg full]

/-- What waits and what is not dropped leaves the queue in order, or waits at the end. -/
theorem undropped_eq (exchanges : List Exchange) :
    session.inbound ++ session.undropped exchanges =
      (session.answers exchanges).filterMap id ++ (session.exchanged exchanges).inbound := by
  induction exchanges generalizing session with
  | nil => exact List.append_nil _
  | cons exchange rest ih =>
    have later := ih (length_inbound_exchange few exchange)
    cases exchange with
    | publish event =>
      rw [Session.exchange, inbound_publish_of_few few] at later
      rw [exchanged_cons, answers, undropped, Session.exchange, ← later]
      split
      · rfl
      · exact List.append_cons _ _ _
    | receive =>
      rw [exchanged_cons, answers, undropped, receive_fst]
      rw [Session.exchange, inbound_receive] at later
      cases waiting : session.inbound with
      | nil =>
        rw [waiting] at later
        exact later
      | cons event others =>
        rw [waiting] at later
        exact congrArg (event :: ·) later

end Bounded

/-- What an input does to the inbound queue: it publishes what the journal shows, or takes. -/
def exchangesOf (session : Session) : Input → List Exchange
  | .receive => [.receive]
  | input => (Journal.published ((session.react input).since session)).map .publish

/-- What a run does to the inbound queue. -/
def runExchanges (session : Session) : List Input → List Exchange
  | [] => []
  | input :: rest => session.exchangesOf input ++ (session.react input).runExchanges rest

/-- What the application gets in a run, call by call. -/
def runAnswers (session : Session) : List Input → List (Option Notification)
  | [] => []
  | .receive :: rest => session.receive.1 :: session.receive.2.runAnswers rest
  | input :: rest => (session.react input).runAnswers rest

theorem runAnswers_of_other (session : Session) {input : Input} (other : input ≠ .receive)
    (rest : List Input) :
    session.runAnswers (input :: rest) = (session.react input).runAnswers rest := by
  cases input with
  | receive => exact absurd rfl other
  | _ => rfl

/-- Every input but the application's taking adds to the journal as a part of an iteration does. -/
theorem fills_react (session : Session) {input : Input} (other : input ≠ .receive) :
    ∃ turn events carried, session.Fills (session.react input) turn events carried := by
  by_cases iterated : input = .iterate
  · rw [iterated]
    obtain ⟨turn, told, carried, fills, -⟩ := session.fills_iterate
    exact ⟨turn, _, carried, fills⟩
  · rcases session.fills_react_of_other input iterated with ⟨turn, fills⟩ | ⟨given, -⟩
    · exact ⟨turn, [], [], fills⟩
    · exact absurd given other

/-- Publishing what a journal shows fills the queue as the journal says. -/
theorem inbound_exchanged_published {mirror : Session} {turn : List Occurrence}
    (roomy : Journal.Roomy mirror.inbound turn) :
    (mirror.exchanged ((Journal.published turn).map .publish)).inbound =
      mirror.inbound ++ Journal.kept turn := by
  induction turn generalizing mirror with
  | nil => exact (List.append_nil _).symm
  | cons occurrence rest ih =>
    -- The rest finds the room that the first occurrence leaves, in the journal and in the queue.
    have later := roomy.tail
    cases occurrence with
    | published event kept =>
      have room : kept = true ↔ mirror.inbound.length < maxInbound := by
        have room := roomy [] event kept rest rfl
        rwa [Journal.kept, List.filterMap_nil, List.append_nil] at room
      have first : (mirror.publish event).inbound =
          mirror.inbound ++ Journal.kept [.published event kept] := by
        rw [inbound_publish]
        by_cases fits : mirror.inbound.length < maxInbound
        · rw [if_pos fits, room.mpr fits]
          rfl
        · rw [if_neg fits, Bool.eq_false_iff.mpr fun taken => fits (room.mp taken)]
          exact (List.append_nil _).symm
      rw [← first] at later
      show ((mirror.publish event).exchanged ((Journal.published rest).map .publish)).inbound = _
      rw [ih later, first, List.append_assoc, ← Journal.kept_append]
      rfl
    | _ =>
      rw [show Journal.kept [_] = [] from rfl, List.append_nil] at later
      exact ih later

section Mirror

variable {session mirror : Session} (same : mirror.inbound = session.inbound)

include same

/-- One input moves the queue as its exchanges do. -/
theorem inbound_exchanged_exchangesOf (input : Input) :
    (mirror.exchanged (session.exchangesOf input)).inbound = (session.react input).inbound := by
  by_cases received : input = .receive
  · rw [received]
    show mirror.receive.2.inbound = session.receive.2.inbound
    rw [inbound_receive, inbound_receive, same]
  · obtain ⟨turn, events, carried, fills⟩ := session.fills_react received
    have exchanges : session.exchangesOf input = (Journal.published turn).map .publish := by
      rw [← fills.since]
      cases input with
      | receive => exact absurd rfl received
      | _ => rfl
    have roomy := fills.roomy
    rw [← same] at roomy
    rw [exchanges, inbound_exchanged_published roomy, same, fills.inbound]

theorem inbound_exchanged_runExchanges (inputs : List Input) :
    (mirror.exchanged (session.runExchanges inputs)).inbound = (session.run inputs).inbound := by
  induction inputs generalizing session mirror with
  | nil => exact same
  | cons input rest ih =>
    rw [runExchanges, exchanged_append, run_cons]
    exact ih (inbound_exchanged_exchangesOf same input)

theorem answers_runExchanges (inputs : List Input) :
    mirror.answers (session.runExchanges inputs) = session.runAnswers inputs := by
  induction inputs generalizing session mirror with
  | nil => rfl
  | cons input rest ih =>
    have later := ih (inbound_exchanged_exchangesOf same input)
    rw [runExchanges, answers_append, later]
    by_cases received : input = .receive
    · subst received
      show [mirror.receive.1] ++ session.receive.2.runAnswers rest = _
      rw [receive_fst, same, ← receive_fst]
      rfl
    · rw [runAnswers_of_other session received]
      cases input with
      | receive => exact absurd rfl received
      | _ => exact congrArg (· ++ _) (mirror.answers_publish _)

end Mirror

section Waiting

variable (session : Session)

theorem runAnswers_replicate_iterate (count : Nat) :
    session.runAnswers (List.replicate count .iterate) = [] := by
  induction count generalizing session with
  | zero => rfl
  | succ count ih => exact ih session.iterate

theorem runAnswers_append (first second : List Input) :
    session.runAnswers (first ++ second) =
      session.runAnswers first ++ (session.run first).runAnswers second := by
  induction first generalizing session with
  | nil => rfl
  | cons input rest ih =>
    by_cases received : input = .receive
    · subst received
      exact congrArg (session.receive.1 :: ·) (ih session.receive.2)
    · rw [List.cons_append, runAnswers_of_other session received,
        runAnswers_of_other session received, ih, run_cons]

/-- To wait for a notification is to take one between two numbers of iterations. -/
theorem exists_receiveWithin : ∃ inputs,
    session.run inputs = session.receiveWithin.2 ∧
      session.runAnswers inputs = [session.receiveWithin.1] := by
  obtain ⟨made, ready⟩ : ∃ made,
      (if session.inbound.isEmpty then session.awaitEvent session.patience else session) =
        session.iterations made := by
    split
    · exact session.exists_awaitEvent session.patience
    · exact ⟨0, rfl⟩
  unfold receiveWithin
  dsimp only
  rw [ready]
  refine ⟨List.replicate made .iterate ++ .receive ::
    List.replicate (session.iterations made).receive.2.patience .iterate, ?_, ?_⟩
  · rw [run_append, run_replicate_iterate, run_cons]
    exact run_replicate_iterate _ _
  · rw [runAnswers_append, runAnswers_replicate_iterate, run_replicate_iterate]
    show [] ++ (_ :: runAnswers _ _) = _
    rw [runAnswers_replicate_iterate]
    rfl

end Waiting

/-- What a session makes of an interleaving. -/
structure KeepsOldest (session : Session) (exchanges : List Exchange) : Prop where
  few : (session.exchanged exchanges).inbound.length ≤ 30
  /-- What was taken, followed by what waits. -/
  order : (session.answers exchanges).filterMap id ++ (session.exchanged exchanges).inbound =
    session.undropped exchanges
  oldest : (session.exchanged exchanges).receive.1 = (session.exchanged exchanges).inbound.head?
  nothing : (session.exchanged exchanges).receive.1 = none ↔
    (session.exchanged exchanges).inbound = []
  /-- What is dropped leaves what waits as it is. -/
  undisturbed : ∀ event, ((session.exchanged exchanges).publish event).inbound =
    if (session.exchanged exchanges).inbound.length = 30 then (session.exchanged exchanges).inbound
    else (session.exchanged exchanges).inbound ++ [event]

/-- A run moves the inbound queue as the interleaving of what its journal publishes and of the
application's calls does. -/
structure Interleaves (session : Session) (inputs : List Input) : Prop where
  inbound : (session.exchanged (session.runExchanges inputs)).inbound = (session.run inputs).inbound
  answers : session.answers (session.runExchanges inputs) = session.runAnswers inputs
  /-- So does a wait for a notification after the run. -/
  awaited : ∃ more, session.run (inputs ++ more) = (session.run inputs).receiveWithin.2 ∧
    session.runAnswers (inputs ++ more) =
      session.runAnswers inputs ++ [(session.run inputs).receiveWithin.1]

end Session

/-- Over every interleaving of publications and takings, and so over every run, at most thirty
notifications wait for the application, and what it took, followed by what waits, is in order what
was published, without what was published while thirty were waiting. -/
theorem inbound_queue_keeps_the_oldest (config : Config) (origin : Nat) :
    let session := (Session.ofNode (Node.start config origin).value origin)
    (∀ exchanges, session.KeepsOldest exchanges) ∧ ∀ inputs, session.Interleaves inputs := by
  intro session
  have few : session.inbound.length ≤ Session.maxInbound := Nat.zero_le _
  constructor
  · intro exchanges
    constructor
    · exact Session.length_inbound_exchanged few exchanges
    · exact (Session.undropped_eq few exchanges).symm
    · exact Session.receive_fst _
    · rw [Session.receive_fst, List.head?_eq_none_iff]
    · exact Session.inbound_publish_of_few (Session.length_inbound_exchanged few exchanges)
  · intro inputs
    constructor
    · exact Session.inbound_exchanged_runExchanges rfl inputs
    · exact Session.answers_runExchanges rfl inputs
    · obtain ⟨more, last, got⟩ := (session.run inputs).exists_receiveWithin
      refine ⟨more, ?_, ?_⟩
      · rw [Session.run_append, last]
      · rw [Session.runAnswers_append, got]

/-- Behind thirty notifications a change of the mode is lost. After one was taken there is room for
the next change. -/
example :
    let session := Session.ofNode (Node.start (Config.candidate 10 (by decide)) 0).value 0
    let filling := (List.range 30).map fun counter => .publish (.syncUpdated counter)
    (session.undropped (filling ++ [.publish (.modeChanged .operational), .receive,
      .publish (.modeChanged .preOperational)])).drop 30 = [.modeChanged .preOperational] := by
  decide

end VehicleBus
