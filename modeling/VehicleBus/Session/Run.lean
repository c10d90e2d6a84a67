import VehicleBus.Session.Runner

/-!
What can happen to a session, and its run over a list of such inputs: time passes, the
bus gets more to deliver or to answer, the application sends, asks, takes or stops,
and the runner iterates. Any order is possible.
-/
namespace VehicleBus.Session

inductive Input where
  | advance (span : Nat)
  | expectDeliveries (deliveries : List Bus.Delivery)
  | expectAnswers (answers : List Bus.Answer)
  | send (outgoing : Outgoing)
  | command (command : Command)
  | receive
  | requestStop
  | iterate
  deriving DecidableEq, Repr

/-- The session after an input. A refused frame or request leaves it as it was. -/
def react (session : Session) : Input → Session
  | .advance span => session.advance span
  | .expectDeliveries deliveries => session.expectDeliveries deliveries
  | .expectAnswers answers => session.expectAnswers answers
  | .send outgoing => (session.send outgoing).toOption.getD session
  | .command command => (session.command command).toOption.getD session
  | .receive => session.receive.2
  | .requestStop => session.requestStop
  | .iterate => session.iterate

/-- The session after a list of inputs, in order. -/
def run (session : Session) (inputs : List Input) : Session := inputs.foldl react session

@[simp] theorem run_nil (session : Session) : session.run [] = session := rfl

@[simp] theorem run_cons (session : Session) (input : Input) (rest : List Input) :
    session.run (input :: rest) = (session.react input).run rest := rfl

theorem run_append (session : Session) (first second : List Input) :
    session.run (first ++ second) = (session.run first).run second := List.foldl_append

end VehicleBus.Session
