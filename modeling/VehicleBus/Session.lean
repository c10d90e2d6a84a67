import VehicleBus.Node.Run
import VehicleBus.Session.Journal
import VehicleBus.TransmitQueue

/-!
A session: a node on a bus, with the queues between it and the application. The
application hands frames over, takes notifications and makes requests; all work on
the bus is done by the session's runner. This module holds the session and what the
application does with it.
-/
namespace VehicleBus

/-- A request of the application to the node. -/
inductive Command where
  | enterConfiguration
  | exitConfiguration
  deriving DecidableEq, Repr

/-- How a runner ended. -/
inductive Ending where
  /-- It was asked to stop. -/
  | stopped
  /-- The bus failed for good. -/
  | transport (code : Nat)
  /-- It broke down in the middle of its work. -/
  | aborted
  deriving DecidableEq, Repr

structure Session where
  node : Node
  clock : Nat
  script : Bus.Script
  queue : TransmitQueue
  commands : List Command
  /-- The notifications that wait for the application, the oldest first. -/
  inbound : List Notification
  /-- What the application sees of the node. -/
  status : Status
  stopRequested : Bool
  /-- How the runner ended, if it did. -/
  ending : Option Ending
  journal : List Occurrence
  deriving DecidableEq, Repr

namespace Session

/-- The number of notifications that can wait for the application. -/
def maxInbound : Nat := 30

/-- The number of requests that can wait for the runner. -/
def maxCommands : Nat := 4

/-- Why a frame or a request is refused. -/
inductive SendError where
  /-- Too many requests wait. A frame is not refused for this, as memory is taken to be there. -/
  | resourceExhausted
  | closed
  deriving DecidableEq, Repr

def SendError.message : SendError → String
  | .resourceExhausted => "Resource exhausted"
  | .closed => "Session closed"

/-- What can go wrong with a session as a whole. -/
inductive Error where
  /-- There is nothing to run the session on. -/
  | noRuntime
  | transport (code : Nat)
  | aborted
  deriving DecidableEq, Repr

def Error.message : Error → String
  | .noRuntime => "No Tokio runtime available to run the session"
  | .transport code => "Transport failure: " ++ toString code
  | .aborted => "Session task aborted"

/-- A new session, its runner not yet at work. -/
def ofNode (node : Node) (clock : Nat) : Session where
  node
  clock
  script := {}
  queue := .empty
  commands := []
  inbound := []
  status := {}
  stopRequested := false
  ending := none
  journal := []

/-- Opens a session, which takes something to run it on. -/
def start (runtime : Bool) (config : Config) (now : Nat) : Except Error (Reaction Session) :=
  if runtime then
    .ok do
      let node ← Node.start config now
      return ofNode node now
  else .error .noRuntime

def address (session : Session) : UInt8 := session.node.address

def record (session : Session) (occurrence : Occurrence) : Session :=
  { session with journal := session.journal ++ [occurrence] }

/-- Whether the session still takes frames and requests. -/
def running (session : Session) : Bool := !session.stopRequested && session.ending.isNone

/-- Lets time pass. -/
def advance (session : Session) (span : Nat) : Session :=
  { session with clock := session.clock + span }

/-- Extends what the bus is going to deliver. -/
def expectDeliveries (session : Session) (deliveries : List Bus.Delivery) : Session :=
  { session with
    script := { session.script with deliveries := session.script.deliveries ++ deliveries } }

/-- Extends what the bus is going to answer. -/
def expectAnswers (session : Session) (answers : List Bus.Answer) : Session :=
  { session with script := { session.script with answers := session.script.answers ++ answers } }

/-- Hands a frame over. It only waits; the runner transmits it. The queue takes every frame, so only
a session that does not run refuses one. -/
def send (session : Session) (outgoing : Outgoing) : Except SendError Session :=
  if session.running then
    .ok <| record { session with queue := session.queue.enqueue outgoing session.clock }
      (.enqueued (.ofOutgoing outgoing session.clock))
  else .error .closed

/-- Makes a request to the node. -/
def command (session : Session) (command : Command) : Except SendError Session :=
  if session.running then
    if session.commands.length < maxCommands then
      .ok { session with commands := session.commands ++ [command] }
    else .error .resourceExhausted
  else .error .closed

/-- Takes the oldest waiting notification. -/
def receive (session : Session) : Option Notification × Session :=
  match session.inbound with
  | [] => (none, session)
  | event :: rest => (some event, record { session with inbound := rest } (.taken event))

/-- Takes all waiting notifications, the oldest first. -/
def receiveAll (session : Session) : List Notification × Session :=
  (session.inbound,
    { session with
      inbound := []
      journal := session.journal ++ session.inbound.map .taken })

/-- Taking everything is over where nothing waits. -/
theorem receiveAll_of_empty (session : Session) (nothing : session.inbound = []) :
    session.receiveAll = ([], session) := by
  cases session
  cases nothing
  simp [receiveAll]

/-- Otherwise it goes on after the oldest notification. -/
theorem receiveAll_of_cons (session : Session) (event : Notification) (rest : List Notification)
    (waiting : session.inbound = event :: rest) :
    session.receiveAll =
      (event :: session.receive.2.receiveAll.1, session.receive.2.receiveAll.2) := by
  cases session
  cases waiting
  simp [receiveAll, receive, record]

/-- Asks the runner to stop. -/
def requestStop (session : Session) : Session := { session with stopRequested := true }

end Session

/-- The end of a runner as the application learns it. -/
def Ending.result : Ending → Except Session.Error Unit
  | .stopped => .ok ()
  | .transport code => .error (.transport code)
  | .aborted => .error .aborted

end VehicleBus
