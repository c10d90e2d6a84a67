import VehicleBus.Session

/-!
The runner of a session. One iteration serves the requests, asks the bus for a frame,
ticks the node, shows the status, transmits the control frames, publishes the
notifications and, where the mode allows it, transmits one waiting frame. It ends at
a stop request or a fatal failure of the bus, and then closes the bus; it breaks down,
leaving the bus open, when the bus or the clock does.
-/
namespace VehicleBus.Session

/-- The runner ends in order and closes the bus. -/
def finish (session : Session) (ending : Ending) : Session :=
  record { session with ending := some ending } .closed

/-- The runner breaks down. -/
def abort (session : Session) : Session := { session with ending := some .aborted }

/-- Publishes a notification. When no room is left, the new one is dropped. -/
def publish (session : Session) (event : Notification) : Session :=
  if session.inbound.length < maxInbound then
    record { session with inbound := session.inbound ++ [event] } (.published event true)
  else session.record (.published event false)

def publishAll (session : Session) (events : List Notification) : Session :=
  events.foldl publish session

/-- Shows the status of the node to the application. -/
def showStatus (session : Session) : Session :=
  record { session with status := session.node.status } (.shown session.node.status)

/-- Ends the runner unless the answer of the bus lets it go on. -/
def afterAnswer (session : Session) : Bus.Answer → Session
  | .accepted => session
  | .failure (.recoverable _) => session
  | .failure (.fatal code) => session.finish (.transport code)
  | .crash => session.abort

/-- Publishes a copy of a frame that the bus accepted, if the application wants it. -/
def echo (session : Session) (frame : Frame) (answer : Bus.Answer) : Session :=
  if answer = .accepted ∧ session.node.config.options.echoOwn = true then
    session.publish (.message frame)
  else session

/-- Hands a waiting frame to the bus. -/
def transmitQueued (session : Session) (entry : Entry) : Session :=
  let answer := session.script.nextAnswer
  let session :=
    record { session with script := session.script.afterAnswer } (.queuedSent entry answer)
  (session.afterAnswer answer).echo entry.frame answer

/-- Takes the most urgent live frame out of the queue. -/
def pullQueue (session : Session) : Session :=
  let pull := session.queue.pull session.clock
  { session with
    queue := session.queue.afterPull session.clock
    journal := session.journal ++ pull.expired.map .expired }

/-- Transmits one waiting frame where the mode allows it. -/
def drainQueue (session : Session) : Session :=
  if session.node.drains then
    match (session.queue.pull session.clock).found with
    | none => session.pullQueue
    | some entry => session.pullQueue.transmitQueued entry
  else session

/-- Hands a control frame to the bus. -/
def transmitControl (session : Session) (frame : Frame) : Session :=
  let answer := session.script.nextAnswer
  let session :=
    record { session with script := session.script.afterAnswer } (.controlSent frame answer)
  session.afterAnswer answer

/-- Hands control frames to the bus, in order, until one ends the runner. -/
def transmitControls (session : Session) : List Frame → Session
  | [] => session
  | frame :: rest =>
    let session := session.transmitControl frame
    if session.ending.isSome then session else session.transmitControls rest

/-- The runner's work after the node has ticked. -/
def carryOut (session : Session) (outbox : Outbox) : Session :=
  let session := session.showStatus.transmitControls outbox.transmit
  if session.ending.isSome then session else (session.publishAll outbox.events).drainQueue

/-- Ticks the node with a frame, if there is one, and does what follows from it. -/
def tickNode (session : Session) (frame : Option Frame) : Session :=
  match (session.node.tick session.clock frame).settle with
  | none => session.abort
  | some (node, outbox) => carryOut { session with node } outbox

/-- Goes on with what the bus delivered. -/
def handle (session : Session) : Option Bus.Delivery → Session
  | none => session.tickNode none
  | some (.frame frame) => session.tickNode (some frame)
  | some (.failure (.recoverable _)) => session.tickNode none
  | some (.failure (.fatal code)) => session.finish (.transport code)
  | some .crash => session.abort

/-- Asks the bus for a frame and goes on with what it delivers. -/
def poll (session : Session) : Session :=
  let delivery := session.script.nextDelivery
  let session :=
    record { session with script := session.script.afterDelivery } (.polled delivery)
  session.handle delivery

def serve (now : Nat) (node : Node) : Command → Reaction Node
  | .enterConfiguration => node.requestEnter now
  | .exitConfiguration => node.requestExit now

/-- The node after all waiting requests. -/
def served (session : Session) : Reaction Node :=
  session.commands.foldlM (serve session.clock) session.node

/-- Passes the waiting requests on to the node and goes on. -/
def work (session : Session) : Session :=
  match session.served.settle with
  | none => abort { session with commands := [] }
  | some (node, _) => poll { session with node, commands := [] }

/-- One iteration. A runner that has ended does nothing more. -/
def iterate (session : Session) : Session :=
  if session.ending.isSome then session
  else if session.stopRequested then session.finish .stopped
  else (session.record (.began session.clock)).work

/-- What a session did since an earlier state of it. -/
def since (session earlier : Session) : List Occurrence :=
  session.journal.drop earlier.journal.length

/-- Whether the runner lets the application run after the iteration that led here: it
does so when it has ended or when no frame came or went. -/
def yields (session earlier : Session) : Bool :=
  session.ending.isSome || !(session.since earlier).any Occurrence.isTraffic

/-- A number of iterations. -/
def iterations (session : Session) : Nat → Session
  | 0 => session
  | count + 1 => session.iterate.iterations count

/-- The number of iterations after which nothing more happens at a fixed clock: one
for each thing that the bus has to deliver and for each waiting frame, and a few more. -/
def patience (session : Session) : Nat :=
  session.script.deliveries.length + session.queue.size + 5

/-- Lets the runner work until nothing more happens at the present clock. -/
def settle (session : Session) : Session := session.iterations session.patience

/-- Lets the runner work until it lets the application run and a notification waits. -/
def awaitEvent (session : Session) : Nat → Session
  | 0 => session
  | count + 1 =>
    let next := session.iterate
    if next.yields session && !next.inbound.isEmpty then next else next.awaitEvent count

/-- Takes a notification, waiting for one if need be, and lets the runner settle. -/
def receiveWithin (session : Session) : Option Notification × Session :=
  let ready := if session.inbound.isEmpty then session.awaitEvent session.patience else session
  (ready.receive.1, ready.receive.2.settle)

/-- Stops the runner, waits for its end and reports it. -/
def close (session : Session) : Except Error Unit × Session :=
  let last := session.requestStop.iterate
  ((last.ending.getD .stopped).result, last)

/-- Lets the session go. The runner stops as if it had been closed. -/
def release (session : Session) : Session := session.requestStop.iterate

end VehicleBus.Session
