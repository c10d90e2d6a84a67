import VehicleBus.Node.Reception

/-!
What a node does as time passes, in each mode: it keeps the time base going, judges
its master, lets its mode run out, and sends the bytes of the handshakes it was
asked for.
-/
namespace VehicleBus.Node

/-- The sync frame that the time base wants out, if it wants one, is transmitted and
counts as seen. -/
def sendSync (node : Node) (now : Nat) : Option Frame → Reaction Node
  | none => pure node
  | some frame => do
    node.transmitControl frame
    node.syncSeen now

/-- Sends a sync if one is due. -/
def runSync (node : Node) (now : Nat) : Reaction Node := do
  let polled ← node.timeBase.poll node.station now
  sendSync { node with timeBase := polled.2 } now polled.1

/-- The byte that the enter request wants out is transmitted and heard like a byte
of any other node. -/
def sendEnterByte (node : Node) (now : Nat) : Option UInt8 → Reaction Node
  | none => pure node
  | some byte => do
    node.transmitControl (Frame.enterConfig node.address byte)
    node.hearEnterByte now node.address byte

/-- Sends a byte of the enter sequence if one is due. -/
def runEnterRequest (node : Node) (now : Nat) : Reaction Node := do
  let polled ← node.enterRequest.poll .enter now node.timing.ptu
  sendEnterByte { node with enterRequest := polled.2 } now polled.1

/-- A node whose whole exit sequence is out leaves System Configuration, whatever
came of the bytes. -/
def concludeExit (node : Node) (now : Nat) : Reaction Node :=
  if node.exitRequest.finished then
    let node := { node with exitRequest := node.exitRequest.cancel }
    if node.mode = .systemConfiguration then node.enterPreOperational now else pure node
  else pure node

/-- The byte that the exit request wants out is transmitted and heard like a byte of
any other node. -/
def sendExitByte (node : Node) (now : Nat) : Option UInt8 → Reaction Node
  | none => pure node
  | some byte => do
    node.transmitControl (Frame.exitConfig node.address byte)
    let node ← node.hearExitByte now node.address byte
    node.concludeExit now

/-- Sends a byte of the exit sequence if one is due. -/
def runExitRequest (node : Node) (now : Nat) : Reaction Node := do
  let polled ← node.exitRequest.poll .exit now node.timing.ptu
  sendExitByte { node with exitRequest := polled.2 } now polled.1

/-- A master that is lost is given up; one that is held long enough promotes the
node. -/
def promoteUnless (node : Node) (now : Nat) (lost : Bool) : Reaction Node :=
  if lost then node.reopenElection now
  else if node.expired now then node.enterOperational now
  else pure node

/-- Decides in PreOperational what becomes of the master and of the node. -/
def judgeMaster (node : Node) (now : Nat) : Reaction Node :=
  if node.timeBase.master.isSome then do
    let lost ← node.timeBase.lost node.station now
    node.promoteUnless now lost
  else pure node

def runPreOperational (node : Node) (now : Nat) : Reaction Node := do
  let node ← node.runSync now
  let node ← node.judgeMaster now
  node.runEnterRequest now

/-- Without a sync in time Operational is given up, and nothing more is sent. -/
def watchSyncs (node : Node) (now : Nat) : Reaction Node :=
  if node.expired now then node.enterPreOperational now else node.runEnterRequest now

def runOperational (node : Node) (now : Nat) : Reaction Node := do
  let node ← node.runSync now
  node.watchSyncs now

def runRequests (node : Node) (now : Nat) : Reaction Node := do
  let node ← node.runEnterRequest now
  node.runExitRequest now

/-- Without a refresh in time System Configuration is given up, and nothing is sent. -/
def runSystemConfiguration (node : Node) (now : Nat) : Reaction Node :=
  if node.expired now then node.enterPreOperational now else node.runRequests now

/-- The duties of the present mode. -/
def runTimers (node : Node) (now : Nat) : Reaction Node :=
  match node.mode with
  | .powerOff => pure node
  | .preOperational => node.runPreOperational now
  | .operational => node.runOperational now
  | .systemConfiguration => node.runSystemConfiguration now

end VehicleBus.Node
