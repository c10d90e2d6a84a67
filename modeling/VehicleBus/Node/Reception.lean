import VehicleBus.Node

/-!
What a node does with the frames it receives. Its own frames are dropped,
application frames are delivered in the modes that carry traffic, and control
frames are obeyed.
-/
namespace VehicleBus.Node

/-- A sync was accepted or sent. In PreOperational the first one since the election
opened starts the wait for promotion; in Operational each one feeds the watchdog. -/
def syncSeen (node : Node) (now : Nat) : Reaction Node :=
  match node.mode, node.deadline with
  | .preOperational, none => node.setDeadline now node.timing.slaveTimeout
  | .operational, _ => node.setDeadline now node.timing.watchdog
  | _, _ => pure node

/-- Obeys a sync of another node that carries a counter. -/
def followSync (node : Node) (now : Nat) (source : UInt8) (counter : Nat) : Reaction Node :=
  if node.timeBase.accepts source then do
    let timeBase ← node.timeBase.hear node.station now source counter
    syncSeen { node with timeBase } now
  else pure node

/-- Obeys a sync frame. System Configuration has no syncs, and a frame without a
counter is no sync. -/
def hearSync (node : Node) (now : Nat) (frame : Frame) : Reaction Node :=
  if node.mode = .systemConfiguration then pure node
  else
    match frame.syncCounter? with
    | none => pure node
    | some counter => node.followSync now frame.id.source counter

/-- The enter sequence of a source is complete: System Configuration begins, or is
refreshed where it holds. The node's own sequence needs no repetition then. -/
def enterCompleted (node : Node) (now : Nat) (source : UInt8) : Reaction Node :=
  let node :=
    if source = node.address then { node with enterRequest := node.enterRequest.cancel } else node
  if node.mode = .systemConfiguration then node.setDeadline now configurationTimeout
  else node.enterSystemConfiguration now

def afterEnterByte (node : Node) (now : Nat) (source : UInt8) (verdict : Handshake.Verdict) :
    Reaction Node :=
  if verdict = .complete then node.enterCompleted now source else pure node

/-- Handles a byte of the enter sequence, of another node or its own. -/
def hearEnterByte (node : Node) (now : Nat) (source byte : UInt8) : Reaction Node := do
  let heard ← node.enterListener.hear .enter now source byte
  afterEnterByte { node with enterListener := heard.2 } now source heard.1

def afterExitByte (node : Node) (now : Nat) (verdict : Handshake.Verdict) : Reaction Node :=
  if verdict = .complete then node.enterPreOperational now else pure node

/-- Follows a byte of the exit sequence. -/
def followExitByte (node : Node) (now : Nat) (source byte : UInt8) : Reaction Node := do
  let heard ← node.exitListener.hear .exit now source byte
  afterExitByte { node with exitListener := heard.2 } now heard.1

/-- Handles a byte of the exit sequence, which has a meaning in System Configuration
only. -/
def hearExitByte (node : Node) (now : Nat) (source byte : UInt8) : Reaction Node :=
  if node.mode = .systemConfiguration then node.followExitByte now source byte else pure node

/-- Obeys a control frame of another node. A handshake frame without payload says
nothing. -/
def obey (node : Node) (now : Nat) (kind : ControlKind) (frame : Frame) : Reaction Node :=
  match kind, frame.payload.head? with
  | .sync, _ => node.hearSync now frame
  | .enterConfig, some byte => node.hearEnterByte now frame.id.source byte
  | .exitConfig, some byte => node.hearExitByte now frame.id.source byte
  | .enterConfig, none => pure node
  | .exitConfig, none => pure node

/-- The copy of a frame that the application gets before the frame is obeyed. -/
def delivery (node : Node) (frame : Frame) : List Notification :=
  let wanted := if frame.isControl then node.config.options.deliverControl else node.drains
  if wanted then [.message frame] else []

/-- Handles a frame from the bus. -/
def receive (node : Node) (now : Nat) (frame : Frame) : Reaction Node :=
  if frame.id.source = node.address then pure node
  else do
    Reaction.notify (node.delivery frame)
    match frame.id.control? with
    | none => pure node
    | some kind => node.obey now kind frame

end VehicleBus.Node
