import VehicleBus.Config
import VehicleBus.Handshake.Listener
import VehicleBus.Handshake.Requester
import VehicleBus.TimeBase

/-!
A node of the network: its operating mode, its view of the time base and both
sides of the two handshakes. This module holds the state and the transitions
between modes; what a node does with frames and as time passes builds on them.
-/
namespace VehicleBus

structure Node where
  config : Config
  mode : Mode
  timeBase : TimeBase
  /-- When the present mode ends by itself: in PreOperational by promotion once a
  master is held, in Operational by lack of syncs, in System Configuration by lack
  of a refresh. -/
  deadline : Option Nat
  enterListener : Handshake.Listener
  exitListener : Handshake.Listener
  enterRequest : Handshake.Requester
  exitRequest : Handshake.Requester
  deriving DecidableEq, Repr

/-- The station that a configuration describes. -/
def Config.station (config : Config) : Station where
  address := config.address
  candidate := config.options.syncMaster
  timing := config.timing

namespace Node

/-- How long System Configuration lasts without a refresh. -/
def configurationTimeout : Nat := 8 * Clock.second

/-- A node that is not switched on yet. Its first tick leads to PreOperational. -/
def start (config : Config) (now : Nat) : Reaction Node := do
  let timeBase ← TimeBase.start config.station now
  return {
    config
    mode := .initial
    timeBase
    deadline := none
    enterListener := {}
    exitListener := {}
    enterRequest := {}
    exitRequest := {} }

def address (node : Node) : UInt8 := node.config.address

def timing (node : Node) : Timing := node.config.timing

def station (node : Node) : Station := node.config.station

/-- What the node shows of its state. -/
def status (node : Node) : Status where
  mode := node.mode
  counter := node.timeBase.counter
  master := node.timeBase.master

/-- Whether application traffic may leave the transmit queue. -/
def drains (node : Node) : Bool := node.mode.carriesTraffic

/-- Whether the deadline of the mode has come. -/
def expired (node : Node) (now : Nat) : Bool :=
  node.deadline.any fun deadline => decide (deadline ≤ now)

/-- Moves the node to a mode, with a notification if that is a change. -/
def setMode (node : Node) (mode : Mode) : Reaction Node where
  value := { node with mode }
  events := if node.mode = mode then [] else [.modeChanged mode]

/-- Sets the deadline of the mode a span after now. -/
def setDeadline (node : Node) (now span : Nat) : Reaction Node := do
  let deadline ← Reaction.after now span
  return { node with deadline := some deadline }

/-- Opens the election again, without touching the mode. -/
def reopenElection (node : Node) (now : Nat) : Reaction Node := do
  let timeBase ← node.timeBase.reopen node.station now
  return { node with timeBase, deadline := none }

/-- Forgets both sequences under way and the request to leave System Configuration.
A request to enter it stays. -/
def clearHandshakes (node : Node) : Node :=
  { node with
    enterListener := node.enterListener.reset
    exitListener := node.exitListener.reset
    exitRequest := node.exitRequest.cancel }

/-- To PreOperational from any mode: the election opens again. -/
def enterPreOperational (node : Node) (now : Nat) : Reaction Node := do
  let node ← node.setMode .preOperational
  let node ← node.reopenElection now
  return node.clearHandshakes

/-- To Operational, watched from now on. -/
def enterOperational (node : Node) (now : Nat) : Reaction Node := do
  let node ← node.setMode .operational
  node.setDeadline now node.timing.watchdog

/-- To System Configuration. A request to enter it has been served. -/
def enterSystemConfiguration (node : Node) (now : Nat) : Reaction Node := do
  let node ← node.setMode .systemConfiguration
  let node ← node.setDeadline now configurationTimeout
  return { node with
    enterRequest := node.enterRequest.cancel
    exitListener := node.exitListener.reset }

/-- Transmits a control frame of the node's own. The application gets a copy if it
wants its own frames and control frames. -/
def transmitControl (node : Node) (frame : Frame) : Reaction Unit where
  value := ()
  transmit := [frame]
  events :=
    if node.config.options.echoOwn && node.config.options.deliverControl then [.message frame]
    else []

section Effects

variable (node : Node) (now : Nat)

@[simp] theorem address_station : node.station.address = node.address := rfl

@[simp] theorem timing_station : node.station.timing = node.timing := rfl

@[simp] theorem value_setMode (mode : Mode) : (node.setMode mode).value = { node with mode } := rfl

@[simp] theorem transmit_setMode (mode : Mode) : (node.setMode mode).transmit = [] := rfl

@[simp] theorem value_setDeadline (span : Nat) :
    (node.setDeadline now span).value = { node with deadline := some (now + span) } := rfl

@[simp] theorem transmit_setDeadline (span : Nat) :
    (node.setDeadline now span).transmit = [] := rfl

@[simp] theorem events_setDeadline (span : Nat) : (node.setDeadline now span).events = [] := rfl

@[simp] theorem value_reopenElection :
    (node.reopenElection now).value =
      { node with
        timeBase := (node.timeBase.reopen node.station now).value
        deadline := none } := rfl

@[simp] theorem transmit_reopenElection : (node.reopenElection now).transmit = [] := rfl

@[simp] theorem events_reopenElection :
    (node.reopenElection now).events = (node.timeBase.setMaster none).events := by
  simp [reopenElection]

end Effects

end Node

end VehicleBus
