import VehicleBus.Frame

/-!
What a node tells its application: received frames and every change of its mode,
its sync counter and its sync master. An application that folds the notifications
over a status knows the node's status without asking.
-/
namespace VehicleBus

/-- The operating modes of a node. -/
inductive Mode where
  | powerOff
  | preOperational
  | operational
  | systemConfiguration
  deriving DecidableEq, Repr

namespace Mode

def number : Mode → Nat
  | powerOff => 0
  | preOperational => 1
  | operational => 2
  | systemConfiguration => 3

/-- The mode of a node that was never switched on. -/
def initial : Mode := .powerOff

def all : List Mode := [powerOff, preOperational, operational, systemConfiguration]

/-- Application traffic is exchanged in these modes only. -/
def carriesTraffic : Mode → Bool
  | operational | systemConfiguration => true
  | powerOff | preOperational => false

end Mode

/-- An entry of the application's inbound queue. -/
inductive Notification where
  /-- A frame from the bus, or a copy of one of the node's own. -/
  | message (frame : Frame)
  | modeChanged (mode : Mode)
  | syncUpdated (counter : Nat)
  /-- Another node, or none, is sync master now. -/
  | masterChanged (master : Option UInt8)
  deriving DecidableEq, Repr

/-- What a node shows of its protocol state. -/
structure Status where
  mode : Mode := .initial
  counter : Nat := 0
  master : Option UInt8 := none
  deriving DecidableEq, Repr

namespace Status

/-- The status after one notification. Messages leave it alone. -/
def note (status : Status) : Notification → Status
  | .message _ => status
  | .modeChanged mode => { status with mode }
  | .syncUpdated counter => { status with counter }
  | .masterChanged master => { status with master }

/-- The status after notifications, the oldest first. -/
def replay (status : Status) (events : List Notification) : Status := events.foldl note status

@[simp] theorem replay_nil (status : Status) : status.replay [] = status := rfl

@[simp] theorem replay_append (status : Status) (first second : List Notification) :
    status.replay (first ++ second) = (status.replay first).replay second :=
  List.foldl_append

end Status

end VehicleBus
