import VehicleBus.Node.Run

/-!
Several nodes on one bus, in rounds. In a round every node that is live handles at
most one frame of its inbox and ticks; afterwards every frame transmitted in the
round is put into the inbox of every other live node, in the order of the nodes.
-/
namespace VehicleBus

/-- A node on the bus, with the time it spends there and the requests it will make. -/
structure Member where
  node : Node
  /-- The first instant at which the node is on the bus. -/
  start : Nat := 0
  /-- The first instant at which the node is off the bus again. -/
  stop : Option Nat := none
  /-- When the application will ask for System Configuration. -/
  enterAt : Option Nat := none
  /-- When the application will ask to leave System Configuration. -/
  exitAt : Option Nat := none
  inbox : List Frame := []
  deriving DecidableEq, Repr

namespace Member

def live (member : Member) (now : Nat) : Bool :=
  decide (member.start ≤ now) && member.stop.all fun stop => decide (now < stop)

/-- Whether something planned for an instant is to be done now. -/
def reached (plan : Option Nat) (now : Nat) : Bool :=
  plan.any fun planned => decide (planned ≤ now)

/-- Makes the request for System Configuration once its time has come. -/
def requestEnter (member : Member) (now : Nat) : Reaction Member :=
  if reached member.enterAt now then do
    let node ← member.node.requestEnter now
    return { member with node, enterAt := none }
  else pure member

/-- Makes the request to leave System Configuration once its time has come. -/
def requestExit (member : Member) (now : Nat) : Reaction Member :=
  if reached member.exitAt now then do
    let node ← member.node.requestExit now
    return { member with node, exitAt := none }
  else pure member

/-- Handles the oldest frame of the inbox, if there is one, and ticks. -/
def tick (member : Member) (now : Nat) : Reaction Member := do
  let node ← member.node.tick now member.inbox.head?
  return { member with node, inbox := member.inbox.tail }

/-- The part of a live node in a round. -/
def act (member : Member) (now : Nat) : Reaction Member := do
  let member ← member.requestEnter now
  let member ← member.requestExit now
  member.tick now

/-- The part of any node in a round. One that is not live has none. -/
def turn (member : Member) (now : Nat) : Reaction Member :=
  if member.live now then member.act now else pure member

/-- Puts frames into the inbox of a live node. -/
def deliver (member : Member) (now : Nat) (frames : List Frame) : Member :=
  if member.live now then { member with inbox := member.inbox ++ frames } else member

end Member

namespace Network

/-- What one node did in one round. -/
structure Activity where
  instant : Nat
  /-- The place of the node in the list of members. -/
  index : Nat
  outbox : Outbox
  deriving DecidableEq, Repr

/-- The outcome of rounds. -/
structure Trace where
  members : List Member
  /-- All rounds of nodes that transmitted or notified something, in order. -/
  log : List Activity
  /-- The latest instant that any node computed. -/
  horizon : Nat
  deriving DecidableEq, Repr

/-- Whether every instant of the rounds fits the clock. -/
def Trace.InRange (trace : Trace) : Prop := trace.horizon < Clock.limit

instance (trace : Trace) : Decidable trace.InRange := inferInstanceAs (Decidable (_ < _))

/-- The frames on the wire after the turns of a round, each with its sender. -/
def wire (turns : List (Reaction Member)) : List (Nat × Frame) :=
  turns.zipIdx.flatMap fun turn => turn.1.transmit.map fun frame => (turn.2, frame)

/-- The frames that reach a member: all but its own. -/
def reaching (frames : List (Nat × Frame)) (index : Nat) : List Frame :=
  (frames.filter fun sent => sent.1 != index).map Prod.snd

/-- The turns in which something was transmitted or notified. -/
def activities (turns : List (Reaction Member)) (now : Nat) : List Activity :=
  (turns.zipIdx.map fun turn => { instant := now, index := turn.2, outbox := turn.1.outbox }).filter
    fun activity => activity.outbox != {}

/-- One round at an instant. -/
def round (members : List Member) (now : Nat) : Trace :=
  let turns := members.map fun member => member.turn now
  let frames := wire turns
  { members := turns.zipIdx.map fun turn => turn.1.value.deliver now (reaching frames turn.2)
    log := activities turns now
    horizon := (turns.map Reaction.horizon).foldl max 0 }

/-- A number of rounds, the first one at the given instant and each a step after the
one before. -/
def rounds (members : List Member) (step now : Nat) : Nat → Trace
  | 0 => { members, log := [], horizon := 0 }
  | count + 1 =>
    let first := round members now
    let rest := rounds first.members step (now + step) count
    { members := rest.members
      log := first.log ++ rest.log
      horizon := max first.horizon rest.horizon }

/-- The rounds at zero, one step, two steps and so on, up to an instant. -/
def simulate (members : List Member) (step limit : Nat) : Trace :=
  rounds members step 0 (limit / step + 1)

/-- Rounds in two parts: the second part goes on where the first one ended. -/
theorem rounds_add (members : List Member) (step now first second : Nat) :
    (rounds members step now (first + second)).members =
      (rounds (rounds members step now first).members step (now + first * step)
        second).members := by
  induction first generalizing members now with
  | zero => simp [rounds]
  | succ first ih =>
    have later : now + step + first * step = now + (first + 1) * step := by
      rw [Nat.succ_mul]
      omega
    rw [Nat.succ_add]
    simp only [rounds, ih, later]

end Network

end VehicleBus
