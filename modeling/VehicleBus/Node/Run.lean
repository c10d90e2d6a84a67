import VehicleBus.Node.Timers

/-!
The inputs of a node and its run over a list of them. A tick advances the node to
an instant with at most one received frame; two requests come from the application.
Instants may come in any order.
-/
namespace VehicleBus.Node

/-- A node that is off comes up in PreOperational. -/
def wake (node : Node) (now : Nat) : Reaction Node :=
  if node.mode = .powerOff then node.enterPreOperational now else pure node

/-- Handles a frame if there is one. -/
def receive? (node : Node) (now : Nat) : Option Frame → Reaction Node
  | none => pure node
  | some frame => node.receive now frame

/-- Advances the node to an instant. -/
def tick (node : Node) (now : Nat) (frame : Option Frame) : Reaction Node := do
  let node ← node.wake now
  let node ← node.receive? now frame
  node.runTimers now

/-- Asks for System Configuration, in any mode. -/
def requestEnter (node : Node) (now : Nat) : Reaction Node := do
  let enterRequest ← node.enterRequest.request now
  return { node with enterRequest }

/-- Asks to leave System Configuration. Outside it there is nothing to leave. -/
def requestExit (node : Node) (now : Nat) : Reaction Node :=
  if node.mode = .systemConfiguration then do
    let exitRequest ← node.exitRequest.request now
    return { node with exitRequest }
  else pure node

/-- What can happen to a node. -/
inductive Input where
  | tick (now : Nat) (frame : Option Frame)
  | requestEnter (now : Nat)
  | requestExit (now : Nat)
  deriving DecidableEq, Repr

def react (node : Node) : Input → Reaction Node
  | .tick now frame => node.tick now frame
  | .requestEnter now => node.requestEnter now
  | .requestExit now => node.requestExit now

/-- The reactions to a list of inputs as one. -/
def run (node : Node) : List Input → Reaction Node
  | [] => pure node
  | input :: rest => do
    let node ← node.react input
    node.run rest

theorem run_append (node : Node) (first second : List Input) :
    node.run (first ++ second) = (node.run first >>= fun node => node.run second) := by
  induction first generalizing node with
  | nil => simp [run]
  | cons input rest ih => simp [run, ih]

end VehicleBus.Node
