import VehicleBus.Frame

/-!
The bus as a session meets it: asked for a frame it delivers one, has none or fails,
and handed a frame it accepts it or fails. What it is going to do is a script of
deliveries and a script of answers. A bus whose scripts have run out has no frames
and accepts everything.
-/
namespace VehicleBus.Bus

/-- A failure that the bus reports. -/
inductive Failure where
  /-- The frame is lost and the bus goes on. -/
  | recoverable (reason : String)
  /-- The bus is of no more use. -/
  | fatal (code : Nat)
  deriving DecidableEq, Repr

def Failure.message : Failure → String
  | .recoverable reason => "Recoverable transport error: " ++ reason
  | .fatal code => "Fatal transport error: " ++ toString code

/-- What comes of asking for a frame where the bus has something to say. -/
inductive Delivery where
  | frame (frame : Frame)
  | failure (failure : Failure)
  /-- The bus breaks down while it is asked. -/
  | crash
  deriving DecidableEq, Repr

/-- What comes of handing over a frame. -/
inductive Answer where
  | accepted
  | failure (failure : Failure)
  /-- The bus breaks down while it takes the frame. -/
  | crash
  deriving DecidableEq, Repr

/-- What the bus is going to do. -/
structure Script where
  deliveries : List Delivery := []
  answers : List Answer := []
  deriving DecidableEq, Repr

namespace Script

/-- The answer to the next frame that is handed over. -/
def nextAnswer (script : Script) : Answer := script.answers.head?.getD .accepted

def afterAnswer (script : Script) : Script := { script with answers := script.answers.tail }

/-- What comes of asking for a frame now; nothing, if the bus has none. -/
def nextDelivery (script : Script) : Option Delivery := script.deliveries.head?

def afterDelivery (script : Script) : Script := { script with deliveries := script.deliveries.tail }

end Script

end VehicleBus.Bus
