import VehicleBus.Notification
import VehicleBus.Session.Bus
import VehicleBus.TransmitQueue.Entry

/-!
The journal of a session: what happened to the bus, the queues and the status, in
order. What a session did is read off its journal.
-/
namespace VehicleBus

/-- One thing that happened in a session. -/
inductive Occurrence where
  /-- An iteration of the runner began. -/
  | began (now : Nat)
  /-- The application handed over a frame, which waits from now on. -/
  | enqueued (entry : Entry)
  /-- The application took a notification out of the inbound queue. -/
  | taken (event : Notification)
  /-- The bus was asked for a frame. -/
  | polled (delivery : Option Bus.Delivery)
  /-- The status was shown to the application. -/
  | shown (status : Status)
  /-- A control frame was handed to the bus. -/
  | controlSent (frame : Frame) (answer : Bus.Answer)
  /-- A waiting frame was dropped because it had expired. -/
  | expired (entry : Entry)
  /-- A waiting frame was handed to the bus. -/
  | queuedSent (entry : Entry) (answer : Bus.Answer)
  /-- A notification was published; it was kept if there was room for it. -/
  | published (event : Notification) (kept : Bool)
  /-- The bus was closed. -/
  | closed
  deriving DecidableEq, Repr

namespace Occurrence

/-- The frame that was handed to the bus, with the answer. -/
def handed? : Occurrence → Option (Frame × Bus.Answer)
  | controlSent frame answer => some (frame, answer)
  | queuedSent entry answer => some (entry.frame, answer)
  | _ => none

/-- The frame that the bus accepted. -/
def accepted? (occurrence : Occurrence) : Option Frame :=
  occurrence.handed?.bind fun sent => if sent.2 = .accepted then some sent.1 else none

/-- Whether the occurrence shows that there may be more to do at once: a frame came
or went. -/
def isTraffic : Occurrence → Bool
  | polled (some (.frame _)) => true
  | controlSent .. => true
  | queuedSent .. => true
  | _ => false

end Occurrence

namespace Journal

/-- The frames that the bus accepted, in order. -/
def accepted (journal : List Occurrence) : List Frame := journal.filterMap Occurrence.accepted?

/-- How often a frame was handed to the bus. -/
def attempts (journal : List Occurrence) : Nat := (journal.filterMap Occurrence.handed?).length

/-- How often the bus was closed. -/
def closes (journal : List Occurrence) : Nat := journal.count .closed

end Journal

end VehicleBus
