import VehicleBus.Clock
import VehicleBus.Frame

/-!
Frames on their way out. A frame may have a lifetime; once it waits for the bus the
lifetime is a deadline, and the frame is live strictly before it.
-/
namespace VehicleBus

/-- A frame to transmit, with the span after which it is not worth sending. -/
structure Outgoing where
  frame : Frame
  lifetime : Option Nat := none
  deriving DecidableEq, Repr

/-- The frame with a lifetime, which replaces any earlier one. -/
def Outgoing.mortal (outgoing : Outgoing) (lifetime : Nat) : Outgoing :=
  { outgoing with lifetime := some lifetime }

/-- A waiting frame and the instant at which it expires, if it ever does. -/
structure Entry where
  frame : Frame
  deadline : Option Nat
  deriving DecidableEq, Repr

namespace Entry

/-- The deadline of a lifetime that begins now. An end outside the clock never
comes. -/
def deadlineOf (lifetime : Option Nat) (now : Nat) : Option Nat :=
  (lifetime.map (now + ·)).filter fun deadline => decide (deadline < Clock.limit)

/-- The entry of a frame that begins to wait now. Its identifier loses the bits that
do not travel. -/
def ofOutgoing (outgoing : Outgoing) (now : Nat) : Entry where
  frame := { outgoing.frame with id := outgoing.frame.id.masked }
  deadline := deadlineOf outgoing.lifetime now

/-- Whether the frame is still worth sending. -/
def live (entry : Entry) (now : Nat) : Bool :=
  entry.deadline.all fun deadline => decide (now < deadline)

theorem live_iff (entry : Entry) (now : Nat) :
    entry.live now = true ↔ ∀ deadline ∈ entry.deadline, now < deadline := by
  cases deadline : entry.deadline <;> simp [live, deadline]

/-- The order in which frames of one priority leave. -/
def key (entry : Entry) : Nat := entry.frame.id.word.toNat

/-- Puts an entry behind all entries with a smaller or equal key, in a list ordered
by key. -/
def insert (entry : Entry) : List Entry → List Entry
  | [] => [entry]
  | head :: tail =>
    if head.key ≤ entry.key then head :: insert entry tail else entry :: head :: tail

theorem insert_perm (entry : Entry) (entries : List Entry) :
    (insert entry entries).Perm (entry :: entries) := by
  induction entries with
  | nil => exact .refl _
  | cons head tail ih =>
    unfold insert
    split
    · exact (List.Perm.cons head ih).trans (.swap entry head tail)
    · exact .refl _

/-- Insertion keeps a list ordered by key. -/
theorem insert_pairwise (entry : Entry) (entries : List Entry)
    (ordered : entries.Pairwise fun a b => a.key ≤ b.key) :
    (insert entry entries).Pairwise fun a b => a.key ≤ b.key := by
  induction entries with
  | nil => simp [insert]
  | cons head tail ih =>
    obtain ⟨first, rest⟩ := List.pairwise_cons.mp ordered
    unfold insert
    split
    · rename_i before
      refine List.pairwise_cons.mpr ⟨fun other member => ?_, ih rest⟩
      rcases List.mem_cons.mp ((insert_perm entry tail).mem_iff.mp member) with rfl | present
      · exact before
      · exact first other present
    · rename_i behind
      refine List.pairwise_cons.mpr ⟨fun other member => ?_, ordered⟩
      rcases List.mem_cons.mp member with rfl | present
      · omega
      · have later := first other present
        omega

end Entry

end VehicleBus
