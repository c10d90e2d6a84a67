import VehicleBus.Identifier

/-!
Building an identifier for a message of one's own. Two fields can be refused: a
priority that does not fit its three bits, and the source address zero, which
names no node. The priority is judged first.
-/
namespace VehicleBus.Identifier

/-- Why no identifier can be built. -/
inductive BuildError where
  | invalidPriority (priority : UInt8)
  | reservedSource
  deriving DecidableEq, Repr

def BuildError.message : BuildError → String
  | .invalidPriority priority =>
    "Invalid priority " ++ toString priority.toNat ++ ": expected 0..=7"
  | .reservedSource => "Source address 0 is reserved"

/-- The lowest priority, which application traffic has unless it asks for another. -/
def defaultPriority : UInt8 := 7

/-- The wishes for an identifier, not yet judged. -/
structure Draft where
  primary : UInt8
  secondary : UInt8
  source : UInt8
  priority : UInt8 := defaultPriority
  request : Bool := false
  deriving DecidableEq, Repr

/-- The identifier of the draft, marked as a MILCAN identifier. -/
def Draft.build (draft : Draft) : Except BuildError Identifier :=
  if fits : draft.priority.toNat < 8 then
    if draft.source = 0 then .error .reservedSource
    else
      .ok <| Fields.identifier
        { priority := ⟨draft.priority.toNat, fits⟩
          milcan := true
          request := draft.request
          primary := draft.primary
          secondary := draft.secondary
          source := draft.source }
  else .error (.invalidPriority draft.priority)

end VehicleBus.Identifier
