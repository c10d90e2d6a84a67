import VehicleBus.Identifier
import VehicleBus.Identifier.Family

/-!
The system management messages that drive the state of the network, and the
named classes of priority.
-/
namespace VehicleBus

/-- The messages of the system management family that a node obeys. -/
inductive ControlKind where
  | sync
  | enterConfig
  | exitConfig
  deriving DecidableEq, Repr

namespace ControlKind

/-- The value of the secondary field. -/
def code : ControlKind → UInt8
  | sync => 0x80
  | enterConfig => 0x81
  | exitConfig => 0x82

def all : List ControlKind := [sync, enterConfig, exitConfig]

/-- The message that a secondary field names. -/
def ofCode? (code : UInt8) : Option ControlKind := all.find? fun kind => kind.code == code

theorem ofCode?_code (kind : ControlKind) : ofCode? kind.code = some kind := by
  cases kind <;> rfl

/-- Reading a code accepts exactly the codes that are written. -/
theorem ofCode?_eq_some_iff (code : UInt8) (kind : ControlKind) :
    ofCode? code = some kind ↔ code = kind.code := by
  constructor
  · intro found
    have holds := List.find?_some found
    exact (eq_of_beq holds).symm
  · rintro rfl
    exact ofCode?_code kind

end ControlKind

/-- Hard, soft and non real-time classes of traffic. -/
inductive PriorityClass where
  | hrt0 | hrt1 | hrt2 | hrt3 | srt1 | srt2 | srt3 | nrt
  deriving DecidableEq, Repr

namespace Identifier

/-- The named class of the priority. -/
def priorityClass (id : Identifier) : PriorityClass :=
  match id.priority with
  | 0 => .hrt0
  | 1 => .hrt1
  | 2 => .hrt2
  | 3 => .hrt3
  | 4 => .srt1
  | 5 => .srt2
  | 6 => .srt3
  | 7 => .nrt

/-- The control message that the identifier announces, if it announces one. -/
def control? (id : Identifier) : Option ControlKind :=
  if id.milcan && id.primary == Family.systemManagement.code then
    ControlKind.ofCode? id.secondary
  else none

/-- The identifier of a control message: the most urgent priority and no request. -/
def ofControl (kind : ControlKind) (source : UInt8) : Identifier :=
  Fields.identifier
    { priority := 0
      milcan := true
      request := false
      primary := Family.systemManagement.code
      secondary := kind.code
      source }

end Identifier

end VehicleBus
