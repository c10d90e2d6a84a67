import VehicleBus.Frame
import VehicleBus.Identifier.Lemmas

/-!
The control frames that a node builds are recognized as what they are: the identifier
gives back the kind of message and the sender.
-/
namespace VehicleBus

namespace Identifier

theorem fields_ofControl (kind : ControlKind) (source : UInt8) :
    (ofControl kind source).fields =
      { priority := 0
        milcan := true
        request := false
        primary := Family.systemManagement.code
        secondary := kind.code
        source } := fields_identifier _

@[simp] theorem source_ofControl (kind : ControlKind) (source : UInt8) :
    (ofControl kind source).source = source :=
  congrArg Fields.source (fields_ofControl kind source)

@[simp] theorem control?_ofControl (kind : ControlKind) (source : UInt8) :
    (ofControl kind source).control? = some kind := by
  have marked : (ofControl kind source).milcan = true :=
    congrArg Fields.milcan (fields_ofControl kind source)
  have family : (ofControl kind source).primary = Family.systemManagement.code :=
    congrArg Fields.primary (fields_ofControl kind source)
  have secondary : (ofControl kind source).secondary = kind.code :=
    congrArg Fields.secondary (fields_ofControl kind source)
  simp [control?, marked, family, secondary, ControlKind.ofCode?_code]

end Identifier

namespace Frame

@[simp] theorem id_sync (source : UInt8) (counter : Nat) :
    (sync source counter).id = .ofControl .sync source := rfl

@[simp] theorem id_single (id : Identifier) (byte : UInt8) : (single id byte).id = id := rfl

/-- A frame that announces a sync. -/
def IsSync (frame : Frame) : Prop := frame.id.control? = some .sync

instance (frame : Frame) : Decidable frame.IsSync := inferInstanceAs (Decidable (_ = _))

theorem isSync_sync (source : UInt8) (counter : Nat) : (sync source counter).IsSync :=
  Identifier.control?_ofControl .sync source

theorem not_isSync_single (kind : ControlKind) (source byte : UInt8) (other : kind ≠ .sync) :
    ¬ (single (.ofControl kind source) byte).IsSync := by
  simpa [IsSync] using other

end Frame

end VehicleBus
