import VehicleBus.Frame
import VehicleBus.Identifier.Text

/-!
The one-line text of a frame: its identifier, the stored length in brackets and
the payload bytes.
-/
namespace VehicleBus.Frame

def text (frame : Frame) : String :=
  frame.id.text ++ " [" ++ toString frame.len ++ "]" ++
    String.join (frame.payload.map fun byte => " " ++ Hex.text 2 byte.toNat)

end VehicleBus.Frame
