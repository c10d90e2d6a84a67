import VehicleBus.Hex
import VehicleBus.Identifier

/-!
The one-line text of an identifier: the word in hexadecimal, then its fields. A
frame that is not MILCAN has the same bits under the names of the other protocol.
-/
namespace VehicleBus.Identifier

/-- A byte as two digits behind its name. -/
def byteText (name : String) (byte : UInt8) : String := name ++ " " ++ Hex.text 2 byte.toNat

/-- The names of the request bit and of the two message fields, with their values. -/
def messageText (id : Identifier) : String :=
  if id.milcan then
    (if id.request then "REQ" else "---") ++ " " ++ byteText "PT" id.primary ++ " " ++
      byteText "ST" id.secondary
  else
    "DP " ++ (if id.request then "1" else "0") ++ " " ++ byteText "PF" id.primary ++ " " ++
      byteText "PS" id.secondary

def text (id : Identifier) : String :=
  Hex.text 8 id.raw ++ " (P " ++ toString id.priority.val ++ " " ++ id.messageText ++ " " ++
    byteText "SA" id.source ++ ")"

end VehicleBus.Identifier
