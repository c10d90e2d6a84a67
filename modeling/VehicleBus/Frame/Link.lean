import VehicleBus.Frame

/-!
Frames as the link layer below sees them. The link knows two kinds of identifier
and frames that ask for data instead of carrying it; this network has data frames
with extended identifiers only.
-/
namespace VehicleBus

/-- An identifier of the link layer. -/
inductive LinkId where
  | standard (value : Fin 0x800)
  | extended (value : Fin 0x20000000)
  deriving DecidableEq, Repr

namespace LinkId

/-- The eleven-bit identifier of a value that fits. -/
def standard? (value : Nat) : Option LinkId :=
  if fits : value < 0x800 then some (.standard ⟨value, fits⟩) else none

/-- The identifier of 29 bits of a value that fits. -/
def extended? (value : Nat) : Option LinkId :=
  if fits : value < 0x20000000 then some (.extended ⟨value, fits⟩) else none

end LinkId

namespace Frame

/-- A data frame of the link. Standard identifiers and long payloads are refused. -/
def ofLink? : LinkId → List UInt8 → Option Frame
  | .standard _, _ => none
  | .extended value, bytes => (ofPayload ⟨UInt32.ofNat value.val⟩ bytes).toOption

/-- A frame that asks for data. The network has none. -/
def remote? (_ : LinkId) (_ : Nat) : Option Frame := none

/-- The link identifier: the part of the word that travels. -/
def linkId (frame : Frame) : LinkId := .extended ⟨frame.id.raw, frame.id.raw_lt⟩

def isExtended (frame : Frame) : Bool := frame.linkId matches .extended _

def isStandard (frame : Frame) : Bool := !frame.isExtended

def isRemote (_ : Frame) : Bool := false

def isData (frame : Frame) : Bool := !frame.isRemote

/-- The length that the link announces. -/
def dataLength (frame : Frame) : Nat := frame.payload.length

end Frame

end VehicleBus
