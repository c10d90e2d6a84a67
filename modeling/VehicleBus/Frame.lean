import VehicleBus.Identifier.Control

/-!
Frames of the bus: an identifier, eight bytes of data and the number of those
that count. The control frames of the network and the sync counter they carry
are built and read here; reading undoes building.
-/
namespace VehicleBus

/-- The most payload bytes that one frame can carry. -/
def maxPayload : Nat := 8

/-- Sync counters are ten bits wide and wrap. -/
def syncCounterModulo : Nat := 1024

/-- A frame as read from the bus or handed to it. The stored length is kept as
given; where it exceeds the data, the payload ends with the data. -/
structure Frame where
  id : Identifier
  data : Vector UInt8 8
  len : Nat
  deriving DecidableEq, Repr

namespace Frame

/-- A payload of more bytes than a frame can carry. -/
structure PayloadTooLong where
  len : Nat
  deriving DecidableEq, Repr

def PayloadTooLong.message (error : PayloadTooLong) : String :=
  "Payload too long: " ++ toString error.len ++ " bytes, maximum is 8"

/-- The data of a short payload: its bytes, then zeros. -/
def padded (bytes : List UInt8) : Vector UInt8 8 := Vector.ofFn fun i => bytes.getD i.val 0

/-- The frame that carries exactly the given bytes. -/
def ofPayload (id : Identifier) (bytes : List UInt8) : Except PayloadTooLong Frame :=
  if maxPayload < bytes.length then .error ⟨bytes.length⟩
  else .ok { id, data := padded bytes, len := bytes.length }

/-- The bytes that count. -/
def payload (frame : Frame) : List UInt8 := frame.data.toList.take frame.len

/-- Whether the frame belongs to the messages that drive the network. -/
def isControl (frame : Frame) : Bool := frame.id.control?.isSome

/-- The ten-bit counter of a sync frame, its low byte first. A payload of less
than two bytes holds none. -/
def syncCounter? (frame : Frame) : Option Nat :=
  match frame.payload with
  | low :: high :: _ => some (high.toNat % 4 * 256 + low.toNat)
  | _ => none

/-- The sync frame of a sender. -/
def sync (source : UInt8) (counter : Nat) : Frame where
  id := .ofControl .sync source
  data := padded [UInt8.ofNat (counter % 256), UInt8.ofNat (counter / 256 % 4)]
  len := 2

/-- A frame of one byte. -/
def single (id : Identifier) (byte : UInt8) : Frame where
  id
  data := padded [byte]
  len := 1

/-- One byte of the sequence that asks for System Configuration. -/
def enterConfig (source byte : UInt8) : Frame := single (.ofControl .enterConfig source) byte

/-- One byte of the sequence that ends System Configuration. -/
def exitConfig (source byte : UInt8) : Frame := single (.ofControl .exitConfig source) byte

theorem length_payload (frame : Frame) : frame.payload.length = min frame.len 8 := by
  simp [payload]

/-- What a frame was built from is its payload. -/
theorem payload_ofPayload (id : Identifier) (bytes : List UInt8) (frame : Frame)
    (built : ofPayload id bytes = .ok frame) : frame.payload = bytes := by
  unfold ofPayload at built
  split at built
  · cases built
  · rename_i fits
    cases built
    apply List.ext_getElem
    · simp only [length_payload]
      unfold maxPayload at fits
      omega
    · intro i _ inside
      simp [payload, padded, List.getD_eq_getElem?_getD, inside]

@[simp] theorem payload_single (id : Identifier) (byte : UInt8) :
    (single id byte).payload = [byte] := rfl

@[simp] theorem payload_sync (source : UInt8) (counter : Nat) :
    (sync source counter).payload =
      [UInt8.ofNat (counter % 256), UInt8.ofNat (counter / 256 % 4)] := rfl

/-- A sync frame reads back as the counter it was built from, modulo ten bits. -/
theorem syncCounter?_sync (source : UInt8) (counter : Nat) :
    (sync source counter).syncCounter? = some (counter % syncCounterModulo) := by
  simp only [syncCounter?, payload_sync, syncCounterModulo, UInt8.toNat_ofNat', Option.some.injEq]
  omega

/-- A counter read from any frame fits ten bits. -/
theorem syncCounter?_lt (frame : Frame) (counter : Nat)
    (carried : frame.syncCounter? = some counter) : counter < syncCounterModulo := by
  unfold syncCounter? at carried
  split at carried
  · rename_i low high _ _
    cases carried
    have small := low.toNat_lt
    unfold syncCounterModulo
    omega
  · cases carried

end Frame

end VehicleBus
