import VehicleBus.Handshake.Sequence
import VehicleBus.Reaction

/-!
The sending side of a handshake that was asked for locally: one byte per PTU. A
pending enter sequence starts over every `resendInterval`; an exit sequence is
sent once.
-/
namespace VehicleBus.Handshake

structure Requester where
  pending : Bool := false
  /-- The number of bytes sent so far. -/
  position : Nat := 0
  /-- When the next byte may go out. -/
  nextByte : Nat := 0
  /-- When a pending enter sequence starts over. -/
  restart : Nat := 0
  deriving DecidableEq, Repr

namespace Requester

/-- Asks for the sequence, from its first byte and at once. -/
def request (requester : Requester) (now : Nat) : Reaction Requester := do
  let restart ← Reaction.after now resendInterval
  return { requester with pending := true, position := 0, nextByte := now, restart }

/-- Withdraws the request. -/
def cancel (requester : Requester) : Requester := { requester with pending := false, position := 0 }

/-- Whether every byte of a pending sequence went out. -/
def finished (requester : Requester) : Bool :=
  requester.pending && requester.position == Sequence.size

/-- Goes back to the first byte when an enter sequence is to start over. -/
def startOver (requester : Requester) (sequence : Sequence) (now : Nat) : Reaction Requester :=
  if sequence = .enter ∧ requester.restart ≤ now then do
    let restart ← Reaction.after now resendInterval
    return { requester with position := 0, restart }
  else pure requester

/-- The byte at the present position goes out. -/
def emit (requester : Requester) (now ptu : Nat) (byte : UInt8) :
    Reaction (Option UInt8 × Requester) := do
  let nextByte ← Reaction.after now ptu
  return (some byte, { requester with position := requester.position + 1, nextByte })

/-- The next byte if there is one and its time has come. -/
def emitDue (requester : Requester) (sequence : Sequence) (now ptu : Nat) :
    Reaction (Option UInt8 × Requester) :=
  match sequence.byte? requester.position with
  | none => pure (none, requester)
  | some byte =>
    if requester.nextByte ≤ now then requester.emit now ptu byte else pure (none, requester)

/-- The byte to transmit now, if one is due, and the requester after it. -/
def poll (requester : Requester) (sequence : Sequence) (now ptu : Nat) :
    Reaction (Option UInt8 × Requester) :=
  if requester.pending then do
    let requester ← requester.startOver sequence now
    requester.emitDue sequence now ptu
  else pure (none, requester)

end Requester

end VehicleBus.Handshake
