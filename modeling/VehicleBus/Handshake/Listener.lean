import VehicleBus.Handshake.Sequence
import VehicleBus.Reaction

/-!
The receiving side of a handshake. A listener accepts the three bytes of its
sequence from one source with no gap above `maxGap`; whatever breaks the sequence
may be the first byte of the next one.
-/
namespace VehicleBus.Handshake

/-- What became of a byte. -/
inductive Verdict where
  /-- No sequence was under way and the byte starts none. -/
  | ignored
  /-- The byte was the expected one and more are to come. -/
  | progress
  /-- A sequence under way was given up. -/
  | restarted
  /-- The byte was the last one of its sequence. -/
  | complete
  deriving DecidableEq, Repr

/-- How far a sequence has come, and who sent its latest byte when. -/
structure Listener where
  /-- The number of bytes accepted so far. -/
  position : Nat := 0
  source : UInt8 := 0
  lastByte : Nat := 0
  deriving DecidableEq, Repr

namespace Listener

/-- Forgets the sequence under way. -/
def reset (listener : Listener) : Listener := { listener with position := 0 }

/-- Whether the sequence under way cannot go on with a byte of this source now. -/
def stalled (listener : Listener) (now : Nat) (source : UInt8) : Reaction Bool :=
  if listener.position = 0 then pure false
  else if source = listener.source then do
    let latest ← Reaction.after listener.lastByte maxGap
    return decide (latest < now)
  else pure true

/-- The listener after a byte accepted as number `position` of its sequence. -/
def accept (listener : Listener) (now : Nat) (source : UInt8) (position : Nat) : Listener :=
  { listener with position, source, lastByte := now }

/-- The expected byte came. -/
def advance (listener : Listener) (now : Nat) (source : UInt8) : Verdict × Listener :=
  if listener.position + 1 = Sequence.size then (.complete, listener.accept now source 0)
  else (.progress, listener.accept now source (listener.position + 1))

/-- Another byte than the expected one came in the middle of a sequence. -/
def startOver (listener : Listener) (sequence : Sequence) (now : Nat) (source byte : UInt8) :
    Verdict × Listener :=
  if sequence.byte? 0 = some byte then (.restarted, listener.accept now source 1)
  else (.restarted, listener.reset)

/-- Judges a byte, where `gaveUp` says that a stalled sequence was just given up. -/
def judge (listener : Listener) (sequence : Sequence) (gaveUp : Bool) (now : Nat)
    (source byte : UInt8) : Verdict × Listener :=
  if sequence.byte? listener.position = some byte then listener.advance now source
  else if 0 < listener.position then listener.startOver sequence now source byte
  else (if gaveUp then .restarted else .ignored, listener)

/-- The verdict on a byte of a source, and the listener after it. -/
def hear (listener : Listener) (sequence : Sequence) (now : Nat) (source byte : UInt8) :
    Reaction (Verdict × Listener) := do
  let stalled ← listener.stalled now source
  return (if stalled then listener.reset else listener).judge sequence stalled now source byte

end Listener

end VehicleBus.Handshake
