import VehicleBus.Handshake.Listener
import VehicleBus.Handshake.Requester

/-!
A request at its pace and the listener that waits for its bytes. As long as the sequence is
not to start over, a byte goes out when its instant has come and nothing does before; the
listener that is as far accepts it as long as the gap is not too long.
-/
namespace VehicleBus.Handshake

namespace Requester

variable {requester : Requester} {sequence : Sequence} {now ptu : Nat}
  (pending : requester.pending = true) (running : now < requester.restart)
include pending running

theorem poll_eq_emitDue :
    requester.poll sequence now ptu = requester.emitDue sequence now ptu := by
  have still : ¬ (sequence = .enter ∧ requester.restart ≤ now) := by
    rintro ⟨-, ended⟩
    omega
  rw [poll, if_pos pending, startOver, if_neg still, pure_bind]

/-- The byte at the present position goes out once its instant has come. -/
theorem poll_of_due {byte : UInt8} (next : sequence.byte? requester.position = some byte)
    (due : requester.nextByte ≤ now) :
    (requester.poll sequence now ptu).value =
      (some byte,
        { requester with position := requester.position + 1, nextByte := now + ptu }) := by
  rw [poll_eq_emitDue pending running, emitDue, next]
  dsimp only
  rw [if_pos due]
  rfl

/-- Before that instant nothing goes out. -/
theorem poll_of_early (early : now < requester.nextByte) :
    (requester.poll sequence now ptu).value = (none, requester) := by
  rw [poll_eq_emitDue pending running, emitDue]
  split
  · rfl
  · rw [if_neg (by omega)]
    rfl

end Requester

namespace Listener

/-- The listener has not given up on a source by an instant. -/
def Awaits (listener : Listener) (source : UInt8) (now : Nat) : Prop :=
  listener.position ≠ 0 → listener.source = source ∧ now ≤ listener.lastByte + maxGap

/-- The byte that comes next in the sequence advances the listener. -/
theorem hear_of_next {listener : Listener} {sequence : Sequence} {now : Nat} {source byte : UInt8}
    (awaits : listener.Awaits source now)
    (next : sequence.byte? listener.position = some byte) :
    (listener.hear sequence now source byte).value = listener.advance now source := by
  have going : (listener.stalled now source).value = false := by
    unfold stalled
    split
    · rfl
    · rename_i busy
      obtain ⟨same, inTime⟩ := awaits busy
      rw [if_pos same.symm]
      exact decide_eq_false (Nat.not_lt.mpr inTime)
  show ((if (listener.stalled now source).value then listener.reset else listener).judge sequence
    (listener.stalled now source).value now source byte) = _
  rw [going, if_neg Bool.false_ne_true, judge, if_pos next]

/-- The listener that heard the first letters of a source, each at its instant. -/
def along (source : UInt8) (instants : Nat → Nat) : Nat → Listener
  | 0 => {}
  | letters + 1 => { position := letters + 1, source, lastByte := instants letters }

section Along

variable {source byte : UInt8} {instants : Nat → Nat} {letters : Nat}
  (paced : ∀ letter, instants (letter + 1) ≤ instants letter + maxGap)
  (next : Sequence.enter.byte? letters = some byte)
include paced next

/-- A letter that comes in time is the next one of the sequence. -/
theorem hear_along :
    ((along source instants letters).hear .enter (instants letters) source byte).value =
      (along source instants letters).advance (instants letters) source := by
  cases letters with
  | zero => exact hear_of_next (fun busy => absurd rfl busy) next
  | succ letter => exact hear_of_next (fun _ => ⟨rfl, paced letter⟩) next

theorem hear_along_of_more (more : letters + 1 < Sequence.size) :
    ((along source instants letters).hear .enter (instants letters) source byte).value =
      (.progress, along source instants (letters + 1)) := by
  have position : (along source instants letters).position = letters := by
    cases letters <;> rfl
  rw [hear_along paced next, advance, position, if_neg (Nat.ne_of_lt more)]
  rfl

theorem hear_along_of_last (last : letters + 1 = Sequence.size) :
    ((along source instants letters).hear .enter (instants letters) source byte).value.1 =
      .complete := by
  have position : (along source instants letters).position = letters := by
    cases letters <;> rfl
  rw [hear_along paced next, advance, position, if_pos last]

end Along

end Listener

end VehicleBus.Handshake
