import VehicleBus.Proofs.Node.Duties

/-!
What becomes of the two handshakes in a step. A listener stays within the bytes of its sequence
whatever it hears, and a request is pursued to its end: its place stays within the sequence too,
and none comes up unless it is made. The listener of the exit sequence is under way in System
Configuration only.
-/
namespace VehicleBus

open Handshake

namespace Handshake

section Listener

variable {listener : Listener} (inside : listener.position < Sequence.size)
include inside

theorem Listener.position_advance_lt (now : Nat) (source : UInt8) :
    (listener.advance now source).2.position < Sequence.size := by
  unfold advance
  split
  · exact Nat.zero_lt_succ _
  · rename_i more
    show listener.position + 1 < Sequence.size
    omega

theorem Listener.position_judge_lt (sequence : Sequence) (gaveUp : Bool) (now : Nat)
    (source byte : UInt8) :
    (listener.judge sequence gaveUp now source byte).2.position < Sequence.size := by
  unfold judge
  split
  · exact position_advance_lt inside now source
  · split
    · unfold startOver
      split
      · exact (by decide : 1 < Sequence.size)
      · exact Nat.zero_lt_succ _
    · exact inside

/-- A listener stays within its sequence whatever it hears. -/
theorem Listener.position_hear_lt (sequence : Sequence) (now : Nat) (source byte : UInt8) :
    (listener.hear sequence now source byte).value.2.position < Sequence.size := by
  rw [hear, Reaction.value_bind]
  apply position_judge_lt
  split
  · exact Nat.zero_lt_succ _
  · exact inside

end Listener

/-- A request that is pursued: it comes to an end at most, and its place stays within the
sequence. -/
structure Requester.Pursues (requester after : Requester) : Prop where
  asked : after.pending = true → requester.pending = true
  within : requester.position ≤ Sequence.size → after.position ≤ Sequence.size

namespace Requester

theorem Pursues.refl (requester : Requester) : requester.Pursues requester := ⟨id, id⟩

theorem Pursues.trans {first between last : Requester} (start : first.Pursues between)
    (rest : between.Pursues last) : first.Pursues last :=
  ⟨start.asked ∘ rest.asked, rest.within ∘ start.within⟩

theorem pursues_cancel (requester : Requester) : requester.Pursues requester.cancel :=
  ⟨by rintro ⟨⟩, fun _ => Nat.zero_le _⟩

theorem position_startOver_le {requester : Requester} (within : requester.position ≤ Sequence.size)
    (sequence : Sequence) (now : Nat) :
    (requester.startOver sequence now).value.position ≤ Sequence.size := by
  unfold startOver
  split
  · exact Nat.zero_le _
  · exact within

theorem position_emitDue_le {requester : Requester} (within : requester.position ≤ Sequence.size)
    (sequence : Sequence) (now ptu : Nat) :
    (requester.emitDue sequence now ptu).value.2.position ≤ Sequence.size := by
  unfold emitDue
  split
  · exact within
  · rename_i byte next
    split
    · exact Sequence.lt_size_of_byte? next
    · exact within

theorem pursues_poll (requester : Requester) (sequence : Sequence) (now ptu : Nat) :
    requester.Pursues (requester.poll sequence now ptu).value.2 := by
  unfold poll
  split
  · rename_i pending
    constructor
    · exact fun _ => pending
    · intro within
      rw [Reaction.value_bind]
      exact position_emitDue_le (position_startOver_le within sequence now) sequence now ptu
  · exact .refl _

end Requester

end Handshake

namespace Node

/-- What a duty makes of the handshakes: requests are pursued, listeners stay within their
sequences, and none is under way for the exit sequence outside System Configuration. -/
structure Upholds (node after : Node) : Prop where
  entering : node.enterRequest.Pursues after.enterRequest
  leaving : node.exitRequest.Pursues after.exitRequest
  enterPlace : node.enterListener.position < Sequence.size →
    after.enterListener.position < Sequence.size
  exitPlace : node.exitListener.position < Sequence.size →
    after.exitListener.position < Sequence.size
  attentive : (node.mode ≠ .systemConfiguration → node.exitListener.position = 0) →
    after.mode ≠ .systemConfiguration → after.exitListener.position = 0

namespace Upholds

theorem refl (node : Node) : node.Upholds node := ⟨.refl _, .refl _, id, id, id⟩

theorem trans {first between last : Node} (start : first.Upholds between)
    (rest : between.Upholds last) : first.Upholds last where
  entering := start.entering.trans rest.entering
  leaving := start.leaving.trans rest.leaving
  enterPlace := rest.enterPlace ∘ start.enterPlace
  exitPlace := rest.exitPlace ∘ start.exitPlace
  attentive := rest.attentive ∘ start.attentive

end Upholds

section Duties

variable (node : Node) (now : Nat)

theorem upholds_enterPreOperational : node.Upholds (node.enterPreOperational now).value where
  entering := .refl _
  leaving := node.exitRequest.pursues_cancel
  enterPlace _ := Nat.zero_lt_succ _
  exitPlace _ := Nat.zero_lt_succ _
  attentive _ _ := rfl

theorem upholds_wake : node.Upholds (node.wake now).value := by
  unfold wake
  split
  · exact upholds_enterPreOperational node now
  · exact .refl node

theorem upholds_enterCompleted (source : UInt8) :
    node.Upholds (node.enterCompleted now source).value := by
  have served : node.Upholds
      (if source = node.address then { node with enterRequest := node.enterRequest.cancel }
        else node) := by
    split
    · exact { Upholds.refl node with entering := node.enterRequest.pursues_cancel }
    · exact .refl node
  apply served.trans
  unfold enterCompleted
  generalize (if source = node.address then _ else _ : Node) = after
  dsimp only
  split
  · exact ⟨.refl _, .refl _, id, id, id⟩
  · exact ⟨after.enterRequest.pursues_cancel, .refl _, id, fun _ => Nat.zero_lt_succ _,
      fun _ _ => rfl⟩

theorem upholds_hearEnterByte (source byte : UInt8) :
    node.Upholds (node.hearEnterByte now source byte).value := by
  have heard : node.Upholds { node with
      enterListener := (node.enterListener.hear .enter now source byte).value.2 } :=
    { Upholds.refl node with
      enterPlace := fun inside => Listener.position_hear_lt inside .enter now source byte }
  apply heard.trans
  rw [hearEnterByte, Reaction.value_bind, afterEnterByte]
  split
  · exact upholds_enterCompleted _ now source
  · exact .refl _

theorem upholds_hearExitByte (source byte : UInt8) :
    node.Upholds (node.hearExitByte now source byte).value := by
  unfold hearExitByte
  split
  · rename_i mode
    have heard : node.Upholds { node with
        exitListener := (node.exitListener.hear .exit now source byte).value.2 } :=
      { Upholds.refl node with
        exitPlace := fun inside => Listener.position_hear_lt inside .exit now source byte
        attentive := fun _ outside => absurd mode outside }
    apply heard.trans
    rw [followExitByte, Reaction.value_bind, afterExitByte]
    split
    · exact upholds_enterPreOperational _ now
    · exact .refl _
  · exact .refl node

theorem upholds_concludeExit : node.Upholds (node.concludeExit now).value := by
  unfold concludeExit
  split
  · have withdrawn : node.Upholds { node with exitRequest := node.exitRequest.cancel } :=
      { Upholds.refl node with leaving := node.exitRequest.pursues_cancel }
    apply withdrawn.trans
    dsimp only
    split
    · exact upholds_enterPreOperational _ now
    · exact .refl _
  · exact .refl node

theorem upholds_hearSync (frame : Frame) : node.Upholds (node.hearSync now frame).value := by
  obtain ⟨_, _, heard⟩ := value_hearSync node now frame
  rw [heard]
  exact ⟨.refl _, .refl _, id, id, id⟩

theorem upholds_receive (frame : Frame) : node.Upholds (node.receive now frame).value := by
  unfold receive
  split
  · exact .refl node
  · rw [Reaction.value_bind]
    cases frame.id.control? with
    | none => exact .refl node
    | some kind =>
      dsimp only
      unfold obey
      split
      · exact upholds_hearSync node now frame
      · exact upholds_hearEnterByte node now _ _
      · exact upholds_hearExitByte node now _ _
      · exact .refl node
      · exact .refl node

theorem upholds_runSync : node.Upholds (node.runSync now).value := by
  obtain ⟨_, _, beaten⟩ := value_runSync node now
  rw [beaten]
  exact ⟨.refl _, .refl _, id, id, id⟩

/-- The master is judged in PreOperational, where no exit sequence is under way. -/
theorem upholds_judgeMaster (mode : node.mode = .preOperational) :
    node.Upholds (node.judgeMaster now).value := by
  have outside : node.mode ≠ .systemConfiguration := by
    rw [mode]
    decide
  unfold judgeMaster
  split
  · rw [Reaction.value_bind, promoteUnless]
    split
    · exact ⟨.refl _, .refl _, id, id, id⟩
    · split
      · exact ⟨.refl _, .refl _, id, id, fun silent _ => silent outside⟩
      · exact .refl node
  · exact .refl node

theorem upholds_runEnterRequest : node.Upholds (node.runEnterRequest now).value := by
  rw [runEnterRequest, Reaction.value_bind]
  have pursued := node.enterRequest.pursues_poll .enter now node.timing.ptu
  generalize (node.enterRequest.poll .enter now node.timing.ptu).value = polled at pursued
  have moved : node.Upholds { node with enterRequest := polled.2 } :=
    { Upholds.refl node with entering := pursued }
  apply moved.trans
  cases polled.1 with
  | none => exact .refl _
  | some byte => exact upholds_hearEnterByte _ now _ byte

theorem upholds_runExitRequest : node.Upholds (node.runExitRequest now).value := by
  rw [runExitRequest, Reaction.value_bind]
  have pursued := node.exitRequest.pursues_poll .exit now node.timing.ptu
  generalize (node.exitRequest.poll .exit now node.timing.ptu).value = polled at pursued
  have moved : node.Upholds { node with exitRequest := polled.2 } :=
    { Upholds.refl node with leaving := pursued }
  apply moved.trans
  cases polled.1 with
  | none => exact .refl _
  | some byte =>
    exact (upholds_hearExitByte _ now _ byte).trans (upholds_concludeExit _ now)

end Duties

/-- Every step that fits its node and is no request upholds the handshakes. -/
theorem upholds_perform (node : Node) (step : Step) (fits : node.Fits step)
    (unasked : step.duty ≠ .requestEnter ∧ step.duty ≠ .requestExit) :
    node.Upholds (node.perform step).value := by
  obtain ⟨now, duty⟩ := step
  cases duty with
  | wake => exact upholds_wake node now
  | receive frame =>
    cases frame with
    | none => exact .refl node
    | some frame => exact upholds_receive node now frame
  | beat => exact upholds_runSync node now
  | judge => exact upholds_judgeMaster node now fits
  | abandon => exact upholds_enterPreOperational node now
  | sendEnterByte => exact upholds_runEnterRequest node now
  | sendExitByte => exact upholds_runExitRequest node now
  | requestEnter => exact absurd rfl unasked.1
  | requestExit => exact absurd rfl unasked.2

/-- A request to enter comes up where it is made, and nowhere else. -/
theorem enterRequest_idle_perform (node : Node) (step : Step) (fits : node.Fits step)
    (idle : node.enterRequest.pending = false) (unasked : step.duty ≠ .requestEnter) :
    (node.perform step).value.enterRequest.pending = false := by
  apply Bool.eq_false_iff.mpr
  intro pending
  by_cases leaving : step.duty = .requestExit
  · have same : (node.perform step).value.enterRequest = node.enterRequest := by
      rw [perform, leaving]
      dsimp only
      unfold requestExit
      split <;> rfl
    simp [same, idle] at pending
  · have asked := (upholds_perform node step fits ⟨unasked, leaving⟩).entering.asked pending
    simp [idle] at asked

end Node

end VehicleBus
