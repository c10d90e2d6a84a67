import VehicleBus.Proofs.Frame.Kinds
import VehicleBus.Proofs.Node.Stages

/-!
What a tick transmits, and from which duty. Waking up and reception transmit nothing,
the handshakes transmit their own bytes, and a sync goes out only where the time base
calls for one.
-/
namespace VehicleBus.Node

section Silence

variable (node : Node) (now : Nat)

@[simp] theorem transmit_wake : (node.wake now).transmit = [] := by
  unfold wake
  split <;> rfl

@[simp] theorem transmit_hearEnterByte (source byte : UInt8) :
    (node.hearEnterByte now source byte).transmit = [] := by
  have quiet := node.enterListener.hear_quiet .enter now source byte
  simp only [hearEnterByte, Reaction.transmit_bind, quiet.unsent, List.nil_append, afterEnterByte,
    enterCompleted]
  split
  · split
    · split <;> rfl
    · split <;> rfl
  · rfl

@[simp] theorem transmit_hearExitByte (source byte : UInt8) :
    (node.hearExitByte now source byte).transmit = [] := by
  have quiet := node.exitListener.hear_quiet .exit now source byte
  unfold hearExitByte
  split
  · simp only [followExitByte, Reaction.transmit_bind, quiet.unsent, List.nil_append,
      afterExitByte]
    split <;> rfl
  · rfl

@[simp] theorem transmit_followSync (source : UInt8) (counter : Nat) :
    (node.followSync now source counter).transmit = [] := by
  unfold followSync
  split
  · rename_i accepted
    rw [TimeBase.hear, if_pos accepted]
    simp [(syncSeen_quiet _ now).unsent]
  · rfl

@[simp] theorem transmit_hearSync (frame : Frame) : (node.hearSync now frame).transmit = [] := by
  unfold hearSync
  split
  · rfl
  · split
    · rfl
    · exact transmit_followSync node now _ _

theorem transmit_obey (kind : ControlKind) (frame : Frame) :
    (node.obey now kind frame).transmit = [] := by
  unfold obey
  split <;> simp

@[simp] theorem transmit_receive (frame : Frame) : (node.receive now frame).transmit = [] := by
  unfold receive
  split
  · rfl
  · cases frame.id.control? with
    | none => rfl
    | some kind => exact transmit_obey node now kind frame

@[simp] theorem transmit_receive? (frame : Option Frame) :
    (node.receive? now frame).transmit = [] := by
  cases frame with
  | none => rfl
  | some frame => exact transmit_receive node now frame

@[simp] theorem transmit_concludeExit : (node.concludeExit now).transmit = [] := by
  unfold concludeExit
  split
  · dsimp only
    split <;> rfl
  · rfl

@[simp] theorem transmit_judgeMaster : (node.judgeMaster now).transmit = [] := by
  have quiet := node.timeBase.lost_quiet node.station now
  unfold judgeMaster promoteUnless
  split
  · rw [Reaction.transmit_bind, quiet.unsent, List.nil_append]
    split
    · rfl
    · split <;> rfl
  · rfl

/-- All that a tick transmits is transmitted by its timers. -/
theorem transmit_tick (frame : Option Frame) :
    (node.tick now frame).transmit =
      (((node.wake now).value.receive? now frame).value.runTimers now).transmit := by
  simp [tick]

end Silence

section Duties

variable (node : Node) (now : Nat) (frame : Frame)

/-- The enter request sends one byte at most, which is heard like any other. -/
theorem runEnterRequest_cases :
    (∃ enterRequest, (node.runEnterRequest now).transmit = [] ∧
      (node.runEnterRequest now).value = { node with enterRequest }) ∨
    ∃ byte enterRequest,
      (node.runEnterRequest now).transmit = [Frame.enterConfig node.address byte] ∧
      (node.runEnterRequest now).value =
        (hearEnterByte { node with enterRequest } now node.address byte).value := by
  have quiet := node.enterRequest.poll_quiet .enter now node.timing.ptu
  rw [runEnterRequest, Reaction.transmit_bind, Reaction.value_bind, quiet.unsent, List.nil_append]
  rcases (node.enterRequest.poll .enter now node.timing.ptu).value with ⟨none | byte, requester⟩
  · exact .inl ⟨requester, rfl, rfl⟩
  · refine .inr ⟨byte, requester, ?_, rfl⟩
    rw [sendEnterByte, Reaction.transmit_bind, transmit_hearEnterByte]
    rfl

/-- The exit request sends one byte at most, which is heard before the end of the sequence
is drawn. -/
theorem runExitRequest_cases :
    (∃ exitRequest,
      (node.exitRequest.poll .exit now node.timing.ptu).value = (none, exitRequest) ∧
      (node.runExitRequest now).transmit = [] ∧
      (node.runExitRequest now).value = { node with exitRequest }) ∨
    ∃ byte exitRequest,
      (node.exitRequest.poll .exit now node.timing.ptu).value = (some byte, exitRequest) ∧
      (node.runExitRequest now).transmit = [Frame.exitConfig node.address byte] ∧
      (node.runExitRequest now).value =
        ((hearExitByte { node with exitRequest } now node.address byte).value.concludeExit
          now).value := by
  have quiet := node.exitRequest.poll_quiet .exit now node.timing.ptu
  rw [runExitRequest, Reaction.transmit_bind, Reaction.value_bind, quiet.unsent, List.nil_append]
  rcases (node.exitRequest.poll .exit now node.timing.ptu).value with ⟨none | byte, requester⟩
  · exact .inl ⟨requester, rfl, rfl, rfl⟩
  · refine .inr ⟨byte, requester, rfl, ?_, rfl⟩
    rw [sendExitByte, Reaction.transmit_bind, Reaction.transmit_bind, transmit_hearExitByte,
      transmit_concludeExit]
    rfl

/-- The enter request sends nothing but a byte of its sequence. -/
theorem not_isSync_of_runEnterRequest (sent : frame ∈ (node.runEnterRequest now).transmit) :
    ¬ frame.IsSync := by
  obtain ⟨_, none, -⟩ | ⟨byte, _, one, -⟩ := runEnterRequest_cases node now
  · rw [none] at sent
    cases sent
  · rw [one, List.mem_singleton] at sent
    rw [sent]
    exact Frame.not_isSync_single .enterConfig node.address byte (by decide)

/-- The exit request sends nothing but a byte of its sequence. -/
theorem not_isSync_of_runExitRequest (sent : frame ∈ (node.runExitRequest now).transmit) :
    ¬ frame.IsSync := by
  obtain ⟨_, -, none, -⟩ | ⟨byte, _, -, one, -⟩ := runExitRequest_cases node now
  · rw [none] at sent
    cases sent
  · rw [one, List.mem_singleton] at sent
    rw [sent]
    exact Frame.not_isSync_single .exitConfig node.address byte (by decide)

/-- Syncs are sent by the time base alone, and only when one is due at the start of the
timers. -/
theorem isDue_of_runTimers (sent : frame ∈ (node.runTimers now).transmit) (sync : frame.IsSync) :
    (node.timeBase.isDue node.station now).value = true := by
  cases due : (node.timeBase.isDue node.station now).value with
  | true => rfl
  | false =>
    exfalso
    obtain ⟨quiet, same⟩ := runSync_of_not_due node now due
    unfold runTimers at sent
    split at sent
    · cases sent
    · rw [runPreOperational, Reaction.transmit_bind, Reaction.transmit_bind, quiet.unsent, same,
        transmit_judgeMaster, List.nil_append, List.nil_append] at sent
      exact not_isSync_of_runEnterRequest _ now frame sent sync
    · rw [runOperational, Reaction.transmit_bind, quiet.unsent, same, List.nil_append,
        watchSyncs] at sent
      split at sent
      · cases sent
      · exact not_isSync_of_runEnterRequest node now frame sent sync
    · unfold runSystemConfiguration at sent
      split at sent
      · cases sent
      · rw [runRequests, Reaction.transmit_bind, List.mem_append] at sent
        cases sent with
        | inl entering => exact not_isSync_of_runEnterRequest node now frame entering sync
        | inr leaving => exact not_isSync_of_runExitRequest _ now frame leaving sync

end Duties

end VehicleBus.Node
