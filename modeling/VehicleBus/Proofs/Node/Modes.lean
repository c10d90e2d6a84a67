import VehicleBus.Proofs.Node.Emissions

/-!
The modes that a node announces, handler by handler. The election and the messages
announce none; a mode is announced where it is entered, and only if that is a change.
-/
namespace VehicleBus

/-- The modes that notifications announce, in order. -/
def modes : List Notification → List Mode :=
  List.filterMap fun
    | .modeChanged mode => some mode
    | _ => none

@[simp] theorem modes_nil : modes [] = [] := rfl

@[simp] theorem modes_append (first second : List Notification) :
    modes (first ++ second) = modes first ++ modes second :=
  List.filterMap_append

theorem mem_modes_iff (mode : Mode) (events : List Notification) :
    mode ∈ modes events ↔ .modeChanged mode ∈ events := by
  rw [modes, List.mem_filterMap]
  constructor
  · rintro ⟨event, told, announced⟩
    cases event with
    | modeChanged other =>
      cases announced
      exact told
    | _ => cases announced
  · intro told
    exact ⟨_, told, rfl⟩

theorem count_modes (mode : Mode) (events : List Notification) :
    (modes events).count mode = events.count (.modeChanged mode) := by
  induction events with
  | nil => rfl
  | cons event rest ih =>
    cases event with
    | modeChanged other =>
      show (other :: modes rest).count mode = _
      simp [List.count_cons, ih]
    | _ =>
      show (modes rest).count mode = _
      simp [ih]

namespace TimeBase

variable (base : TimeBase) (station : Station) (now : Nat)

@[simp] theorem modes_setMaster (master : Option UInt8) :
    modes (base.setMaster master).events = [] := by
  unfold setMaster
  split <;> rfl

@[simp] theorem modes_setCounter (counter : Nat) :
    modes (base.setCounter counter).events = [] := by
  unfold setCounter
  split <;> rfl

@[simp] theorem modes_follow (source : UInt8) (counter : Nat) :
    modes (base.follow station now source counter).events = [] := by
  simp [follow]

@[simp] theorem modes_beat : modes (base.beat station now).events = [] := by
  simp [beat]

end TimeBase

namespace Node

section Transitions

variable (node : Node) (now : Nat)

@[simp] theorem modes_setMode (mode : Mode) :
    modes (node.setMode mode).events = if node.mode = mode then [] else [mode] := by
  unfold setMode
  split <;> rfl

@[simp] theorem modes_enterPreOperational :
    modes (node.enterPreOperational now).events =
      if node.mode = .preOperational then [] else [.preOperational] := by
  simp [enterPreOperational]

@[simp] theorem modes_enterOperational :
    modes (node.enterOperational now).events =
      if node.mode = .operational then [] else [.operational] := by
  simp [enterOperational]

@[simp] theorem modes_enterSystemConfiguration :
    modes (node.enterSystemConfiguration now).events =
      if node.mode = .systemConfiguration then [] else [.systemConfiguration] := by
  simp [enterSystemConfiguration]

theorem modes_wake :
    modes (node.wake now).events = if node.mode = .powerOff then [.preOperational] else [] := by
  unfold wake
  split
  · rename_i off
    simp [off]
  · rfl

end Transitions

section Handlers

variable (node : Node) (now : Nat)

@[simp] theorem modes_delivery (frame : Frame) : modes (node.delivery frame) = [] := by
  unfold delivery
  dsimp only
  split <;> split <;> rfl

@[simp] theorem modes_transmitControl (frame : Frame) :
    modes (node.transmitControl frame).events = [] := by
  unfold transmitControl
  dsimp only
  split <;> rfl

@[simp] theorem modes_hearSync (frame : Frame) : modes (node.hearSync now frame).events = [] := by
  unfold hearSync
  split
  · rfl
  · split
    · rfl
    · unfold followSync
      split
      · rename_i accepted
        rw [TimeBase.hear, if_pos accepted]
        simp [(syncSeen_quiet _ now).untold]
      · rfl

@[simp] theorem modes_runSync : modes (node.runSync now).events = [] := by
  cases due : (node.timeBase.isDue node.station now).value with
  | false => rw [(runSync_of_not_due node now due).1.untold, modes_nil]
  | true =>
    rw [(runSync_of_due node now due).2.1, modes_append, TimeBase.modes_beat,
      modes_transmitControl, List.append_nil]

/-- A complete sequence announces System Configuration outside of it. -/
theorem modes_enterCompleted (source : UInt8) :
    modes (node.enterCompleted now source).events =
      if node.mode = .systemConfiguration then [] else [.systemConfiguration] := by
  unfold enterCompleted
  dsimp only
  split
  · split <;> simp_all
  · split <;> simp_all

theorem modes_hearEnterByte (source byte : UInt8) :
    modes (node.hearEnterByte now source byte).events =
      if (node.enterListener.hear .enter now source byte).value.1 = .complete ∧
          node.mode ≠ .systemConfiguration then [.systemConfiguration] else [] := by
  have quiet := node.enterListener.hear_quiet .enter now source byte
  rw [hearEnterByte, Reaction.events_bind, quiet.untold, List.nil_append, afterEnterByte]
  split
  · rename_i complete
    simp [modes_enterCompleted, complete]
  · rename_i other
    simp [other]

/-- A complete sequence leads to System Configuration for a while. It serves the request to
enter, and what came of the exit sequence is forgotten, unless the node was there before. -/
theorem value_enterCompleted (source : UInt8) :
    ∃ enterRequest exitListener,
      (node.enterCompleted now source).value =
        { node with
          mode := .systemConfiguration
          deadline := some (now + configurationTimeout)
          enterRequest
          exitListener } ∧
      (node.mode = .systemConfiguration → exitListener = node.exitListener) ∧
      (node.mode ≠ .systemConfiguration →
        enterRequest.pending = false ∧ exitListener.position = 0) := by
  unfold enterCompleted
  by_cases mode : node.mode = .systemConfiguration
  · split <;> simp only [mode, if_true, value_setDeadline]
    all_goals exact ⟨_, _, rfl, fun _ => rfl, fun other => absurd rfl other⟩
  · split <;> simp only [mode, if_false]
    all_goals exact ⟨_, _, rfl, False.elim, fun _ => ⟨rfl, rfl⟩⟩

theorem value_hearEnterByte_of_incomplete (source byte : UInt8)
    (incomplete : (node.enterListener.hear .enter now source byte).value.1 ≠ .complete) :
    (node.hearEnterByte now source byte).value =
      { node with enterListener := (node.enterListener.hear .enter now source byte).value.2 } := by
  rw [hearEnterByte, Reaction.value_bind, afterEnterByte, if_neg incomplete]
  rfl

theorem value_hearEnterByte_of_complete (source byte : UInt8)
    (complete : (node.enterListener.hear .enter now source byte).value.1 = .complete) :
    ∃ enterRequest exitListener,
      (node.hearEnterByte now source byte).value =
        { node with
          mode := .systemConfiguration
          deadline := some (now + configurationTimeout)
          enterListener := (node.enterListener.hear .enter now source byte).value.2
          enterRequest
          exitListener } ∧
      (node.mode = .systemConfiguration → exitListener = node.exitListener) ∧
      (node.mode ≠ .systemConfiguration →
        enterRequest.pending = false ∧ exitListener.position = 0) := by
  rw [hearEnterByte, Reaction.value_bind, afterEnterByte, if_pos complete]
  exact value_enterCompleted _ now source

theorem timeBase_hearEnterByte (source byte : UInt8) :
    (node.hearEnterByte now source byte).value.timeBase = node.timeBase := by
  by_cases complete : (node.enterListener.hear .enter now source byte).value.1 = .complete
  · obtain ⟨_, _, completed, -⟩ := value_hearEnterByte_of_complete node now source byte complete
    rw [completed]
  · rw [value_hearEnterByte_of_incomplete node now source byte complete]

theorem timeBase_runEnterRequest :
    (node.runEnterRequest now).value.timeBase = node.timeBase := by
  obtain ⟨_, -, value⟩ | ⟨byte, _, -, value⟩ := runEnterRequest_cases node now
  · rw [value]
  · rw [value, timeBase_hearEnterByte]

/-- A node that asks for System Configuration from within stays there. -/
theorem mode_runEnterRequest_of_configuring (mode : node.mode = .systemConfiguration) :
    (node.runEnterRequest now).value.mode = .systemConfiguration := by
  obtain ⟨_, -, value⟩ | ⟨byte, requester, -, value⟩ := runEnterRequest_cases node now
  · rw [value]
    exact mode
  · rw [value]
    by_cases complete : (node.enterListener.hear .enter now node.address byte).value.1 = .complete
    · obtain ⟨_, _, completed, -⟩ := value_hearEnterByte_of_complete
        { node with enterRequest := requester } now node.address byte complete
      exact congrArg Node.mode completed
    · exact (congrArg Node.mode (value_hearEnterByte_of_incomplete
        { node with enterRequest := requester } now node.address byte complete)).trans mode

theorem modes_hearExitByte (source byte : UInt8) :
    modes (node.hearExitByte now source byte).events =
      if node.mode = .systemConfiguration ∧
          (node.exitListener.hear .exit now source byte).value.1 = .complete
        then [.preOperational] else [] := by
  have quiet := node.exitListener.hear_quiet .exit now source byte
  unfold hearExitByte
  split
  · rename_i mode
    rw [followExitByte, Reaction.events_bind, quiet.untold, List.nil_append, afterExitByte]
    split
    · rename_i complete
      simp [mode, complete]
    · rename_i other
      simp [other]
  · rename_i other
    simp [other]

theorem value_hearExitByte_of_complete (source byte : UInt8)
    (mode : node.mode = .systemConfiguration)
    (complete : (node.exitListener.hear .exit now source byte).value.1 = .complete) :
    (node.hearExitByte now source byte).value =
      (enterPreOperational { node with
        exitListener := (node.exitListener.hear .exit now source byte).value.2 } now).value := by
  rw [hearExitByte, if_pos mode, followExitByte, Reaction.value_bind, afterExitByte,
    if_pos complete]

theorem value_hearExitByte_of_incomplete (source byte : UInt8)
    (mode : node.mode = .systemConfiguration)
    (incomplete : (node.exitListener.hear .exit now source byte).value.1 ≠ .complete) :
    (node.hearExitByte now source byte).value =
      { node with exitListener := (node.exitListener.hear .exit now source byte).value.2 } := by
  rw [hearExitByte, if_pos mode, followExitByte, Reaction.value_bind, afterExitByte,
    if_neg incomplete]
  rfl

/-- Whoever came to PreOperational has nothing to conclude. -/
theorem value_concludeExit_of_vacated :
    ((node.enterPreOperational now).value.concludeExit now).value =
      (node.enterPreOperational now).value := rfl

theorem value_concludeExit_of_finished (mode : node.mode = .systemConfiguration)
    (finished : node.exitRequest.finished = true) :
    (node.concludeExit now).value =
      (enterPreOperational { node with exitRequest := node.exitRequest.cancel } now).value := by
  rw [concludeExit, if_pos finished]
  dsimp only
  rw [if_pos mode]

theorem value_concludeExit_of_unfinished (unfinished : ¬ node.exitRequest.finished = true) :
    (node.concludeExit now).value = node := by
  rw [concludeExit, if_neg unfinished]
  rfl

/-- A node that judges its master announces its promotion or nothing. -/
theorem judgeMaster_announces :
    modes (node.judgeMaster now).events = [] ∨
      modes (node.judgeMaster now).events = [.operational] := by
  have quiet := node.timeBase.lost_quiet node.station now
  unfold judgeMaster
  split
  · rw [Reaction.events_bind, quiet.untold, List.nil_append, promoteUnless]
    split
    · exact .inl (by simp)
    · split
      · rw [modes_enterOperational]
        split
        · exact .inl rfl
        · exact .inr rfl
      · exact .inl rfl
  · exact .inl rfl

theorem modes_judgeMaster (announced : Mode)
    (told : announced ∈ modes (node.judgeMaster now).events) : announced = .operational := by
  rcases judgeMaster_announces node now with none | one
  · rw [none] at told
    cases told
  · rw [one] at told
    exact List.mem_singleton.mp told

/-- Asking for System Configuration announces that it was entered, from outside, or nothing. -/
theorem runEnterRequest_announces :
    modes (node.runEnterRequest now).events = [] ∨
      node.mode ≠ .systemConfiguration ∧
        modes (node.runEnterRequest now).events = [.systemConfiguration] := by
  have quiet := node.enterRequest.poll_quiet .enter now node.timing.ptu
  rw [runEnterRequest, Reaction.events_bind, quiet.untold, List.nil_append]
  rcases (node.enterRequest.poll .enter now node.timing.ptu).value with ⟨none | byte, requester⟩
  · exact .inl rfl
  · rw [sendEnterByte, Reaction.events_bind, modes_append, modes_transmitControl, List.nil_append,
      modes_hearEnterByte]
    split
    · rename_i entered
      exact .inr ⟨entered.2, rfl⟩
    · exact .inl rfl

theorem modes_runEnterRequest (announced : Mode)
    (told : announced ∈ modes (node.runEnterRequest now).events) :
    announced = .systemConfiguration := by
  rcases runEnterRequest_announces node now with none | ⟨-, one⟩
  · rw [none] at told
    cases told
  · rw [one] at told
    exact List.mem_singleton.mp told

theorem modes_concludeExit :
    modes (node.concludeExit now).events =
      if node.exitRequest.finished = true ∧ node.mode = .systemConfiguration
        then [.preOperational] else [] := by
  unfold concludeExit
  split
  · rename_i finished
    dsimp only
    split
    · rename_i mode
      simp [mode, finished]
    · rename_i other
      simp [other]
  · rename_i unfinished
    simp [unfinished]

/-- Reception announces System Configuration, or that it was left. -/
theorem modes_receive? (frame : Option Frame) (announced : Mode)
    (told : announced ∈ modes (node.receive? now frame).events) :
    announced = .systemConfiguration ∨
      announced = .preOperational ∧ node.mode = .systemConfiguration := by
  cases frame with
  | none => cases told
  | some frame =>
    rw [receive?, receive] at told
    split at told
    · cases told
    · rw [Reaction.events_bind, modes_append, Reaction.events_notify, modes_delivery,
        List.nil_append] at told
      cases control : frame.id.control? with
      | none =>
        rw [control] at told
        cases told
      | some kind =>
        rw [control] at told
        dsimp only at told
        unfold obey at told
        split at told
        · rw [modes_hearSync] at told
          cases told
        · rw [modes_hearEnterByte] at told
          split at told
          · exact .inl (List.mem_singleton.mp told)
          · cases told
        · rw [modes_hearExitByte] at told
          split at told
          · rename_i left
            exact .inr ⟨List.mem_singleton.mp told, left.1⟩
          · cases told
        · cases told
        · cases told

/-- The exit request announces that System Configuration was left, once, or nothing. -/
theorem runExitRequest_announces :
    modes (node.runExitRequest now).events = [] ∨
      modes (node.runExitRequest now).events = [.preOperational] := by
  have quiet := node.exitRequest.poll_quiet .exit now node.timing.ptu
  rw [runExitRequest, Reaction.events_bind, quiet.untold, List.nil_append]
  rcases (node.exitRequest.poll .exit now node.timing.ptu).value with ⟨none | byte, requester⟩
  · exact .inl rfl
  · rw [sendExitByte, Reaction.events_bind, Reaction.events_bind, modes_append, modes_append,
      modes_transmitControl, List.nil_append, modes_hearExitByte, modes_concludeExit]
    split
    · rename_i left
      rw [value_hearExitByte_of_complete _ now _ byte left.1 left.2]
      exact .inr rfl
    · split
      · exact .inr rfl
      · exact .inl rfl

theorem modes_runExitRequest (announced : Mode)
    (told : announced ∈ modes (node.runExitRequest now).events) : announced = .preOperational := by
  rcases runExitRequest_announces node now with none | one
  · rw [none] at told
    cases told
  · rw [one] at told
    exact List.mem_singleton.mp told

end Handlers

end Node

end VehicleBus
