import VehicleBus.Proofs.Node.Moves

/-!
The exit handshake, step by step. Outside System Configuration its bytes mean nothing and no
request can come up; inside, the listener hears the byte of the step, and the mode is left for
one of three causes, which a step cannot have without leaving. Whoever leaves has his request
withdrawn.

Two invariants follow: a request waits in System Configuration only, and it was made there.
-/
namespace VehicleBus

open Handshake

/-- The byte of the exit sequence that a frame carries. -/
def Frame.exitByte? (frame : Frame) (now : Nat) : Option Heard :=
  if frame.id.control? = some .exitConfig then
    frame.payload.head?.map fun byte => ⟨now, frame.id.source, byte⟩
  else none

theorem Frame.exitByte?_of_other {frame : Frame}
    (other : frame.id.control? ≠ some .exitConfig) (now : Nat) : frame.exitByte? now = none :=
  if_neg other

@[simp] theorem Frame.exitByte?_exitConfig (source byte : UInt8) (now : Nat) :
    (Frame.exitConfig source byte).exitByte? now = some ⟨now, source, byte⟩ := by
  simp [exitByte?, exitConfig]

theorem Frame.exitConfig_inj {source byte other : UInt8}
    (same : Frame.exitConfig source byte = Frame.exitConfig source other) : byte = other := by
  have payload := congrArg Frame.payload same
  simpa [exitConfig] using payload

/-- No byte but the third one completes a sequence, and it is the last letter. -/
theorem Handshake.Listener.third_of_complete {listener : Listener} {sequence : Sequence} {now : Nat}
    {source byte : UInt8}
    (complete : (listener.hear sequence now source byte).value.1 = .complete) :
    listener.position = 2 ∧ sequence.byte? 2 = some byte := by
  have third {heard : Listener} {gaveUp : Bool}
      (judged : (heard.judge sequence gaveUp now source byte).1 = .complete) :
      heard.position = 2 ∧ sequence.byte? 2 = some byte := by
    unfold judge advance startOver at judged
    split at judged
    · rename_i expected
      split at judged
      · rename_i last
        have position : heard.position = 2 := Nat.succ.inj last
        exact ⟨position, position ▸ expected⟩
      · cases judged
    · split at judged
      · split at judged <;> cases judged
      · split at judged <;> cases judged
  rw [hear, Reaction.value_bind] at complete
  obtain ⟨position, letter⟩ := third complete
  refine ⟨?_, letter⟩
  -- A sequence that was given up over the byte is at its beginning.
  split at position
  · cases position
  · exact position

/-- What the request to leave makes of its turn: it sends the next byte at most, and is finished
with the letter R. -/
theorem Handshake.Requester.poll_exit_cases (requester : Requester) (now ptu : Nat) :
    (requester.poll .exit now ptu).value = (none, requester) ∨
      ∃ byte after, requester.pending = true ∧
        (requester.poll .exit now ptu).value = (some byte, after) ∧
        (after.finished = true ↔ byte = 82) := by
  unfold poll
  split
  · rename_i pending
    rw [startOver, if_neg (by simp), pure_bind, emitDue]
    split
    · exact .inl rfl
    · rename_i byte next
      split
      · refine .inr ⟨byte, _, pending, rfl, ?_⟩
        have letter : Sequence.exit.byte? 2 = some 82 := rfl
        have last : requester.position = 2 ↔ byte = 82 := by
          constructor
          · intro third
            rw [third] at next
            exact (Option.some.inj next).symm
          · rintro rfl
            exact (Sequence.exit.byte?_inj (by decide) (letter.trans next.symm)).symm
        simp [finished, pending, Sequence.size, ← last]
      · exact .inl rfl
  · exact .inl rfl

namespace Node

/-- The bytes of the exit sequence that come up in a step: of other nodes, and the node's own
as it transmits them. -/
def exitBytes (node : Node) (step : Step) : List Heard :=
  (node.taken step ++ (node.perform step).transmit).filterMap (·.exitByte? step.now)

/-- The frame with the letter R, the last one of the node's own exit sequence. -/
def farewell (node : Node) : Frame := Frame.exitConfig node.address 82

/-- A byte of a step is the last one of the exit sequence, as the listener takes it. -/
def Concluding (node : Node) (step : Step) : Prop :=
  ∃ byte ∈ node.exitBytes step,
    (node.exitListener.hear .exit byte.now byte.source byte.byte).value.1 = .complete

/-- What leads out of System Configuration: the deadline, a sequence of another node that is
complete, or the end of the node's own. -/
def Released (node : Node) (step : Step) : Prop :=
  step.duty = .abandon ∨ ((∃ frame, step.duty = .receive frame) ∧ node.Concluding step) ∨
    node.farewell ∈ (node.perform step).transmit

/-- What a step makes of the exit handshake. -/
inductive Exits (node : Node) (step : Step) (after : Node) : Prop
  | outside (mode : node.mode ≠ .systemConfiguration)
      (request : after.exitRequest.pending = true → node.exitRequest.pending = true)
      (entered : after.mode = .systemConfiguration →
        after.exitListener.position = 0 ∧ node.exitBytes step = [])
  | inside (mode : node.mode = .systemConfiguration) (stays : after.mode = .systemConfiguration)
      (kept : ¬ node.Released step)
      (request : after.exitRequest.pending = true →
        node.exitRequest.pending = true ∨ step.duty = .requestExit)
      (heard : node.exitBytes step = [] ∧ after.exitListener = node.exitListener ∨
        ∃ byte, node.exitBytes step = [byte] ∧ after.exitListener =
          (node.exitListener.hear .exit byte.now byte.source byte.byte).value.2)
  | leaves (mode : node.mode = .systemConfiguration) (released : node.Released step)
      (left : ∃ parting : Node, after = (parting.enterPreOperational step.now).value ∧
        parting.config = node.config)

section Duties

variable (node : Node) (now : Nat)

/-- A step without bytes of the exit sequence is no cause to leave. -/
theorem not_released {step : Step} (none : node.exitBytes step = [])
    (kept : step.duty ≠ .abandon) : ¬ node.Released step := by
  rintro (abandoned | ⟨-, byte, member, -⟩ | said)
  · exact kept abandoned
  · rw [none] at member
    cases member
  · have heard : (⟨step.now, node.address, 82⟩ : Heard) ∈ node.exitBytes step :=
      List.mem_filterMap.mpr ⟨node.farewell, List.mem_append_right _ said,
        Frame.exitByte?_exitConfig node.address 82 step.now⟩
    rw [none] at heard
    cases heard

/-- A step that has no part in the exit handshake. -/
theorem exits_of_idle {step : Step} {after : Node} (none : node.exitBytes step = [])
    (kept : step.duty ≠ .abandon) (mode : after.mode = node.mode)
    (listener : after.exitListener = node.exitListener)
    (request : after.exitRequest = node.exitRequest) : node.Exits step after := by
  by_cases inside : node.mode = .systemConfiguration
  · refine .inside inside (mode.trans inside) (not_released node none kept) (fun pending => ?_)
      (.inl ⟨none, listener⟩)
    rw [request] at pending
    exact .inl pending
  · refine .outside inside (fun pending => ?_) fun entered =>
      absurd (mode.symm.trans entered) inside
    rwa [request] at pending

theorem exits_wake : node.Exits ⟨now, .wake⟩ (node.wake now).value := by
  have none : node.exitBytes ⟨now, .wake⟩ = [] := by simp [exitBytes, taken, perform]
  by_cases off : node.mode = .powerOff
  · rw [wake, if_pos off]
    exact .outside (by rw [off]; decide) (by rintro ⟨⟩) (by rintro ⟨⟩)
  · rw [wake, if_neg off]
    exact exits_of_idle node none (by simp) rfl rfl rfl

section Reception

variable {node now} {frame : Frame} (foreign : frame.id.source ≠ node.address)
include foreign

theorem exitBytes_receive :
    node.exitBytes ⟨now, .receive (some frame)⟩ = (frame.exitByte? now).toList := by
  rw [exitBytes, taken_receive foreign]
  cases carried : frame.exitByte? now <;> simp [perform, carried]

theorem exitBytes_receive_of_other (now : Nat) (other : frame.id.control? ≠ some .exitConfig) :
    node.exitBytes ⟨now, .receive (some frame)⟩ = [] := by
  rw [exitBytes_receive foreign, Frame.exitByte?_of_other other]
  rfl

theorem exits_hearSync (sync : frame.IsSync) :
    node.Exits ⟨now, .receive (some frame)⟩ (node.hearSync now frame).value := by
  have none := exitBytes_receive_of_other foreign now (by rw [sync]; decide)
  obtain ⟨_, _, heard⟩ := value_hearSync node now frame
  rw [heard]
  exact exits_of_idle node none (by simp) rfl rfl rfl

end Reception

/-- A byte of the enter sequence starts the listener of the other one afresh where it leads to
System Configuration, and has no part in it elsewhere. -/
theorem exits_hearEnterByte {step : Step} (none : node.exitBytes step = [])
    (kept : step.duty ≠ .abandon) (enterRequest : Handshake.Requester) (source byte : UInt8) :
    node.Exits step (hearEnterByte { node with enterRequest } now source byte).value := by
  by_cases complete : (node.enterListener.hear .enter now source byte).value.1 = .complete
  · obtain ⟨_, listener, completed, same, fresh⟩ :=
      value_hearEnterByte_of_complete { node with enterRequest } now source byte complete
    rw [completed]
    by_cases inside : node.mode = .systemConfiguration
    · exact exits_of_idle node none kept inside.symm (same inside) rfl
    · exact .outside inside id fun _ => ⟨(fresh inside).2, none⟩
  · rw [value_hearEnterByte_of_incomplete { node with enterRequest } now source byte complete]
    exact exits_of_idle node none kept rfl rfl rfl

theorem exits_hearExitByte {frame : Frame} (foreign : frame.id.source ≠ node.address) (byte : UInt8)
    (control : frame.id.control? = some .exitConfig) (first : frame.payload.head? = some byte) :
    node.Exits ⟨now, .receive (some frame)⟩ (node.hearExitByte now frame.id.source byte).value := by
  have one : node.exitBytes ⟨now, .receive (some frame)⟩ = [⟨now, frame.id.source, byte⟩] := by
    rw [exitBytes_receive foreign, Frame.exitByte?, if_pos control, first]
    rfl
  by_cases mode : node.mode = .systemConfiguration
  · by_cases complete :
        (node.exitListener.hear .exit now frame.id.source byte).value.1 = .complete
    · rw [value_hearExitByte_of_complete node now _ byte mode complete]
      refine .leaves mode (.inr (.inl ⟨⟨_, rfl⟩, ⟨now, frame.id.source, byte⟩, ?_, complete⟩))
        ⟨_, rfl, rfl⟩
      rw [one]
      exact List.mem_singleton_self _
    · rw [value_hearExitByte_of_incomplete node now _ byte mode complete]
      refine .inside mode mode ?_ .inl (.inr ⟨_, one, rfl⟩)
      rintro (abandoned | ⟨-, heard, member, completed⟩ | said)
      · cases abandoned
      · rw [one, List.mem_singleton] at member
        rw [member] at completed
        exact complete completed
      · simp [perform] at said
  · rw [hearExitByte, if_neg mode]
    exact .outside mode id fun entered => absurd entered mode

theorem exits_receive (frame : Frame) :
    node.Exits ⟨now, .receive (some frame)⟩ (node.receive now frame).value := by
  by_cases foreign : frame.id.source = node.address
  · have none : node.exitBytes ⟨now, .receive (some frame)⟩ = [] := by
      simp [exitBytes, taken, foreign, perform]
    rw [receive, if_pos foreign]
    exact exits_of_idle node none (by simp) rfl rfl rfl
  · cases control : frame.id.control? with
    | none =>
      have none := exitBytes_receive_of_other foreign now (by rw [control]; decide)
      rw [receive, if_neg foreign, Reaction.value_bind, control]
      exact exits_of_idle node none (by simp) rfl rfl rfl
    | some kind =>
      rw [value_receive foreign control]
      unfold obey
      split
      · exact exits_hearSync foreign control
      · have none := exitBytes_receive_of_other foreign now (by rw [control]; decide)
        exact exits_hearEnterByte node now none (by simp) node.enterRequest _ _
      · rename_i byte first
        exact exits_hearExitByte node now foreign byte control first
      · have none := exitBytes_receive_of_other foreign now (by rw [control]; decide)
        exact exits_of_idle node none (by simp) rfl rfl rfl
      · rename_i empty
        have none : node.exitBytes ⟨now, .receive (some frame)⟩ = [] := by
          rw [exitBytes_receive foreign, Frame.exitByte?, empty]
          split <;> rfl
        exact exits_of_idle node none (by simp) rfl rfl rfl

theorem exits_beat (mode : node.Synchronizes) :
    node.Exits ⟨now, .beat⟩ (node.runSync now).value := by
  have outside := mode.not_configuring
  have kept := mode_runSync node now
  refine .outside outside (fun pending => ?_) fun entered =>
    absurd (kept.symm.trans entered) outside
  obtain ⟨_, _, beaten⟩ := value_runSync node now
  rwa [beaten] at pending

theorem exits_judge (mode : node.mode = .preOperational) :
    node.Exits ⟨now, .judge⟩ (node.judgeMaster now).value := by
  have outside : node.mode ≠ .systemConfiguration := by
    rw [mode]
    decide
  unfold judgeMaster
  split
  · rw [Reaction.value_bind, promoteUnless]
    split
    · exact .outside outside id fun entered => absurd entered outside
    · split
      · exact .outside outside id (by rintro ⟨⟩)
      · exact .outside outside id fun entered => absurd entered outside
  · exact .outside outside id fun entered => absurd entered outside

theorem exits_sendEnterByte :
    node.Exits ⟨now, .sendEnterByte⟩ (node.runEnterRequest now).value := by
  obtain ⟨_, sent, value⟩ | ⟨byte, requester, sent, value⟩ := runEnterRequest_cases node now
  · have none : node.exitBytes ⟨now, .sendEnterByte⟩ = [] := by
      simp [exitBytes, taken, perform, sent]
    rw [value]
    exact exits_of_idle node none (by simp) rfl rfl rfl
  · have none : node.exitBytes ⟨now, .sendEnterByte⟩ = [] := by
      simp [exitBytes, taken, perform, sent, Frame.exitByte?, Frame.enterConfig]
    rw [value]
    exact exits_hearEnterByte node now none (by simp) requester _ _

/-- A node that sent its farewell leaves, whatever came of the byte before, and no other byte
of its own leads out. -/
theorem exits_sendExitByte (mode : node.mode = .systemConfiguration) :
    node.Exits ⟨now, .sendExitByte⟩ (node.runExitRequest now).value := by
  obtain ⟨requester, polled, sent, value⟩ | ⟨byte, requester, polled, sent, value⟩ :=
    runExitRequest_cases node now
  · have none : node.exitBytes ⟨now, .sendExitByte⟩ = [] := by
      simp [exitBytes, taken, perform, sent]
    obtain same | ⟨_, _, -, other, -⟩ := node.exitRequest.poll_exit_cases now node.timing.ptu
    · cases polled.symm.trans same
      rw [value]
      exact exits_of_idle node none (by simp) rfl rfl rfl
    · cases polled.symm.trans other
  · have one : node.exitBytes ⟨now, .sendExitByte⟩ = [⟨now, node.address, byte⟩] := by
      simp [exitBytes, taken, perform, sent]
    have released (last : byte = 82) : node.Released ⟨now, .sendExitByte⟩ := by
      refine .inr (.inr ?_)
      rw [perform, sent, last]
      exact List.mem_singleton_self _
    obtain idle | ⟨_, _, pending, same, finished_iff⟩ :=
      node.exitRequest.poll_exit_cases now node.timing.ptu
    · cases polled.symm.trans idle
    · cases polled.symm.trans same
      rw [value]
      by_cases complete :
          (node.exitListener.hear .exit now node.address byte).value.1 = .complete
      · have last := (Handshake.Listener.third_of_complete complete).2
        rw [value_hearExitByte_of_complete { node with exitRequest := requester } now _ byte mode
          complete, value_concludeExit_of_vacated]
        exact .leaves mode (released (Option.some.inj last).symm) ⟨_, rfl, rfl⟩
      · rw [value_hearExitByte_of_incomplete { node with exitRequest := requester } now _ byte mode
          complete]
        generalize heard : (node.exitListener.hear .exit now node.address byte).value.2 = listener
        by_cases finished : requester.finished = true
        · rw [value_concludeExit_of_finished
            { node with exitRequest := requester, exitListener := listener } now mode finished]
          exact .leaves mode (released (finished_iff.mp finished)) ⟨_, rfl, rfl⟩
        · rw [value_concludeExit_of_unfinished
            { node with exitRequest := requester, exitListener := listener } now finished]
          refine .inside mode mode ?_ (fun _ => .inl pending) (.inr ⟨_, one, heard.symm⟩)
          rintro (abandoned | ⟨⟨frame, received⟩, -⟩ | said)
          · cases abandoned
          · cases received
          · rw [perform, sent, List.mem_singleton] at said
            exact finished (finished_iff.mpr (Frame.exitConfig_inj said).symm)

theorem exits_requestExit : node.Exits ⟨now, .requestExit⟩ (node.requestExit now).value := by
  have unsent : (node.requestExit now).transmit = [] := by
    unfold requestExit
    split <;> rfl
  have none : node.exitBytes ⟨now, .requestExit⟩ = [] := by simp [exitBytes, taken, perform, unsent]
  unfold requestExit
  split
  · rename_i mode
    exact .inside mode mode (not_released node none (by simp)) (fun _ => .inr rfl)
      (.inl ⟨none, rfl⟩)
  · exact exits_of_idle node none (by simp) rfl rfl rfl

end Duties

/-- What every step that fits its node makes of the exit handshake. -/
theorem exits_perform (node : Node) (step : Step) (fits : node.Fits step) :
    node.Exits step (node.perform step).value := by
  obtain ⟨now, duty⟩ := step
  cases duty with
  | wake => exact exits_wake node now
  | receive frame =>
    cases frame with
    | none => exact exits_of_idle node rfl (by simp) rfl rfl rfl
    | some frame => exact exits_receive node now frame
  | beat => exact exits_beat node now fits
  | judge => exact exits_judge node now fits
  | abandon =>
    cases fits with
    | inl watching => exact .outside (by rw [watching]; decide) (by rintro ⟨⟩) (by rintro ⟨⟩)
    | inr mode => exact .leaves mode (.inl rfl) ⟨node, rfl, rfl⟩
  | sendEnterByte => exact exits_sendEnterByte node now
  | sendExitByte => exact exits_sendExitByte node now fits
  | requestEnter => exact exits_of_idle node rfl (by simp) rfl rfl rfl
  | requestExit => exact exits_requestExit node now

section Listener

variable {node after : Node} {step : Step} {past : List Heard}

/-- A listener in line with the bytes of the exit sequence stays so inside System
Configuration. -/
theorem Exits.follows (exits : node.Exits step after) (mode : node.mode = .systemConfiguration)
    (stays : after.mode = .systemConfiguration)
    (follows : node.exitListener.Follows .exit past.reverse) :
    after.exitListener.Follows .exit (past ++ node.exitBytes step).reverse := by
  cases exits with
  | outside outside => exact absurd mode outside
  | leaves _ _ left =>
    obtain ⟨_, rfl, -⟩ := left
    cases stays
  | inside _ _ _ _ heard =>
    obtain ⟨none, same⟩ | ⟨byte, one, heard⟩ := heard
    · rw [none, List.append_nil, same]
      exact follows
    · rw [one, heard, List.reverse_append]
      exact (Handshake.Listener.hear_answers byte follows).1

/-- The bytes before tell whether a byte concludes the sequence. -/
theorem concluding_iff (follows : node.exitListener.Follows .exit past) (step : Step) :
    node.Concluding step ↔ ∃ byte ∈ node.exitBytes step, byte.Finishes .exit past := by
  constructor
  · rintro ⟨byte, member, complete⟩
    exact ⟨byte, member, (Handshake.Listener.hear_answers byte follows).2.mp complete⟩
  · rintro ⟨byte, member, finishes⟩
    exact ⟨byte, member, (Handshake.Listener.hear_answers byte follows).2.mpr finishes⟩

end Listener

/-- No request to leave waits outside System Configuration. -/
def Withdrawn (node : Node) : Prop :=
  node.mode ≠ .systemConfiguration → node.exitRequest.pending = false

section Requests

variable {node : Node} {step : Step} {steps : List Step}

/-- A request to leave comes up where it is made, and nowhere else. -/
theorem asked_of_pending_perform (fits : node.Fits step) (idle : node.exitRequest.pending = false)
    (pending : (node.perform step).value.exitRequest.pending = true) :
    step.duty = .requestExit ∧ node.mode = .systemConfiguration := by
  have never : node.exitRequest.pending ≠ true := by simp [idle]
  cases exits_perform node step fits with
  | outside _ request => exact absurd (request pending) never
  | inside mode _ _ request => exact ⟨(request pending).resolve_left never, mode⟩
  | leaves _ _ left =>
    obtain ⟨_, value, -⟩ := left
    rw [value] at pending
    cases pending

theorem idle_perform (step : Step) (fits : node.Fits step) (idle : node.exitRequest.pending = false)
    (other : step.duty ≠ .requestExit) : (node.perform step).value.exitRequest.pending = false :=
  Bool.eq_false_iff.mpr fun pending => other (asked_of_pending_perform fits idle pending).1

theorem Withdrawn.perform (withdrawn : node.Withdrawn) (fits : node.Fits step) :
    (node.perform step).value.Withdrawn := by
  intro outside
  refine Bool.eq_false_iff.mpr fun pending => ?_
  cases exits_perform node step fits with
  | outside mode request => exact absurd (request pending) (by simp [withdrawn mode])
  | inside _ stays => exact outside stays
  | leaves _ _ left =>
    obtain ⟨_, value, -⟩ := left
    rw [value] at pending
    cases pending

theorem Withdrawn.follow (withdrawn : node.Withdrawn) (fitting : node.Fitting steps) :
    (node.follow steps).value.Withdrawn :=
  follow_induction (fun _ _ fits withdrawn => withdrawn.perform fits) withdrawn fitting

/-- A request that waits after a run was made in System Configuration in its course. -/
theorem asked_of_pending (fitting : node.Fitting steps) (idle : node.exitRequest.pending = false)
    (pending : (node.follow steps).value.exitRequest.pending = true) :
    ∃ first asking second, steps = first ++ asking :: second ∧ asking.duty = .requestExit ∧
      (node.follow first).value.mode = .systemConfiguration := by
  induction steps generalizing node with
  | nil => simp [follow, idle] at pending
  | cons step rest ih =>
    cases asked : (node.perform step).value.exitRequest.pending with
    | true =>
      obtain ⟨asking, mode⟩ := asked_of_pending_perform fitting.1 idle asked
      exact ⟨[], step, rest, rfl, asking, mode⟩
    | false =>
      obtain ⟨first, asking, second, split, request, mode⟩ := ih fitting.2 asked pending
      exact ⟨step :: first, asking, second, by rw [split, List.cons_append], request, mode⟩

/-- A node sends bytes of the exit sequence on request only. -/
theorem pending_of_sent {frame : Frame} (sent : frame ∈ (node.perform step).transmit)
    (control : frame.id.control? = some .exitConfig) : node.exitRequest.pending = true := by
  obtain ⟨now, duty⟩ := step
  cases duty with
  | sendExitByte =>
    obtain ⟨_, -, none, -⟩ | ⟨byte, _, polled, -, -⟩ := runExitRequest_cases node now
    · rw [perform, none] at sent
      cases sent
    · obtain idle | ⟨_, _, pending, -, -⟩ := node.exitRequest.poll_exit_cases now node.timing.ptu
      · cases polled.symm.trans idle
      · exact pending
  | sendEnterByte =>
    obtain ⟨_, none, -⟩ | ⟨byte, _, one, -⟩ := runEnterRequest_cases node now
    · rw [perform, none] at sent
      cases sent
    · rw [perform, one, List.mem_singleton] at sent
      simp [sent, Frame.enterConfig] at control
  | beat =>
    cases due : (node.timeBase.isDue node.station now).value with
    | false =>
      rw [perform, (runSync_of_not_due node now due).1.unsent] at sent
      cases sent
    | true =>
      rw [perform, (runSync_of_due node now due).1, List.mem_singleton] at sent
      simp [sent] at control
  | requestExit =>
    unfold perform requestExit at sent
    dsimp only at sent
    split at sent <;> cases sent
  | wake => simp [perform] at sent
  | receive frame => simp [perform] at sent
  | judge => simp [perform] at sent
  | abandon => cases sent
  | requestEnter => cases sent

end Requests

end Node

end VehicleBus
