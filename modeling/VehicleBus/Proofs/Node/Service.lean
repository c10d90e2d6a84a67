import Mathlib.Data.List.Induction
import VehicleBus.Proofs.Handshake.Standing
import VehicleBus.Proofs.Node.Provenance

/-!
What becomes of a request to enter System Configuration. It is outstanding from the moment it is
made until it is served: the node enters that mode, whoever led it there, or is in it and completes
the sequence itself. Nothing else takes the request away, whatever modes the node goes through in
the meantime, and only an outstanding request has its bytes sent.

Every duty but the request itself leaves the requester pending unless one of the bytes that it
handles serves it, so the proof goes by the duties and the bytes of each.
-/
namespace VehicleBus

open Handshake

theorem Handshake.Requester.pending_poll (requester : Requester) (sequence : Sequence)
    (now ptu : Nat) :
    (requester.poll sequence now ptu).value.2.pending = requester.pending := by
  have kept : (requester.startOver sequence now).value.pending = requester.pending := by
    unfold startOver
    split <;> rfl
  unfold poll
  split
  · rw [Reaction.value_bind, ← kept]
    unfold emitDue
    split
    · rfl
    · split <;> rfl
  · rfl

namespace Node

section Untouched

variable (node : Node) (now : Nat)

theorem enterRequest_wake : (node.wake now).value.enterRequest = node.enterRequest := by
  unfold wake
  split <;> rfl

theorem enterRequest_hearSync (frame : Frame) :
    (node.hearSync now frame).value.enterRequest = node.enterRequest := by
  obtain ⟨_, _, heard⟩ := value_hearSync node now frame
  rw [heard]

theorem enterRequest_hearExitByte (source byte : UInt8) :
    (node.hearExitByte now source byte).value.enterRequest = node.enterRequest := by
  unfold hearExitByte
  split
  · rw [followExitByte, Reaction.value_bind, afterExitByte]
    split <;> rfl
  · rfl

theorem enterRequest_concludeExit :
    (node.concludeExit now).value.enterRequest = node.enterRequest := by
  unfold concludeExit
  split
  · dsimp only
    split <;> rfl
  · rfl

theorem enterRequest_runSync : (node.runSync now).value.enterRequest = node.enterRequest := by
  obtain ⟨_, _, beaten⟩ := value_runSync node now
  rw [beaten]

theorem enterRequest_judgeMaster :
    (node.judgeMaster now).value.enterRequest = node.enterRequest := by
  obtain ⟨_, _, _, judged⟩ := value_judgeMaster node now
  rw [judged]

theorem enterRequest_runExitRequest :
    (node.runExitRequest now).value.enterRequest = node.enterRequest := by
  obtain ⟨_, -, -, value⟩ | ⟨byte, requester, -, -, value⟩ := runExitRequest_cases node now
  · rw [value]
  · rw [value, enterRequest_concludeExit, enterRequest_hearExitByte]

theorem enterRequest_requestExit :
    (node.requestExit now).value.enterRequest = node.enterRequest := by
  unfold requestExit
  split <;> rfl

end Untouched

/-- A byte serves the request of a node: it completes the sequence, and it is the node's own or
leads the node to System Configuration. -/
def Settles (node : Node) (byte : Heard) : Prop :=
  (node.enterListener.hear .enter byte.now byte.source byte.byte).value.1 = .complete ∧
    (node.mode ≠ .systemConfiguration ∨ byte.source = node.address)

/-- After bytes were handled a request is pending if it was before and none of them serves it. -/
def Retains (node : Node) (bytes : List Heard) (after : Node) : Prop :=
  after.enterRequest.pending = true ↔
    node.enterRequest.pending = true ∧ ∀ byte ∈ bytes, ¬ node.Settles byte

section Duties

variable (node : Node) (now : Nat)

theorem retains_of_untouched {node after : Node} {bytes : List Heard} (none : bytes = [])
    (same : after.enterRequest = node.enterRequest) : node.Retains bytes after := by
  simp [Retains, none, same]

/-- A whole sequence leaves a request pending only where another node repeats it. -/
theorem pending_enterCompleted (source : UInt8) :
    (node.enterCompleted now source).value.enterRequest.pending = true ↔
      node.enterRequest.pending = true ∧ node.mode = .systemConfiguration ∧
        source ≠ node.address := by
  unfold enterCompleted
  split
  · rename_i own
    dsimp only
    split
    · simp [Requester.cancel, own]
    · simp [enterSystemConfiguration, Requester.cancel, own]
  · rename_i foreign
    dsimp only
    split
    · rename_i mode
      simp [foreign, mode]
    · rename_i outside
      simp [enterSystemConfiguration, Requester.cancel, outside]

theorem retains_hearEnterByte (source byte : UInt8) :
    node.Retains [⟨now, source, byte⟩] (node.hearEnterByte now source byte).value := by
  unfold Retains Settles
  rw [List.forall_mem_singleton]
  by_cases complete : (node.enterListener.hear .enter now source byte).value.1 = .complete
  · rw [hearEnterByte, Reaction.value_bind, afterEnterByte, if_pos complete, pending_enterCompleted]
    simp [complete, address]
  · rw [value_hearEnterByte_of_incomplete node now source byte complete]
    simp [complete]

theorem retains_obey {frame : Frame} {kind : ControlKind}
    (control : frame.id.control? = some kind) :
    node.Retains (frame.enterByte? now).toList (node.obey now kind frame).value := by
  unfold Frame.enterByte? obey
  rw [control]
  cases kind with
  | sync => exact retains_of_untouched rfl (enterRequest_hearSync node now frame)
  | enterConfig =>
    cases frame.payload.head? with
    | none => exact retains_of_untouched rfl rfl
    | some byte => exact retains_hearEnterByte node now frame.id.source byte
  | exitConfig =>
    cases frame.payload.head? with
    | none => exact retains_of_untouched rfl rfl
    | some byte =>
      exact retains_of_untouched rfl (enterRequest_hearExitByte node now frame.id.source byte)

theorem retains_receive (frame : Frame) :
    node.Retains (node.handled ⟨now, .receive (some frame)⟩) (node.receive now frame).value := by
  by_cases own : frame.id.source = node.address
  · rw [receive, if_pos own]
    refine retains_of_untouched ?_ rfl
    simp [handled, taken, perform, own]
  · rw [handled_receive own]
    cases control : frame.id.control? with
    | none =>
      rw [receive, if_neg own, Reaction.value_bind, control]
      exact retains_of_untouched (by simp [Frame.enterByte?, control]) rfl
    | some kind =>
      rw [value_receive own control]
      exact retains_obey node now control

theorem handled_beat : node.handled ⟨now, .beat⟩ = [] := by
  cases due : (node.timeBase.isDue node.station now).value with
  | false => simp [handled, taken, perform, (runSync_of_not_due node now due).1.unsent]
  | true => simp [handled, taken, perform, (runSync_of_due node now due).1, Frame.enterByte?]

theorem handled_sendExitByte : node.handled ⟨now, .sendExitByte⟩ = [] := by
  obtain ⟨_, -, sent, -⟩ | ⟨byte, _, -, sent, -⟩ := runExitRequest_cases node now
  · simp [handled, taken, perform, sent]
  · simp [handled, taken, perform, sent, Frame.exitConfig, Frame.enterByte?]

/-- The byte of a turn is the one that the requester hands out. -/
theorem handled_sendEnterByte :
    node.handled ⟨now, .sendEnterByte⟩ =
      (node.enterRequest.poll .enter now node.timing.ptu).value.1.toList.map
        (Heard.mk now node.address) := by
  have quiet := node.enterRequest.poll_quiet .enter now node.timing.ptu
  unfold handled taken
  dsimp only [perform]
  rw [List.nil_append, runEnterRequest, Reaction.transmit_bind, quiet.unsent, List.nil_append]
  rcases (node.enterRequest.poll .enter now node.timing.ptu).value with ⟨none | byte, requester⟩
  · rfl
  · simp [sendEnterByte, transmitControl, address]

/-- The turn of a request does not take it back, and its byte is heard like any other. -/
theorem retains_sendEnterByte :
    node.Retains (node.handled ⟨now, .sendEnterByte⟩) (node.runEnterRequest now).value := by
  have still := node.enterRequest.pending_poll .enter now node.timing.ptu
  rw [handled_sendEnterByte, runEnterRequest, Reaction.value_bind]
  generalize (node.enterRequest.poll .enter now node.timing.ptu).value = polled at still ⊢
  rcases polled with ⟨none | byte, requester⟩
  · simpa [Retains, sendEnterByte] using still
  · have heard :=
      retains_hearEnterByte { node with enterRequest := requester } now node.address byte
    unfold Retains at heard ⊢
    rw [← still]
    exact heard

end Duties

/-- What every step but a request makes of the request to enter. -/
theorem retains_perform (node : Node) (step : Step) (unasked : step.duty ≠ .requestEnter) :
    node.Retains (node.handled step) (node.perform step).value := by
  obtain ⟨now, duty⟩ := step
  cases duty with
  | wake =>
    refine retains_of_untouched ?_ (enterRequest_wake node now)
    simp [handled, taken, perform]
  | receive frame =>
    cases frame with
    | none => exact retains_of_untouched rfl rfl
    | some frame => exact retains_receive node now frame
  | beat => exact retains_of_untouched (handled_beat node now) (enterRequest_runSync node now)
  | judge =>
    refine retains_of_untouched ?_ (enterRequest_judgeMaster node now)
    simp [handled, taken, perform]
  | abandon => exact retains_of_untouched rfl rfl
  | sendEnterByte => exact retains_sendEnterByte node now
  | sendExitByte =>
    exact retains_of_untouched (handled_sendExitByte node now)
      (enterRequest_runExitRequest node now)
  | requestEnter => exact absurd rfl unasked
  | requestExit =>
    refine retains_of_untouched ?_ (enterRequest_requestExit node now)
    have unsent : (node.requestExit now).transmit = [] := by
      unfold requestExit
      split <;> rfl
    simp [handled, taken, perform, unsent]

/-- A step serves the request to enter, where marks came before it: it enters System Configuration,
or completes the sequence there with a byte of the node's own. -/
def Serves (node : Node) (marks : List Mark) (step : Step) : Prop :=
  .modeChanged .systemConfiguration ∈ (node.perform step).events ∨
    node.mode = .systemConfiguration ∧
      ∃ byte ∈ node.handled step, byte.source = node.address ∧ Completes marks byte

/-- The marks before a step tell whether one of its bytes serves the request. -/
theorem Tracks.serves_iff {node : Node} {marks : List Mark} {step : Step}
    (tracks : node.Tracks marks.reverse)
    (sound : step.duty = .abandon → node.mode ≠ .preOperational) :
    node.Serves marks step ↔ ∃ byte ∈ node.handled step, node.Settles byte := by
  have verdict (byte : Heard) := (Listener.hear_answers byte tracks).2
  unfold Serves
  rw [← mem_modes_iff, tracks.entered_iff sound]
  simp only [Settles, verdict, finishes_latestBytes_iff]
  by_cases mode : node.mode = .systemConfiguration
  · simp [mode, and_comm]
  · simp [mode]

/-- After steps a request to enter is outstanding: it was made in one of them, and none since
served it. -/
def Outstanding (node : Node) : List Step → Prop :=
  Standing (fun step => step.duty = .requestEnter) fun earlier step =>
    (node.follow earlier).value.Serves (node.marks earlier) step

/-- A request is pending as long as it is outstanding. -/
theorem pending_iff_outstanding {node : Node} (start : node.Tracks [])
    (idle : node.enterRequest.pending = false) (steps : List Step) (fitting : node.Fitting steps) :
    (node.follow steps).value.enterRequest.pending = true ↔ node.Outstanding steps := by
  -- From the end, for whether a step serves depends on all those before it.
  induction steps using List.reverseRecOn with
  | nil => exact iff_of_false (by simp [follow, idle]) Standing.not_nil
  | append_singleton steps step ih =>
    obtain ⟨earlier, fits, -⟩ := (fitting_append node steps [step]).mp fitting
    have tracks := start.follow earlier.sound
    rw [List.append_nil] at tracks
    have reached : (node.follow (steps ++ [step])).value =
        ((node.follow steps).value.perform step).value := by
      simp [follow_append, follow]
    rw [reached, Outstanding, Standing.concat_iff, ← Outstanding, ← ih earlier,
      tracks.serves_iff fits.sound]
    by_cases asked : step.duty = .requestEnter
    · refine iff_of_true ?_ (.inl asked)
      rw [perform, asked]
      rfl
    · have retains := retains_perform (node.follow steps).value step asked
      simpa [Retains, asked] using retains

/-- A request to enter System Configuration is pending from the moment it is made until the node
enters that mode or completes the sequence in it with a byte of its own. This holds after every
run, so no tick takes the request back, whatever it does to the mode, the master and the deadline.
A byte of the sequence is sent only while the request is outstanding, and from the step that served
it to the next request none is. -/
theorem enter_request_stays_until_served (config : Config) (origin : Nat)
    (inputs : List Node.Input) :
    let node := (Node.start config origin).value
    let reached := (node.run inputs).value
    node.follow (node.steps inputs) = node.run inputs ∧
      (reached.enterRequest.pending = true ↔ node.Outstanding (node.steps inputs)) ∧
      ∀ earlier step later, node.steps inputs = earlier ++ step :: later →
        ∀ frame ∈ ((node.follow earlier).value.perform step).transmit,
          frame.id.control? = some .enterConfig → node.Outstanding earlier := by
  intro node reached
  have start : node.Tracks [] := Listener.follows_start .enter _ rfl
  have fitting := fitting_steps node inputs
  have parts := follow_steps node inputs
  refine ⟨parts, ?_, ?_⟩
  · rw [← pending_iff_outstanding start rfl _ fitting, parts]
  · intro earlier step later split frame sent control
    rw [split, fitting_append] at fitting
    rw [← pending_iff_outstanding start rfl _ fitting.1]
    cases sends_perform _ step sent with
    | sync counter due => simp at control
    | enterByte byte pending => exact pending
    | exitByte byte pending => simp [Frame.exitConfig] at control

/-- A node whose ticks are too far apart for its own sequence asks on: it wakes up, loses a master,
is promoted, falls back from Operational, and is served by the sequence of 7. A second request,
made in System Configuration, outlasts the deadline of that mode as well as the exit sequence
of 7. -/
theorem twenty_asks_until_served :
    let twenty : Config := { Config.candidate 20 (by decide) with options := .none }
    let node := (Node.start twenty 0).value
    let asked : List Input :=
      [.requestEnter 0, .tick 500000 none, .tick 1000000 (some (Frame.sync 10 1)),
        .tick 1500000 none, .tick 2000000 (some (Frame.sync 10 2)),
        .tick 2008385 (some (Frame.sync 10 3)), .tick 2508385 none]
    let led : List Input := asked ++
      [.tick 2600000 none, .tick 2700000 (some (Frame.enterConfig 7 67)),
        .tick 2700001 (some (Frame.enterConfig 7 70)),
        .tick 2700002 (some (Frame.enterConfig 7 71))]
    let expired : List Input := led ++ [.requestEnter 2700003, .tick 10700002 none]
    let dismissed : List Input := led ++
      [.requestEnter 2700003, .tick 2700004 (some (Frame.exitConfig 7 79)),
        .tick 2700005 (some (Frame.exitConfig 7 80)), .tick 2700006 (some (Frame.exitConfig 7 82))]
    let start := (node.steps asked).take 5
    modes (node.run asked).events = [.preOperational, .operational, .preOperational] ∧
      node.Outstanding (node.steps asked) ∧
      Frame.enterConfig 20 67 ∈
        ((node.follow start).value.perform ⟨500000, .sendEnterByte⟩).transmit ∧
      node.Outstanding start ∧
      ¬ node.Outstanding (node.steps led) ∧
      (node.run expired).value.mode = .preOperational ∧
      node.Outstanding (node.steps expired) ∧
      (node.run dismissed).value.mode = .preOperational ∧
      node.Outstanding (node.steps dismissed) := by
  intro twenty node asked led expired dismissed start
  have run : modes (node.run asked).events = [.preOperational, .operational, .preOperational] ∧
      (node.run asked).value.enterRequest.pending = true ∧
      node.steps asked = start ++ ⟨500000, .sendEnterByte⟩ :: (node.steps asked).drop 6 ∧
      Frame.enterConfig 20 67 ∈
        ((node.follow start).value.perform ⟨500000, .sendEnterByte⟩).transmit ∧
      (node.run led).value.enterRequest.pending = false ∧
      (node.run expired).value.mode = .preOperational ∧
      (node.run expired).value.enterRequest.pending = true ∧
      (node.run dismissed).value.mode = .preOperational ∧
      (node.run dismissed).value.enterRequest.pending = true := by
    decide +kernel
  obtain ⟨modes, waiting, split, sent, served, ended, again, left, still⟩ := run
  have open_ (inputs : List Input) :
      (node.run inputs).value.enterRequest.pending = true ↔ node.Outstanding (node.steps inputs) :=
    (enter_request_stays_until_served twenty 0 inputs).2.1
  have early : node.Outstanding start :=
    (enter_request_stays_until_served twenty 0 asked).2.2 start _ _ split _ sent (by decide)
  have settled : ¬ node.Outstanding (node.steps led) := by
    rw [← open_ led, served]
    exact Bool.false_ne_true
  exact ⟨modes, (open_ asked).mp waiting, sent, early, settled, ended, (open_ expired).mp again,
    left, (open_ dismissed).mp still⟩

end Node

end VehicleBus
