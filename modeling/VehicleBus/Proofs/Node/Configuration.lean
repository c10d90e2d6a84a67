import VehicleBus.Proofs.Handshake.Window
import VehicleBus.Proofs.Node.Duties

/-!
The way into System Configuration. Whatever a node is given, it enters that mode with the
byte that completes the enter sequence and at no other moment. The bytes are those of
other nodes and those that it transmits itself, in one order; a node that came to
PreOperational in between starts afresh. Inside System Configuration the same byte moves
the deadline.

Every duty either handles one byte of the sequence or none. The listener follows the bytes
since PreOperational was entered last.
-/
namespace VehicleBus

open Handshake

/-- The byte of the enter sequence that a frame carries. -/
def Frame.enterByte? (frame : Frame) (now : Nat) : Option Heard :=
  if frame.id.control? = some .enterConfig then
    frame.payload.head?.map fun byte => ⟨now, frame.id.source, byte⟩
  else none

theorem Frame.enterByte?_of_other {frame : Frame}
    (other : frame.id.control? ≠ some .enterConfig) (now : Nat) : frame.enterByte? now = none :=
  if_neg other

@[simp] theorem Frame.enterByte?_enterConfig (source byte : UInt8) (now : Nat) :
    (Frame.enterConfig source byte).enterByte? now = some ⟨now, source, byte⟩ := by
  simp [enterByte?, enterConfig]

/-- Only copies of frames are told. -/
def Copies (events : List Notification) : Prop := ∀ event ∈ events, ∃ frame, event = .message frame

theorem Copies.nil : Copies [] := nofun

theorem Copies.modes_eq {events : List Notification} (copies : Copies events) :
    modes events = [] := by
  refine List.filterMap_eq_nil_iff.mpr fun event told => ?_
  obtain ⟨frame, rfl⟩ := copies event told
  rfl

theorem Reaction.Quiet.copies {α : Type} {reaction : Reaction α} (quiet : reaction.Quiet) :
    Copies reaction.events := by
  rw [quiet.untold]
  exact .nil

/-- What bears on an enter sequence under way. -/
inductive Mark where
  | heard (byte : Heard)
  /-- PreOperational was entered. -/
  | fresh
  deriving DecidableEq, Repr

/-- A byte completes the enter sequence after what came before it, the oldest first. -/
def Completes (marks : List Mark) (third : Heard) : Prop :=
  ∃ before first second, marks = before ++ [.heard first, .heard second] ∧
    third.Spells second first .enter

/-- The bytes since PreOperational was entered last, from marks with the newest first. -/
def latestBytes : List Mark → List Heard
  | .heard byte :: rest => byte :: latestBytes rest
  | .fresh :: _ => []
  | [] => []

/-- The latest bytes decide what completes the sequence. -/
theorem finishes_latestBytes_iff (marks : List Mark) (third : Heard) :
    third.Finishes .enter (latestBytes marks.reverse) ↔ Completes marks third := by
  constructor
  · intro finished
    match shape : marks.reverse, finished with
    | .heard second :: .heard first :: before, spelled =>
      refine ⟨before.reverse, first, second, ?_, spelled⟩
      rw [← List.reverse_reverse marks, shape]
      simp
  · rintro ⟨before, first, second, rfl, spelled⟩
    simpa [latestBytes, Heard.Finishes] using spelled

instance (marks : List Mark) (third : Heard) : Decidable (Completes marks third) :=
  decidable_of_iff _ (finishes_latestBytes_iff marks third)

namespace Node

/-- The frame of another node that a step takes in. -/
def taken (node : Node) (step : Step) : List Frame :=
  match step.duty with
  | .receive (some frame) => if frame.id.source = node.address then [] else [frame]
  | _ => []

/-- The bytes of the enter sequence that a node handles in a step: of other nodes, and its
own as it transmits them. -/
def handled (node : Node) (step : Step) : List Heard :=
  (node.taken step ++ (node.perform step).transmit).filterMap (·.enterByte? step.now)

/-- The marks of a step. -/
def stepMarks (node : Node) (step : Step) : List Mark :=
  (node.handled step).map .heard ++
    if .preOperational ∈ modes (node.perform step).events then [.fresh] else []

/-- The marks of a list of steps, the oldest first. -/
def marks (node : Node) : List Step → List Mark
  | [] => []
  | step :: rest => node.stepMarks step ++ (node.perform step).value.marks rest

theorem copies_transmitControl (node : Node) (frame : Frame) :
    Copies (node.transmitControl frame).events := by
  unfold transmitControl
  dsimp only
  split <;> simp [Copies]

theorem copies_delivery (node : Node) (frame : Frame) : Copies (node.delivery frame) := by
  unfold delivery
  dsimp only
  split <;> split <;> simp [Copies]

/-- What a reaction does with a node that handles no byte of the enter sequence: it does
not enter System Configuration, and its listener starts afresh with PreOperational. -/
structure Unheard (node : Node) (reaction : Reaction Node) : Prop where
  unasked : .systemConfiguration ∉ modes reaction.events
  kept : .preOperational ∉ modes reaction.events →
    reaction.value.enterListener = node.enterListener
  fresh : .preOperational ∈ modes reaction.events → reaction.value.enterListener.position = 0

namespace Unheard

variable {node : Node}

theorem silent {reaction : Reaction Node} (untold : modes reaction.events = [])
    (kept : reaction.value.enterListener = node.enterListener) : node.Unheard reaction where
  unasked := by simp [untold]
  kept _ := kept
  fresh told := by simp [untold] at told

theorem pure (node : Node) : node.Unheard (Pure.pure node) := silent rfl rfl

theorem bind {first : Reaction Node} {second : Node → Reaction Node}
    (start : node.Unheard first) (rest : first.value.Unheard (second first.value)) :
    node.Unheard (first >>= second) where
  unasked := by simp [start.unasked, rest.unasked]
  kept untold := by
    rw [Reaction.events_bind, modes_append, List.mem_append, not_or] at untold
    rw [Reaction.value_bind, rest.kept untold.2, start.kept untold.1]
  fresh told := by
    rw [Reaction.value_bind]
    by_cases late : .preOperational ∈ modes (second first.value).events
    · exact rest.fresh late
    · rw [Reaction.events_bind, modes_append, List.mem_append] at told
      rw [rest.kept late]
      exact start.fresh (told.resolve_right late)

theorem enterPreOperational (node : Node) (now : Nat) (other : node.mode ≠ .preOperational) :
    node.Unheard (node.enterPreOperational now) where
  unasked := by simp [other]
  kept untold := by simp [other] at untold
  fresh _ := rfl

theorem wake (node : Node) (now : Nat) : node.Unheard (node.wake now) := by
  unfold Node.wake
  split
  · rename_i off
    exact enterPreOperational node now (by rw [off]; decide)
  · exact pure node

theorem hearSync (node : Node) (now : Nat) (frame : Frame) :
    node.Unheard (node.hearSync now frame) := by
  obtain ⟨_, _, heard⟩ := value_hearSync node now frame
  exact silent (modes_hearSync node now frame) (by rw [heard])

/-- Copies may be told before. -/
theorem after_copies {α : Type} {first : Reaction α} {second : α → Reaction Node}
    (copies : Copies first.events) (rest : node.Unheard (second first.value)) :
    node.Unheard (first >>= second) where
  unasked := by simpa [copies.modes_eq] using rest.unasked
  kept := by simpa [copies.modes_eq] using rest.kept
  fresh := by simpa [copies.modes_eq] using rest.fresh

/-- A change elsewhere in the node may come before. -/
theorem after_change (changed : Node) {reaction : Reaction Node}
    (same : changed.enterListener = node.enterListener) (rest : changed.Unheard reaction) :
    node.Unheard reaction where
  unasked := rest.unasked
  kept untold := (rest.kept untold).trans same
  fresh := rest.fresh

theorem hearExitByte (node : Node) (now : Nat) (source byte : UInt8) :
    node.Unheard (node.hearExitByte now source byte) := by
  unfold Node.hearExitByte
  split
  · rename_i mode
    refine after_copies (node.exitListener.hear_quiet .exit now source byte).copies ?_
    generalize (node.exitListener.hear .exit now source byte).value = heard
    refine after_change { node with exitListener := heard.2 } rfl ?_
    unfold afterExitByte
    split
    · exact enterPreOperational _ now (by simp [mode])
    · exact pure _
  · exact pure node

theorem concludeExit (node : Node) (now : Nat) : node.Unheard (node.concludeExit now) := by
  unfold Node.concludeExit
  split
  · dsimp only
    split
    · rename_i mode
      refine after_change { node with exitRequest := node.exitRequest.cancel } rfl ?_
      exact enterPreOperational _ now (by rw [mode]; decide)
    · exact silent rfl rfl
  · exact pure node

theorem runSync (node : Node) (now : Nat) : node.Unheard (node.runSync now) := by
  obtain ⟨_, _, beaten⟩ := value_runSync node now
  exact silent (modes_runSync node now) (by rw [beaten])

theorem judgeMaster (node : Node) (now : Nat) : node.Unheard (node.judgeMaster now) where
  unasked told := nomatch modes_judgeMaster node now _ told
  fresh told := nomatch modes_judgeMaster node now _ told
  kept _ := by
    obtain ⟨_, _, _, judged⟩ := value_judgeMaster node now
    rw [judged]

theorem requestExit (node : Node) (now : Nat) : node.Unheard (node.requestExit now) := by
  unfold Node.requestExit
  split <;> exact silent rfl rfl

end Unheard

/-- A completing byte inside System Configuration: nothing but the deadline moves, apart
from the listener that heard the byte and the request that sent it. All the application
gets is a copy of the frame. -/
structure Refreshed (node : Node) (byte : Heard) (reaction : Reaction Node) : Prop where
  value : ∃ enterListener enterRequest,
    reaction.value =
      { node with
        deadline := some (byte.now + configurationTimeout), enterListener, enterRequest }
  foreign : byte.source ≠ node.address → reaction.value.enterRequest = node.enterRequest
  own : byte.source = node.address → reaction.value.enterRequest.pending = false
  copies : Copies reaction.events

/-- What a reaction does with a node that handles a byte of the enter sequence: the
listener hears it, and what follows is up to the verdict. -/
structure Hears (node : Node) (byte : Heard) (reaction : Reaction Node) : Prop where
  announced : modes reaction.events =
    if (node.enterListener.hear .enter byte.now byte.source byte.byte).value.1 = .complete ∧
      node.mode ≠ .systemConfiguration then [.systemConfiguration] else []
  listener : reaction.value.enterListener =
    (node.enterListener.hear .enter byte.now byte.source byte.byte).value.2
  refreshed : (node.enterListener.hear .enter byte.now byte.source byte.byte).value.1 = .complete →
    node.mode = .systemConfiguration → node.Refreshed byte reaction

/-- Copies may be told before a byte is heard. -/
theorem Hears.after_copies {node : Node} {byte : Heard} {α : Type} {first : Reaction α}
    {second : α → Reaction Node} (copies : Copies first.events)
    (rest : node.Hears byte (second first.value)) : node.Hears byte (first >>= second) where
  announced := by simpa [copies.modes_eq] using rest.announced
  listener := rest.listener
  refreshed complete mode :=
    have refreshed := rest.refreshed complete mode
    { value := refreshed.value
      foreign := refreshed.foreign
      own := refreshed.own
      copies := by
        intro event told
        rw [Reaction.events_bind, List.mem_append] at told
        exact told.elim (copies event) (refreshed.copies event) }

/-- The request that sent a byte may have moved on before the byte is heard. -/
theorem Hears.after_request {node : Node} {byte : Heard} (requester : Handshake.Requester)
    {reaction : Reaction Node} (own : byte.source = node.address)
    (rest : ({ node with enterRequest := requester } : Node).Hears byte reaction) :
    node.Hears byte reaction where
  announced := rest.announced
  listener := rest.listener
  refreshed complete mode :=
    have refreshed := rest.refreshed complete mode
    { value := refreshed.value
      foreign := fun foreign => absurd own foreign
      own := refreshed.own
      copies := refreshed.copies }

section Bytes

variable (node : Node) (now : Nat) (source byte : UInt8)

/-- A complete sequence in System Configuration moves the deadline and withdraws the
request that it served. -/
theorem refreshed_enterCompleted (listener : Handshake.Listener)
    (mode : node.mode = .systemConfiguration) :
    node.Refreshed ⟨now, source, byte⟩
      (({ node with enterListener := listener } : Node).enterCompleted now source) := by
  unfold enterCompleted
  dsimp only
  split
  · rename_i own
    exact ⟨⟨listener, _, rfl⟩, fun foreign => absurd own foreign, fun _ => rfl, .nil⟩
  · rename_i foreign
    exact ⟨⟨listener, _, rfl⟩, fun _ => rfl, fun own => absurd own foreign, .nil⟩

theorem enterListener_enterCompleted :
    (node.enterCompleted now source).value.enterListener = node.enterListener := by
  unfold enterCompleted
  dsimp only
  split <;> split <;> rfl

theorem hears_hearEnterByte :
    node.Hears ⟨now, source, byte⟩ (node.hearEnterByte now source byte) where
  announced := modes_hearEnterByte node now source byte
  listener := by
    rw [hearEnterByte, Reaction.value_bind, afterEnterByte]
    split
    · rw [enterListener_enterCompleted]
    · rfl
  refreshed complete mode := by
    have quiet := node.enterListener.hear_quiet .enter now source byte
    have refreshed := refreshed_enterCompleted node now source byte
      (node.enterListener.hear .enter now source byte).value.2 mode
    rw [hearEnterByte]
    exact
      { value := by simpa [afterEnterByte, complete] using refreshed.value
        foreign := by simpa [afterEnterByte, complete] using refreshed.foreign
        own := by simpa [afterEnterByte, complete] using refreshed.own
        copies := by simpa [afterEnterByte, complete, quiet.untold] using refreshed.copies }

end Bytes

/-- What a reaction means for the enter sequence: no byte of it is handled, or one is. -/
def Attends (node : Node) (bytes : List Heard) (reaction : Reaction Node) : Prop :=
  bytes = [] ∧ node.Unheard reaction ∨ ∃ byte, bytes = [byte] ∧ node.Hears byte reaction

namespace Attends

theorem unheard {node : Node} {reaction : Reaction Node} (rest : node.Unheard reaction) :
    node.Attends [] reaction := .inl ⟨rfl, rest⟩

/-- Copies may be told before. -/
theorem after_copies {node : Node} {bytes : List Heard} {α : Type} {first : Reaction α}
    {second : α → Reaction Node} (copies : Copies first.events)
    (rest : node.Attends bytes (second first.value)) : node.Attends bytes (first >>= second) := by
  obtain ⟨none, unheard⟩ | ⟨byte, one, hears⟩ := rest
  · exact .inl ⟨none, unheard.after_copies copies⟩
  · exact .inr ⟨byte, one, hears.after_copies copies⟩

end Attends

section Duties

variable (node : Node) (now : Nat)

/-- The byte that a single frame carries. -/
private theorem filterMap_enterByte? (frame : Frame) :
    [frame].filterMap (·.enterByte? now) = (frame.enterByte? now).toList := by
  cases carried : frame.enterByte? now <;> simp [carried]

/-- Frames of other kinds carry no byte of the enter sequence. -/
private theorem filterMap_enterByte?_of_other (frames : List Frame)
    (other : ∀ frame ∈ frames, frame.id.control? ≠ some .enterConfig) :
    frames.filterMap (·.enterByte? now) = [] :=
  List.filterMap_eq_nil_iff.mpr fun frame sent => Frame.enterByte?_of_other (other frame sent) now

theorem attends_obey (frame : Frame) (kind : ControlKind)
    (control : frame.id.control? = some kind) :
    node.Attends (frame.enterByte? now).toList (node.obey now kind frame) := by
  unfold Frame.enterByte? obey
  rw [control]
  cases kind with
  | sync => exact .unheard (.hearSync node now frame)
  | enterConfig =>
    cases frame.payload.head? with
    | none => exact .unheard (.pure node)
    | some byte => exact .inr ⟨_, rfl, hears_hearEnterByte node now frame.id.source byte⟩
  | exitConfig =>
    cases frame.payload.head? with
    | none => exact .unheard (.pure node)
    | some byte => exact .unheard (.hearExitByte node now frame.id.source byte)

theorem attends_receive (frame : Frame) :
    node.Attends (node.handled ⟨now, .receive (some frame)⟩) (node.receive now frame) := by
  unfold handled taken
  dsimp only [perform, receive?]
  rw [transmit_receive, List.append_nil]
  unfold receive
  split
  · exact .unheard (.pure node)
  · rw [filterMap_enterByte?]
    refine Attends.after_copies (copies_delivery node frame) ?_
    cases control : frame.id.control? with
    | none =>
      rw [Frame.enterByte?_of_other (by rw [control]; decide)]
      exact .unheard (.pure node)
    | some kind => exact attends_obey node now frame kind control

theorem attends_sendEnterByte :
    node.Attends (node.handled ⟨now, .sendEnterByte⟩) (node.runEnterRequest now) := by
  have quiet := node.enterRequest.poll_quiet .enter now node.timing.ptu
  unfold handled taken
  dsimp only [perform]
  rw [List.nil_append, runEnterRequest, Reaction.transmit_bind, quiet.unsent, List.nil_append]
  refine Attends.after_copies quiet.copies ?_
  generalize (node.enterRequest.poll .enter now node.timing.ptu).value = polled
  rcases polled with ⟨none | byte, requester⟩
  · exact .unheard (.silent rfl rfl)
  · refine .inr ⟨⟨now, node.address, byte⟩, ?_, .after_request requester rfl ?_⟩
    · simp [sendEnterByte, transmitControl, address]
    · exact .after_copies (copies_transmitControl _ _) (hears_hearEnterByte _ now _ byte)

theorem attends_sendExitByte :
    node.Attends (node.handled ⟨now, .sendExitByte⟩) (node.runExitRequest now) := by
  have quiet := node.exitRequest.poll_quiet .exit now node.timing.ptu
  unfold handled taken
  dsimp only [perform]
  rw [List.nil_append, runExitRequest, Reaction.transmit_bind, quiet.unsent, List.nil_append]
  refine Attends.after_copies quiet.copies ?_
  generalize (node.exitRequest.poll .exit now node.timing.ptu).value = polled
  rcases polled with ⟨none | byte, requester⟩
  · exact .unheard (.silent rfl rfl)
  · refine .inl ⟨filterMap_enterByte?_of_other now _ ?_,
      .after_change { node with exitRequest := requester } rfl ?_⟩
    · simp [sendExitByte, transmitControl, Frame.exitConfig]
    · refine .after_copies (copies_transmitControl _ _) ?_
      exact .bind (.hearExitByte _ now _ byte) (.concludeExit _ now)

/-- A sync is no byte of the enter sequence. -/
theorem attends_beat : node.Attends (node.handled ⟨now, .beat⟩) (node.runSync now) := by
  refine .inl ⟨filterMap_enterByte?_of_other now _ ?_, .runSync node now⟩
  dsimp only [taken, perform]
  rw [List.nil_append]
  cases due : (node.timeBase.isDue node.station now).value with
  | false => simp [(runSync_of_not_due node now due).1.unsent]
  | true => simp [(runSync_of_due node now due).1]

/-- What each duty means for the enter sequence. -/
theorem attends_perform (step : Step) (sound : step.duty = .abandon → node.mode ≠ .preOperational) :
    node.Attends (node.handled step) (node.perform step) := by
  obtain ⟨now, duty⟩ := step
  cases duty with
  | wake =>
    refine .inl ⟨?_, .wake node now⟩
    simp [handled, taken, perform]
  | receive frame =>
    cases frame with
    | none => exact .unheard (.pure node)
    | some frame => exact attends_receive node now frame
  | beat => exact attends_beat node now
  | judge =>
    refine .inl ⟨?_, .judgeMaster node now⟩
    simp [handled, taken, perform]
  | abandon => exact .unheard (.enterPreOperational node now (sound rfl))
  | sendEnterByte => exact attends_sendEnterByte node now
  | sendExitByte => exact attends_sendExitByte node now
  | requestEnter => exact .unheard (.silent rfl rfl)
  | requestExit =>
    refine .inl ⟨?_, .requestExit node now⟩
    have unsent : (node.requestExit now).transmit = [] := by
      unfold requestExit
      split <;> rfl
    simp [handled, taken, perform, unsent]

end Duties

/-- The listener of the enter sequence follows the bytes that marks, the newest first,
tell. -/
def Tracks (node : Node) (marks : List Mark) : Prop :=
  node.enterListener.Follows .enter (latestBytes marks)

section Marks

variable {node : Node} {step : Step} {marks : List Mark}

theorem stepMarks_of_unheard (none : node.handled step = []) :
    node.stepMarks step =
      if .preOperational ∈ modes (node.perform step).events then [.fresh] else [] := by
  simp [stepMarks, none]

theorem stepMarks_of_hears {byte : Heard} (one : node.handled step = [byte])
    (hears : node.Hears byte (node.perform step)) : node.stepMarks step = [.heard byte] := by
  have stays : .preOperational ∉ modes (node.perform step).events := by
    rw [hears.announced]
    split <;> simp
  simp [stepMarks, one, stays]

/-- A step keeps the listener in line with the marks. -/
theorem Tracks.perform (tracks : node.Tracks marks)
    (sound : step.duty = .abandon → node.mode ≠ .preOperational) :
    (node.perform step).value.Tracks ((node.stepMarks step).reverse ++ marks) := by
  unfold Tracks
  obtain ⟨none, unheard⟩ | ⟨byte, one, hears⟩ := attends_perform node step sound
  · rw [stepMarks_of_unheard none]
    split
    · rename_i told
      exact Handshake.Listener.follows_start .enter _ (unheard.fresh told)
    · rename_i untold
      rw [unheard.kept untold]
      exact tracks
  · rw [stepMarks_of_hears one hears, hears.listener]
    exact (Handshake.Listener.hear_answers byte tracks).1

theorem Tracks.follow {steps : List Step} (tracks : node.Tracks marks) (sound : node.Sound steps) :
    (node.follow steps).value.Tracks ((node.marks steps).reverse ++ marks) := by
  induction steps generalizing node marks with
  | nil => exact tracks
  | cons step rest ih =>
    have after := ih (tracks.perform sound.1) sound.2
    rw [Node.marks, List.reverse_append, List.append_assoc]
    exact after

/-- A step of a node whose listener is in line with the marks enters System Configuration
exactly with a byte that completes the sequence. -/
theorem Tracks.entered_iff (tracks : node.Tracks marks.reverse)
    (sound : step.duty = .abandon → node.mode ≠ .preOperational) :
    .systemConfiguration ∈ modes (node.perform step).events ↔
      node.mode ≠ .systemConfiguration ∧ ∃ byte ∈ node.handled step, Completes marks byte := by
  obtain ⟨none, unheard⟩ | ⟨byte, one, hears⟩ := attends_perform node step sound
  · simp [none, unheard.unasked]
  · have verdict := (Handshake.Listener.hear_answers byte tracks).2
    rw [finishes_latestBytes_iff] at verdict
    rw [hears.announced, one]
    by_cases complete : Completes marks byte
    · by_cases mode : node.mode = .systemConfiguration
      · simp [mode]
      · simp [mode, complete, verdict.mpr complete]
    · have other := mt verdict.mp complete
      simp [other, complete]

end Marks

end Node

/-- What a step does about System Configuration, said by the marks that came before it: it
enters the mode with a completing byte only, and there such a byte moves the deadline. -/
structure Node.Admits (node : Node) (marks : List Mark) (step : Node.Step) : Prop where
  /-- A step handles one byte at most, so what it does then is the handling of that byte. -/
  single : (node.handled step).length ≤ 1
  once : (node.perform step).events.count (.modeChanged .systemConfiguration) ≤ 1
  entered : .modeChanged .systemConfiguration ∈ (node.perform step).events ↔
    node.mode ≠ .systemConfiguration ∧ ∃ byte ∈ node.handled step, Completes marks byte
  refreshed : ∀ byte ∈ node.handled step, Completes marks byte →
    node.mode = .systemConfiguration → node.Refreshed byte (node.perform step)

theorem Node.Tracks.admits {node : Node} {marks : List Mark} {step : Node.Step}
    (tracks : node.Tracks marks.reverse)
    (sound : step.duty = .abandon → node.mode ≠ .preOperational) : node.Admits marks step := by
  have entered := tracks.entered_iff sound
  rw [mem_modes_iff] at entered
  obtain ⟨none, unheard⟩ | ⟨byte, one, hears⟩ := Node.attends_perform node step sound
  · refine ⟨by simp [none], ?_, entered, by simp [none]⟩
    rw [← count_modes, List.count_eq_zero_of_not_mem unheard.unasked]
    exact Nat.zero_le 1
  · refine ⟨by simp [one], ?_, entered, ?_⟩
    · rw [← count_modes, hears.announced]
      split <;> decide
    · rw [one]
      intro heard member complete mode
      rw [List.mem_singleton.mp member] at complete ⊢
      have verdict := (Handshake.Listener.hear_answers byte tracks).2
      rw [finishes_latestBytes_iff] at verdict
      exact hears.refreshed (verdict.mpr complete) mode

/-- Over every run of a node, System Configuration is entered exactly with the bytes that
complete the enter sequence outside of it, each once, and a byte that completes the sequence
inside moves the deadline and no more. The steps are those of the run in their order. -/
theorem complete_sequence_enters_configuration (config : Config) (origin : Nat)
    (inputs : List Node.Input) :
    let node := (Node.start config origin).value
    node.follow (node.steps inputs) = node.run inputs ∧
      ∀ earlier step later, node.steps inputs = earlier ++ step :: later →
        (node.follow earlier).value.Admits (node.marks earlier) step := by
  intro node
  refine ⟨Node.follow_steps node inputs, ?_⟩
  intro earlier step later split
  have sound := Node.sound_steps node inputs
  rw [split, Node.sound_append] at sound
  have start : node.Tracks [] := Handshake.Listener.follows_start .enter _ rfl
  have tracks := start.follow sound.1
  rw [List.append_nil] at tracks
  exact tracks.admits sound.2.1

/-- A node that hears CFG twice, with the longest gaps allowed the first time, enters System
Configuration with the first G and has its deadline moved by the second. -/
theorem seven_configures_ten :
    let node := (Node.start (Config.candidate 10 (by decide)) 0).value
    let letter (now : Nat) (byte : UInt8) : Node.Input :=
      .tick now (some (Frame.enterConfig 7 byte))
    let steps := node.steps
      [letter 0 67, letter 400000 70, letter 800000 71,
        letter 800001 67, letter 800002 70, letter 800003 71]
    let last (now : Nat) : Node.Step := ⟨now, .receive (some (Frame.enterConfig 7 71))⟩
    .modeChanged .systemConfiguration ∈
        ((node.follow (steps.take 11)).value.perform (last 800000)).events ∧
      (node.follow (steps.take 23)).value.Refreshed ⟨800003, 7, 71⟩
        ((node.follow (steps.take 23)).value.perform (last 800003)) := by
  intro node letter steps last
  have run :
      let node := (Node.start (Config.candidate 10 (by decide)) 0).value
      let letter (now : Nat) (byte : UInt8) : Node.Input :=
        .tick now (some (Frame.enterConfig 7 byte))
      let steps := node.steps
        [letter 0 67, letter 400000 70, letter 800000 71,
          letter 800001 67, letter 800002 70, letter 800003 71]
      let last (now : Nat) : Node.Step := ⟨now, .receive (some (Frame.enterConfig 7 71))⟩
      steps = steps.take 11 ++ last 800000 :: steps.drop 12 ∧
        steps = steps.take 23 ++ last 800003 :: steps.drop 24 ∧
        (node.follow (steps.take 11)).value.mode ≠ .systemConfiguration ∧
        (node.follow (steps.take 23)).value.mode = .systemConfiguration ∧
        ⟨800000, 7, 71⟩ ∈ (node.follow (steps.take 11)).value.handled (last 800000) ∧
        ⟨800003, 7, 71⟩ ∈ (node.follow (steps.take 23)).value.handled (last 800003) ∧
        node.marks (steps.take 11) =
          [.fresh] ++ [.heard ⟨0, 7, 67⟩, .heard ⟨400000, 7, 70⟩] ∧
        node.marks (steps.take 23) =
          (node.marks (steps.take 23)).take 4 ++
            [.heard ⟨800001, 7, 67⟩, .heard ⟨800002, 7, 70⟩] := by
    decide +kernel
  obtain ⟨first, second, outside, inside, entering, refreshing, firstMarks, secondMarks⟩ := run
  have admits := (complete_sequence_enters_configuration (Config.candidate 10 (by decide)) 0
    [letter 0 67, letter 400000 70, letter 800000 71,
      letter 800001 67, letter 800002 70, letter 800003 71]).2
  have complete : Completes (node.marks (steps.take 11)) ⟨800000, 7, 71⟩ :=
    ⟨_, _, _, firstMarks, by decide⟩
  have again : Completes (node.marks (steps.take 23)) ⟨800003, 7, 71⟩ :=
    ⟨_, _, _, secondMarks, by decide⟩
  exact ⟨(admits _ _ _ first).entered.mpr ⟨outside, _, entering, complete⟩,
    (admits _ _ _ second).refreshed _ refreshing again inside⟩

end VehicleBus
