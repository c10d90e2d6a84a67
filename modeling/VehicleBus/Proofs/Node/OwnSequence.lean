import VehicleBus.Proofs.Node.ModeGraph
import VehicleBus.Proofs.Node.Roots

/-!
A node follows its own enter sequence like that of any other node. What it sends it marks as
heard, and three marks in a row that spell the sequence lead to System Configuration, whoever sent
the bytes.

In a row means that nothing came in between that a listener starts afresh for. A return to
PreOperational is such a thing: it makes a node forget the bytes so far, its own ones too, though
its request goes on with the next one. And a node whose exit sequence is out with the same tick
leaves System Configuration at once.
-/
namespace VehicleBus.Node

open Handshake

section Marks

variable {node : Node} {step : Step}

/-- What a step announces is a path from the mode before it to the mode after it. -/
theorem travels_perform (node : Node) (step : Step) (fits : node.Fits step) :
    Travels node (node.perform step).transmit (node.perform step).events
      (node.perform step).value :=
  perform_obeys travels_stages node step fits

/-- The only way out of System Configuration is PreOperational. -/
theorem Travels.configuring {before after : Node} {sent : List Frame}
    {events : List Notification} (travels : Travels before sent events after)
    (mode : before.mode = .systemConfiguration) (unleft : .preOperational ∉ modes events) :
    after.mode = .systemConfiguration := by
  obtain ⟨chain, reached⟩ := travels
  rw [mode] at chain reached
  cases told : modes events with
  | nil =>
    rw [told] at reached
    exact reached.symm
  | cons first rest =>
    rw [told] at chain unleft
    have edge : first ∈ [Mode.preOperational] := (List.isChain_cons_cons.mp chain).1
    rw [List.mem_singleton.mp edge] at unleft
    exact absurd List.mem_cons_self unleft

/-- A step without marks handles no byte and does not enter PreOperational. -/
theorem unmarked_iff : node.stepMarks step = [] ↔
    node.handled step = [] ∧ .preOperational ∉ modes (node.perform step).events := by
  simp [stepMarks]

/-- Steps without marks stay in System Configuration. -/
theorem configuring_of_unmarked {steps : List Step} (fitting : node.Fitting steps)
    (mode : node.mode = .systemConfiguration) (unmarked : node.marks steps = []) :
    (node.follow steps).value.mode = .systemConfiguration := by
  induction steps generalizing node with
  | nil => exact mode
  | cons step rest ih =>
    rw [marks, List.append_eq_nil_iff] at unmarked
    have travels := travels_perform node step fitting.1
    exact ih fitting.2 (travels.configuring mode (unmarked_iff.mp unmarked.1).2) unmarked.2

/-- The byte that completes the sequence leads to System Configuration, or finds the node there. -/
theorem configuring_of_completes {before : List Mark} {byte : Heard}
    (tracks : node.Tracks before.reverse) (fits : node.Fits step)
    (hears : node.Hears byte (node.perform step)) (complete : Completes before byte) :
    (node.perform step).value.mode = .systemConfiguration := by
  have travels := travels_perform node step fits
  have verdict := (Listener.hear_answers byte tracks).2
  rw [finishes_latestBytes_iff] at verdict
  have announced := hears.announced
  by_cases inside : node.mode = .systemConfiguration
  · rw [if_neg fun entered => entered.2 inside] at announced
    refine travels.configuring inside ?_
    rw [announced]
    exact List.not_mem_nil
  · rw [if_pos ⟨verdict.mpr complete, inside⟩] at announced
    obtain ⟨-, reached⟩ := travels
    rw [announced] at reached
    exact reached.symm

/-- Steps whose only mark is the byte that completes the sequence end in System Configuration. -/
theorem configuring_of_marks {steps : List Step} {before : List Mark} {third : Heard}
    (tracks : node.Tracks before.reverse) (fitting : node.Fitting steps)
    (only : node.marks steps = [.heard third]) (complete : Completes before third) :
    (node.follow steps).value.mode = .systemConfiguration := by
  induction steps generalizing node with
  | nil => cases only
  | cons step rest ih =>
    rw [marks] at only
    obtain ⟨none, unheard⟩ | ⟨byte, one, hears⟩ := attends_perform node step fitting.1.sound
    · -- Entering PreOperational would be a mark of its own.
      have unmarked : node.stepMarks step = [] := by
        rw [stepMarks_of_unheard none] at only ⊢
        split at only
        · cases only
        · rename_i untold
          rw [if_neg untold]
      have tracked := tracks.perform fitting.1.sound
      rw [unmarked, List.reverse_nil, List.nil_append] at tracked
      rw [unmarked, List.nil_append] at only
      exact ih tracked fitting.2 only
    · rw [stepMarks_of_hears one hears, List.singleton_append, List.cons_eq_cons] at only
      obtain ⟨same, unmarked⟩ := only
      rw [Mark.heard.inj same] at hears
      have entered := configuring_of_completes tracks fitting.1 hears complete
      have stays := configuring_of_unmarked fitting.2 entered unmarked
      exact stays

end Marks

section OwnBytes

variable {node : Node} {byte : UInt8} {now instant : Nat}

/-- The marks of a node's own bytes are those of the frames it sends. -/
theorem own_mark_iff (node : Node) (step : Step) (byte : UInt8) (instant : Nat) :
    .heard ⟨instant, node.address, byte⟩ ∈ node.stepMarks step ↔
      instant = step.now ∧ Frame.enterConfig node.address byte ∈ (node.perform step).transmit := by
  have heard : .heard ⟨instant, node.address, byte⟩ ∈ node.stepMarks step ↔
      ⟨instant, node.address, byte⟩ ∈ node.handled step := by
    simp [stepMarks]
  rw [heard, handled, List.mem_filterMap]
  constructor
  · rintro ⟨frame, member, carried⟩
    rcases List.mem_append.mp member with taken | sent
    · exfalso
      unfold Frame.enterByte? at carried
      split at carried
      · obtain ⟨first, -, same⟩ := Option.map_eq_some_iff.mp carried
        exact foreign_of_taken taken (congrArg Heard.source same)
      · cases carried
    · cases sends_perform node step sent with
      | sync => simp [Frame.enterByte?] at carried
      | enterByte own =>
        rw [Frame.enterByte?_enterConfig] at carried
        cases carried
        exact ⟨rfl, sent⟩
      | exitByte => simp [Frame.enterByte?, Frame.exitConfig] at carried
  · rintro ⟨rfl, sent⟩
    exact ⟨_, List.mem_append_right _ sent, Frame.enterByte?_enterConfig node.address byte step.now⟩

theorem own_marks_iff {steps : List Step} (fitting : node.Fitting steps)
    (instants : ∀ step ∈ steps, step.now = now) :
    .heard ⟨instant, node.address, byte⟩ ∈ node.marks steps ↔
      instant = now ∧ Frame.enterConfig node.address byte ∈ (node.follow steps).transmit := by
  induction steps generalizing node with
  | nil => simp [marks, follow]
  | cons step rest ih =>
    have address : (node.perform step).value.address = node.address :=
      congrArg Config.address (config_perform node step fitting.1)
    have first := own_mark_iff node step byte instant
    have later := ih fitting.2 fun step member => instants step (List.mem_cons_of_mem _ member)
    rw [address] at later
    rw [instants step List.mem_cons_self] at first
    rw [marks, follow, Reaction.transmit_bind, List.mem_append, List.mem_append, first, later,
      and_or_left]

theorem own_marks_tick_iff (node : Node) (now : Nat) (frame : Option Frame) (byte : UInt8)
    (instant : Nat) :
    .heard ⟨instant, node.address, byte⟩ ∈ node.marks (node.inputSteps (.tick now frame)) ↔
      instant = now ∧
        Frame.enterConfig node.address byte ∈ (node.tick now frame).transmit := by
  have instants : ∀ step ∈ node.inputSteps (.tick now frame), step.now = now := by
    intro step member
    obtain ⟨duty, -, rfl⟩ := List.mem_map.mp member
    rfl
  rw [own_marks_iff (fitting_inputSteps node (.tick now frame)) instants, follow_inputSteps, react]

end OwnBytes

end VehicleBus.Node

namespace VehicleBus

open Handshake

/-- Over every run of a node, the bytes of the enter sequence that a tick sends are marked as heard
from the node itself, at the instant of the tick. And if C and F were the latest marks of a run,
from one source and not too far apart, and G, in time and from the same source, is the only mark
of the next tick, then that tick ends in System Configuration: the node's own bytes do for it what
the bytes of any other node do. -/
theorem own_sequence_is_followed (config : Config) (origin : Nat) (inputs : List Node.Input) :
    let node := (Node.start config origin).value
    let reached := (node.run inputs).value
    (∀ now frame byte instant,
      .heard ⟨instant, config.address, byte⟩ ∈
          reached.marks (reached.inputSteps (.tick now frame)) ↔
        instant = now ∧
          Frame.enterConfig config.address byte ∈ (reached.tick now frame).transmit) ∧
      ∀ before source first second now frame,
        node.marks (node.steps inputs) =
            before ++ [.heard ⟨first, source, 67⟩, .heard ⟨second, source, 70⟩] →
          reached.marks (reached.inputSteps (.tick now frame)) = [.heard ⟨now, source, 71⟩] →
          second ≤ first + maxGap → now ≤ second + maxGap →
          (reached.tick now frame).value.mode = .systemConfiguration := by
  intro node reached
  constructor
  · intro now frame byte instant
    have address : reached.address = config.address :=
      congrArg Config.address (Node.config_run node inputs)
    rw [← address]
    exact reached.own_marks_tick_iff now frame byte instant
  · intro before source first second now frame earlier last soon sooner
    have start : node.Tracks [] := Listener.follows_start .enter _ rfl
    have tracks := start.follow (Node.sound_steps node inputs)
    rw [List.append_nil, Node.follow_steps] at tracks
    have complete : Completes (node.marks (node.steps inputs)) ⟨now, source, 71⟩ :=
      ⟨before, ⟨first, source, 67⟩, ⟨second, source, 70⟩, earlier,
        ⟨rfl, rfl, rfl, soon⟩, rfl, rfl, sooner⟩
    have ended := Node.configuring_of_marks tracks
      (Node.fitting_inputSteps reached (.tick now frame)) last complete
    rwa [Node.follow_inputSteps] at ended

/-- A node alone on the bus that is asked for System Configuration leads itself there. -/
theorem twenty_follows_itself :
    let twenty : Config := { Config.candidate 20 (by decide) with options := .none }
    let inputs : List Node.Input :=
      [.tick 0 none, .requestEnter 1000, .tick 1000 none, .tick 8813 none]
    let reached := ((Node.start twenty 0).value.run inputs).value
    Frame.enterConfig 20 71 ∈ (reached.tick 16626 none).transmit ∧
      (reached.tick 16626 none).value.mode = .systemConfiguration := by
  intro twenty inputs
  obtain ⟨sends, configures⟩ := own_sequence_is_followed twenty 0 inputs
  have earlier : (Node.start twenty 0).value.marks ((Node.start twenty 0).value.steps inputs) =
      [.fresh] ++ [.heard ⟨1000, 20, 67⟩, .heard ⟨8813, 20, 70⟩] := by decide +kernel
  have last : ((Node.start twenty 0).value.run inputs).value.marks
      (((Node.start twenty 0).value.run inputs).value.inputSteps (.tick 16626 none)) =
        [.heard ⟨16626, 20, 71⟩] := by decide +kernel
  have sent := ((sends 16626 none 71 16626).mp (last ▸ List.mem_singleton_self _)).2
  have ended := configures [.fresh] 20 1000 8813 16626 none earlier last (by decide) (by decide)
  exact ⟨sent, ended⟩

/-- A return to PreOperational costs a node its own sequence. The one whose watchdog ran out
between C and F sends its G in vain, and the one whose exit sequence ends with the same tick is
refreshed by its G and leaves all the same. -/
theorem own_sequence_is_lost_on_return :
    let twenty : Config := { Config.candidate 20 (by decide) with options := .none }
    let watched : List Node.Input :=
      [.tick 0 none, .tick 1000 (some (Frame.sync 10 1)), .tick 8813 (some (Frame.sync 10 2)),
        .tick 9385 none, .requestEnter 70000, .tick 70000 none, .tick 71889 none,
        .tick 77813 none]
    let fallen := ((Node.start twenty 0).value.run watched).value
    let twelve : Config := { Config.candidate 12 (by decide) with options := .none }
    let led : List Node.Input :=
      [.tick 0 (some (Frame.enterConfig 7 67)), .tick 1 (some (Frame.enterConfig 7 70)),
        .tick 2 (some (Frame.enterConfig 7 71)), .requestEnter 3, .requestExit 3, .tick 3 none,
        .tick 7816 none]
    let leaving := ((Node.start twelve 0).value.run led).value
    ((Node.start twenty 0).value.marks ((Node.start twenty 0).value.steps watched) =
        [.fresh, .heard ⟨70000, 20, 67⟩, .fresh, .heard ⟨77813, 20, 70⟩] ∧
      fallen.marks (fallen.inputSteps (.tick 85626 none)) = [.heard ⟨85626, 20, 71⟩] ∧
      (fallen.tick 85626 none).transmit = [Frame.enterConfig 20 71] ∧
      (fallen.tick 85626 none).value.mode = .preOperational) ∧
    (Node.start twelve 0).value.marks ((Node.start twelve 0).value.steps led) =
        [.fresh, .heard ⟨0, 7, 67⟩, .heard ⟨1, 7, 70⟩, .heard ⟨2, 7, 71⟩,
          .heard ⟨3, 12, 67⟩, .heard ⟨7816, 12, 70⟩] ∧
      leaving.marks (leaving.inputSteps (.tick 15629 none)) = [.heard ⟨15629, 12, 71⟩, .fresh] ∧
      (leaving.tick 15629 none).transmit =
        [Frame.enterConfig 12 71, Frame.exitConfig 12 82] ∧
      (leaving.tick 15629 none).value.mode = .preOperational := by
  intro twenty watched fallen twelve led leaving
  refine ⟨⟨?_, ?_, ?_, ?_⟩, ?_, ?_, ?_, ?_⟩
  all_goals decide +kernel

end VehicleBus
