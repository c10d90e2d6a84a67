import VehicleBus.Proofs.Node.Exits
import VehicleBus.Proofs.Node.Mastery

/-!
The way out of System Configuration, told by the bytes of both handshakes. A tick leaves the
mode for one of three reasons: the exit sequence of another node is complete, no enter
sequence was complete for eight seconds, or the node has sent the whole exit sequence itself.
They are looked at in this order, and each of them ends in the same state.

Whoever left does not speak of leaving again before he is asked to, and can be asked in System
Configuration only.
-/
namespace VehicleBus.Node

open Handshake

/-- The bytes of the exit sequence that came up since System Configuration was entered last,
the oldest first. -/
def exitTrail (node : Node) (steps : List Step) : List Heard :=
  node.memory (fun after => decide (after.mode = .systemConfiguration))
    (fun before step => before.exitBytes step) [] steps

/-- The instants at which the enter sequence was complete, the oldest first. The marks tell
what came before. -/
def completions (node : Node) (marks : List Mark) : List Step → List Nat
  | [] => []
  | step :: rest =>
    (if ∃ byte ∈ node.handled step, Completes marks byte then [step.now] else []) ++
      (node.perform step).value.completions (marks ++ node.stepMarks step) rest

/-- Inside System Configuration the listener is in line with the bytes of the exit sequence. -/
def Overhears (node : Node) (trail : List Heard) : Prop :=
  if node.mode = .systemConfiguration then node.exitListener.Follows .exit trail.reverse
  else trail = []

/-- Inside System Configuration the deadline is that of the latest completion. -/
def Lasts (node : Node) (completed : List Nat) : Prop :=
  node.mode = .systemConfiguration →
    ∃ latest ∈ completed.getLast?, node.deadline = some (latest + configurationTimeout)

section Invariants

variable {node : Node} {trail : List Heard} {completed : List Nat} {marks : List Mark}

theorem Overhears.perform (overhears : node.Overhears trail) (step : Step)
    (fits : node.Fits step) :
    (node.perform step).value.Overhears
      (if decide ((node.perform step).value.mode = .systemConfiguration) then
        trail ++ node.exitBytes step else []) := by
  unfold Overhears at overhears ⊢
  have exits := exits_perform node step fits
  by_cases inside : (node.perform step).value.mode = .systemConfiguration
  · rw [if_pos inside, if_pos (decide_eq_true inside)]
    by_cases before : node.mode = .systemConfiguration
    · rw [if_pos before] at overhears
      exact exits.follows before inside overhears
    · rw [if_neg before] at overhears
      cases exits with
      | outside _ _ entered =>
        obtain ⟨zero, none⟩ := entered inside
        rw [overhears, none]
        exact Listener.follows_start .exit _ zero
      | inside mode => exact absurd mode before
      | leaves mode => exact absurd mode before
  · rw [if_neg inside, if_neg (by simpa using inside)]

theorem Overhears.follow (overhears : node.Overhears []) {steps : List Step}
    (fitting : node.Fitting steps) :
    (node.follow steps).value.Overhears (node.exitTrail steps) :=
  memory_induction _ _ (fun _ _ step fits overhears => overhears.perform step fits) overhears
    fitting

/-- A step that completes the enter sequence sets the deadline, and no other one in System
Configuration moves it. -/
theorem Lasts.perform (lasts : node.Lasts completed) (tracks : node.Tracks marks.reverse)
    (step : Step) (fits : node.Fits step) :
    (node.perform step).value.Lasts (completed ++
      if ∃ byte ∈ node.handled step, Completes marks byte then [step.now] else []) := by
  intro inside
  have completing := tracks.completing_iff step
  cases moves_perform node step fits with
  | rests _ incomplete mode _ deadline =>
    rw [if_neg (mt completing.mpr incomplete), List.append_nil, deadline]
    exact lasts (mode.symm.trans inside)
  | syncs _ _ fed => exact absurd (fed.mode.symm.trans inside) fed.synchronizes.not_configuring
  | opens _ _ _ mode => exact nomatch mode.symm.trans inside
  | promotes _ _ _ _ mode => exact nomatch mode.symm.trans inside
  | configures _ complete _ _ deadline =>
    rw [if_pos (completing.mp complete)]
    exact ⟨step.now, List.getLast?_concat, deadline⟩

theorem Lasts.follow (lasts : node.Lasts completed) (tracks : node.Tracks marks.reverse)
    {steps : List Step} (fitting : node.Fitting steps) :
    (node.follow steps).value.Lasts (completed ++ node.completions marks steps) := by
  induction steps generalizing node completed marks with
  | nil => simpa [completions, follow] using lasts
  | cons step rest ih =>
    have next := tracks.perform fitting.1.sound
    rw [← List.reverse_append] at next
    rw [completions, ← List.append_assoc]
    exact ih (lasts.perform tracks step fitting.1) next fitting.2

theorem Lasts.expired_iff (lasts : node.Lasts completed) (mode : node.mode = .systemConfiguration)
    (now : Nat) :
    node.expired now = true ↔
      ∃ latest ∈ completed.getLast?, latest + configurationTimeout ≤ now := by
  obtain ⟨latest, last, due⟩ := lasts mode
  have expired : node.expired now = true ↔ latest + configurationTimeout ≤ now := by
    rw [Node.expired, due, Option.any_some, decide_eq_true_iff]
  rw [expired]
  constructor
  · exact fun elapsed => ⟨latest, last, elapsed⟩
  · rintro ⟨other, same, elapsed⟩
    cases last.symm.trans same
    exact elapsed

end Invariants

/-- A node that has left System Configuration: the election is open, and nobody waits to send
bytes of the exit sequence. -/
structure Departed (node : Node) : Prop where
  mode : node.mode = .preOperational
  vacant : node.timeBase.master = none
  idle : node.exitRequest.pending = false

section Departure

variable {node : Node} {now : Nat}

theorem departed_of_left (parting : Node) (now : Nat) :
    (parting.enterPreOperational now).value.Departed := ⟨rfl, rfl, rfl⟩

/-- A listener that starts afresh is not complete with the first byte. -/
theorem incomplete_of_fresh (sequence : Sequence) (listener : Listener) (source byte : UInt8)
    (zero : listener.position = 0) :
    (listener.hear sequence now source byte).value.1 ≠ .complete :=
  (Listener.hear_answers ⟨now, source, byte⟩ (Listener.follows_start sequence listener zero)).2.mp

/-- The timers find nothing to decide where the election was just opened. -/
theorem departed_runTimers (parting : Node) (now : Nat) :
    ((parting.enterPreOperational now).value.runTimers now).value.Departed := by
  have early := not_due_of_fresh (parting.enterPreOperational now).value now rfl
  have still := (runSync_of_not_due (parting.enterPreOperational now).value now early).2
  have timers : ((parting.enterPreOperational now).value.runTimers now).value =
      ((parting.enterPreOperational now).value.runEnterRequest now).value := by
    show (((runSync _ now).value.judgeMaster now).value.runEnterRequest now).value = _
    rw [still]
    rfl
  rw [timers]
  obtain ⟨_, -, value⟩ | ⟨byte, requester, -, value⟩ :=
    runEnterRequest_cases (parting.enterPreOperational now).value now
  · rw [value]
    exact ⟨rfl, rfl, rfl⟩
  · rw [value, value_hearEnterByte_of_incomplete]
    · exact ⟨rfl, rfl, rfl⟩
    · exact incomplete_of_fresh .enter _ _ byte rfl

theorem farewell_of_config {after : Node} (config : after.config = node.config) :
    after.farewell = node.farewell := by
  rw [farewell, farewell, address, address, config]

/-- As long as the deadline has not come, the farewell decides whether the timers leave. -/
theorem runTimers_of_configuring (mode : node.mode = .systemConfiguration)
    (running : ¬ node.expired now = true) :
    (node.farewell ∈ (node.runTimers now).transmit ∧ (node.runTimers now).value.Departed) ∨
      (node.farewell ∉ (node.runTimers now).transmit ∧
        (node.runTimers now).value.mode = .systemConfiguration) := by
  have timers : node.runTimers now = node.runRequests now := by
    simp only [runTimers, mode, runSystemConfiguration, if_neg running]
  have entering : node.farewell ∉ (node.runEnterRequest now).transmit := by
    obtain ⟨_, none, -⟩ | ⟨byte, _, one, -⟩ := runEnterRequest_cases node now
    · simp [none]
    · rw [one, List.mem_singleton]
      intro same
      have kind := congrArg (·.id.control?) same
      simp [farewell, Frame.exitConfig, Frame.enterConfig] at kind
  have on := on_of_configuring mode
  have same : (node.runEnterRequest now).value.farewell = node.farewell :=
    farewell_of_config (config_perform node ⟨now, .sendEnterByte⟩ on)
  have inside := mode_runEnterRequest_of_configuring node now mode
  rw [timers, runRequests, Reaction.transmit_bind, Reaction.value_bind, List.mem_append,
    or_iff_right entering, ← same]
  have exits := exits_sendExitByte (node.runEnterRequest now).value now inside
  generalize (node.runEnterRequest now).value = asked at *
  cases exits with
  | outside outside => exact absurd inside outside
  | inside _ stays kept => exact .inr ⟨fun said => kept (.inr (.inr said)), stays⟩
  | leaves _ released left =>
    obtain ⟨parting, left, -⟩ := left
    obtain abandoned | ⟨⟨_, received⟩, -⟩ | said := released
    · cases abandoned
    · cases received
    · rw [left]
      exact .inl ⟨said, departed_of_left parting now⟩

variable {frame : Option Frame} {trail : List Heard} {completed : List Nat}

/-- A tick that begins in System Configuration leaves it for one of the three reasons and stays
without. -/
theorem tick_of_configuring (mode : node.mode = .systemConfiguration)
    (follows : node.exitListener.Follows .exit trail)
    (lasts : (node.receive? now frame).value.Lasts completed) :
    let reason := (∃ byte ∈ node.exitBytes ⟨now, .receive frame⟩, byte.Finishes .exit trail) ∨
      (∃ latest ∈ completed.getLast?, latest + configurationTimeout ≤ now) ∨
      node.farewell ∈ (node.tick now frame).transmit
    (reason ∧ (node.tick now frame).value.Departed) ∨
      (¬ reason ∧ (node.tick now frame).value.mode = .systemConfiguration) := by
  intro reason
  have on := on_of_configuring mode
  have concluding := concluding_iff follows ⟨now, .receive frame⟩
  have exits := exits_perform node ⟨now, .receive frame⟩ on
  have config := config_perform node ⟨now, .receive frame⟩ on
  have tick := (node.tick_of_on now frame on).2
  have unsent : (node.receive? now frame).transmit = [] := transmit_receive? node now frame
  have value : (node.tick now frame).value =
      ((node.receive? now frame).value.runTimers now).value := by
    rw [tick, Reaction.value_bind]
  have sent : (node.tick now frame).transmit =
      ((node.receive? now frame).value.runTimers now).transmit := by
    rw [tick, Reaction.transmit_bind, unsent, List.nil_append]
  cases exits with
  | outside outside => exact absurd mode outside
  | leaves _ released left =>
    obtain ⟨parting, left, -⟩ := left
    obtain abandoned | ⟨-, concluded⟩ | said := released
    · cases abandoned
    · refine .inl ⟨.inl (concluding.mp concluded), ?_⟩
      rw [value]
      have departed := departed_runTimers parting now
      rwa [← left] at departed
    · rw [perform, unsent] at said
      cases said
  | inside _ inside kept =>
    have stays : (node.receive? now frame).value.mode = .systemConfiguration := inside
    have unconcluded := mt concluding.mpr fun concluded => kept (.inr (.inl ⟨⟨_, rfl⟩, concluded⟩))
    have elapsed := lasts.expired_iff stays now
    have same : (node.receive? now frame).value.farewell = node.farewell :=
      farewell_of_config config
    by_cases expired : (node.receive? now frame).value.expired now = true
    · refine .inl ⟨.inr (.inl (elapsed.mp expired)), ?_⟩
      have timers : (node.receive? now frame).value.runTimers now =
          (node.receive? now frame).value.enterPreOperational now := by
        simp only [runTimers, stays, runSystemConfiguration, if_pos expired]
      rw [value, timers]
      exact departed_of_left _ now
    · have timers := runTimers_of_configuring stays expired
      rw [same, ← sent, ← value] at timers
      obtain ⟨said, departed⟩ | ⟨unsaid, stays⟩ := timers
      · exact .inl ⟨.inr (.inr said), departed⟩
      · refine .inr ⟨?_, stays⟩
        rintro (concluded | late | said)
        · exact unconcluded concluded
        · exact expired (elapsed.mpr late)
        · exact unsaid said

/-- A node that has left says nothing of leaving until it is asked to in System Configuration,
which it has entered again by then. -/
theorem Departed.asked_of_sent {steps : List Step} {step : Step} {sent : Frame}
    (departed : node.Departed) (fitting : node.Fitting steps)
    (said : sent ∈ ((node.follow steps).value.perform step).transmit)
    (control : sent.id.control? = some .exitConfig) :
    ∃ first asking second, steps = first ++ asking :: second ∧ asking.duty = .requestExit ∧
      (node.follow first).value.mode = .systemConfiguration ∧
      .modeChanged .systemConfiguration ∈ (node.follow first).events := by
  have pending := pending_of_sent said control
  obtain ⟨first, asking, second, split, asked, mode⟩ :=
    asked_of_pending fitting departed.idle pending
  refine ⟨first, asking, second, split, asked, mode, ?_⟩
  rw [split, fitting_append] at fitting
  rw [← mem_modes_iff]
  exact announced_of_configured fitting.1 (by rw [departed.mode]; decide) mode

end Departure

end VehicleBus.Node

namespace VehicleBus

open Node

/-- Over every run of a node, a tick that begins in System Configuration leaves it exactly if its
frame concludes the exit sequence of another node, or no enter sequence was complete for the
whole timeout by the time the frame was handled, or the tick says the node's own farewell. The
node is without a master then, and does not speak of leaving until it is asked to again. -/
theorem configuration_is_left_for_three_reasons (config : Config) (origin : Nat)
    (inputs : List Node.Input) (now : Nat) (frame : Option Frame) :
    let start := (Node.start config origin).value
    let node := (start.run inputs).value
    let ticked := node.tick now frame
    node.mode = .systemConfiguration →
      (ticked.value.mode = .preOperational ↔
        (∃ byte ∈ node.exitBytes ⟨now, .receive frame⟩,
          byte.Finishes .exit (start.exitTrail (start.steps inputs)).reverse) ∨
        (∃ latest ∈ (start.completions []
            (start.steps inputs ++ [⟨now, .wake⟩, ⟨now, .receive frame⟩])).getLast?,
          latest + configurationTimeout ≤ now) ∨
        node.farewell ∈ ticked.transmit) ∧
      (ticked.value.mode = .preOperational ∨ ticked.value.mode = .systemConfiguration) ∧
      (ticked.value.mode = .preOperational → ticked.value.Departed ∧
        ∀ later earlier step rest sent, ticked.value.steps later = earlier ++ step :: rest →
          sent ∈ ((ticked.value.follow earlier).value.perform step).transmit →
          sent.id.control? = some .exitConfig →
          ∃ first asking second, earlier = first ++ asking :: second ∧
            asking.duty = .requestExit ∧
            (ticked.value.follow first).value.mode = .systemConfiguration ∧
            .modeChanged .systemConfiguration ∈ (ticked.value.follow first).events) := by
  intro start node ticked mode
  have fitting : start.Fitting (start.steps inputs) := start.fitting_steps inputs
  have reached : (start.follow (start.steps inputs)).value = node := by rw [follow_steps]
  have on := on_of_configuring mode
  have follows :
      node.exitListener.Follows .exit (start.exitTrail (start.steps inputs)).reverse := by
    have begun : start.Overhears [] := rfl
    have overhears := begun.follow fitting
    rwa [reached, Overhears, if_pos mode] at overhears
  have lasts : (node.receive? now frame).value.Lasts (start.completions []
      (start.steps inputs ++ [⟨now, .wake⟩, ⟨now, .receive frame⟩])) := by
    have begun : start.Lasts [] := nofun
    have fresh : start.Tracks ([] : List Mark).reverse :=
      Handshake.Listener.follows_start .enter _ rfl
    have both : start.Fitting (start.steps inputs ++ [⟨now, .wake⟩, ⟨now, .receive frame⟩]) := by
      rw [fitting_append, reached]
      exact ⟨fitting, trivial, on_wake node now, trivial⟩
    have received : (start.follow (start.steps inputs ++
        [⟨now, .wake⟩, ⟨now, .receive frame⟩])).value = (node.receive? now frame).value := by
      rw [value_follow_steps_append, ← (node.tick_of_on now frame on).1]
      rfl
    have lasts := begun.follow fresh both
    rwa [received, List.nil_append] at lasts
  obtain ⟨reason, departed⟩ | ⟨none, stays⟩ := tick_of_configuring mode follows lasts
  · refine ⟨iff_of_true departed.mode reason, .inl departed.mode, fun _ => ⟨departed, ?_⟩⟩
    intro later earlier step rest sent split said control
    have fitting := ticked.value.fitting_steps later
    rw [split, fitting_append] at fitting
    exact departed.asked_of_sent fitting.1 said control
  · have still : ticked.value.mode ≠ .preOperational := by
      rw [stays]
      decide
    exact ⟨iff_of_false still none, .inr stays, fun left => absurd left still⟩

/-- A node that was asked to leave and is not ticked before its deadline leaves by the deadline,
with the request unheard. In the instant before, it still begins to say its bytes and stays. -/
theorem ten_leaves_by_its_deadline :
    let start := (Node.start (Config.candidate 10 (by decide)) 0).value
    let letter (now : Nat) (byte : UInt8) : Node.Input :=
      .tick now (some (Frame.enterConfig 7 byte))
    let node := (start.run
      [letter 0 67, letter 400000 70, letter 800000 71, .requestExit 900000]).value
    node.exitRequest.pending = true ∧
      (node.tick 8799999 none).value.mode = .systemConfiguration ∧
      (node.tick 8800000 none).value.Departed := by
  have run :
      let start := (Node.start (Config.candidate 10 (by decide)) 0).value
      let letter (now : Nat) (byte : UInt8) : Node.Input :=
        .tick now (some (Frame.enterConfig 7 byte))
      let inputs := [letter 0 67, letter 400000 70, letter 800000 71, .requestExit 900000]
      let node := (start.run inputs).value
      node.mode = .systemConfiguration ∧ node.exitRequest.pending = true ∧
        node.exitBytes ⟨8799999, .receive none⟩ = [] ∧
        start.completions [] (start.steps inputs ++ [⟨8799999, .wake⟩, ⟨8799999, .receive none⟩]) =
          [800000] ∧
        node.farewell ∉ (node.tick 8799999 none).transmit ∧
        start.completions [] (start.steps inputs ++ [⟨8800000, .wake⟩, ⟨8800000, .receive none⟩]) =
          [800000] := by
    decide +kernel
  obtain ⟨mode, pending, unheard, before, unsaid, past⟩ := run
  obtain ⟨early, either, -⟩ :=
    configuration_is_left_for_three_reasons (Config.candidate 10 (by decide)) 0 _ 8799999 none mode
  obtain ⟨late, -, departs⟩ :=
    configuration_is_left_for_three_reasons (Config.candidate 10 (by decide)) 0 _ 8800000 none mode
  rw [before, unheard] at early
  rw [past] at late
  refine ⟨pending, either.resolve_left fun left => ?_,
    (departs (late.mpr (.inr (.inl ⟨800000, rfl, by decide⟩)))).1⟩
  obtain ⟨_, none, -⟩ | ⟨latest, last, elapsed⟩ | said := early.mp left
  · cases none
  · cases last
    exact absurd elapsed (by decide)
  · exact unsaid said

end VehicleBus
