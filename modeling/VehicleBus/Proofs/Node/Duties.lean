import VehicleBus.Proofs.Node.Modes

/-!
A run as a sequence of steps. A tick is made of duties, of which the mode and the deadline
decide; each duty at its instant is one step, and so is each request of the application.
Following the steps of a run one after another is the run. What happens between two steps
of one tick can be told apart in this way, which the notifications of a tick alone do not
allow.

What a statement remembers of a run is noted step by step, and forgotten where a condition on
the node ends. A relation between the node and such a memory outlasts the run if it outlasts
every step.
-/
namespace VehicleBus.Node

/-- What a node does in one go. -/
inductive Duty where
  | wake
  | receive (frame : Option Frame)
  /-- Sends a sync if one is due. -/
  | beat
  /-- Decides what becomes of the master and of the node in PreOperational. -/
  | judge
  /-- Gives the mode up, its deadline having come. -/
  | abandon
  | sendEnterByte
  | sendExitByte
  | requestEnter
  | requestExit
  deriving DecidableEq, Repr

/-- A duty at an instant. -/
structure Step where
  now : Nat
  duty : Duty
  deriving DecidableEq, Repr

def perform (node : Node) (step : Step) : Reaction Node :=
  match step.duty with
  | .wake => node.wake step.now
  | .receive frame => node.receive? step.now frame
  | .beat => node.runSync step.now
  | .judge => node.judgeMaster step.now
  | .abandon => node.enterPreOperational step.now
  | .sendEnterByte => node.runEnterRequest step.now
  | .sendExitByte => node.runExitRequest step.now
  | .requestEnter => node.requestEnter step.now
  | .requestExit => node.requestExit step.now

/-- The reactions to a list of steps as one. -/
def follow (node : Node) : List Step → Reaction Node
  | [] => pure node
  | step :: rest => do
    let node ← node.perform step
    node.follow rest

/-- The duties of the timers in the present mode. -/
def timerDuties (node : Node) (now : Nat) : List Duty :=
  match node.mode with
  | .powerOff => []
  | .preOperational => [.beat, .judge, .sendEnterByte]
  | .operational =>
    .beat :: if (node.runSync now).value.expired now then [.abandon] else [.sendEnterByte]
  | .systemConfiguration =>
    if node.expired now then [.abandon] else [.sendEnterByte, .sendExitByte]

/-- The node as the timers of a tick find it. -/
def ready (node : Node) (now : Nat) (frame : Option Frame) : Node :=
  ((node.wake now).value.receive? now frame).value

/-- The steps of an input. -/
def inputSteps (node : Node) : Input → List Step
  | .tick now frame =>
    (.wake :: .receive frame :: (node.ready now frame).timerDuties now).map (Step.mk now)
  | .requestEnter now => [⟨now, .requestEnter⟩]
  | .requestExit now => [⟨now, .requestExit⟩]

/-- The steps of a run, in order. -/
def steps (node : Node) : List Input → List Step
  | [] => []
  | input :: rest => node.inputSteps input ++ (node.react input).value.steps rest

theorem follow_append (node : Node) (first second : List Step) :
    node.follow (first ++ second) = (node.follow first >>= fun node => node.follow second) := by
  induction first generalizing node with
  | nil => simp [follow]
  | cons step rest ih => simp [follow, ih]

theorem follow_timerDuties (node : Node) (now : Nat) :
    node.follow ((node.timerDuties now).map (Step.mk now)) = node.runTimers now := by
  unfold timerDuties runTimers
  cases node.mode with
  | powerOff => rfl
  | preOperational => simp [follow, perform, runPreOperational]
  | operational =>
    dsimp only
    split
    · rename_i expired
      simp only [List.map_cons, List.map_nil, follow, perform, bind_pure, runOperational]
      exact Reaction.bind_congr_value (by rw [watchSyncs, if_pos expired])
    · rename_i fed
      simp only [List.map_cons, List.map_nil, follow, perform, bind_pure, runOperational]
      exact Reaction.bind_congr_value (by rw [watchSyncs, if_neg fed])
  | systemConfiguration =>
    dsimp only
    unfold runSystemConfiguration
    split
    · simp [follow, perform]
    · simp [follow, perform, runRequests]

theorem follow_inputSteps (node : Node) (input : Input) :
    node.follow (node.inputSteps input) = node.react input := by
  cases input with
  | tick now frame =>
    have timers := follow_timerDuties (node.ready now frame) now
    simp only [inputSteps, List.map_cons, follow, perform, react, tick]
    apply Reaction.bind_congr_value
    exact Reaction.bind_congr_value timers
  | requestEnter now => simp [inputSteps, follow, perform, react]
  | requestExit now => simp [inputSteps, follow, perform, react]

/-- The steps of a run, one after another, are the run. -/
theorem follow_steps (node : Node) (inputs : List Input) :
    node.follow (node.steps inputs) = node.run inputs := by
  induction inputs generalizing node with
  | nil => rfl
  | cons input rest ih =>
    rw [steps, follow_append, follow_inputSteps, run]
    exact Reaction.bind_congr_value (ih _)

/-- A duty is done in the modes that it belongs to. -/
def Fits (node : Node) (step : Step) : Prop :=
  match step.duty with
  | .wake | .requestEnter | .requestExit => True
  | .receive _ | .sendEnterByte => node.mode ≠ .powerOff
  | .beat => node.Synchronizes
  | .judge => node.mode = .preOperational
  | .abandon => node.mode = .operational ∨ node.mode = .systemConfiguration
  | .sendExitByte => node.mode = .systemConfiguration

/-- Every step is done in a mode that its duty belongs to. -/
def Fitting (node : Node) : List Step → Prop
  | [] => True
  | step :: rest => node.Fits step ∧ (node.perform step).value.Fitting rest

theorem fitting_append (node : Node) (first second : List Step) :
    node.Fitting (first ++ second) ↔
      node.Fitting first ∧ (node.follow first).value.Fitting second := by
  induction first generalizing node with
  | nil => simp [Fitting, follow]
  | cons step rest ih => simp [Fitting, follow, ih, and_assoc]

theorem fitting_timerDuties (node : Node) (now : Nat) :
    node.Fitting ((node.timerDuties now).map (Step.mk now)) := by
  have kept := mode_runSync node now
  unfold timerDuties
  cases mode : node.mode with
  | powerOff => trivial
  | preOperational =>
    rw [mode] at kept
    have on := on_judgeMaster (node.runSync now).value now (by rw [kept]; decide)
    exact ⟨.inl mode, kept, on, trivial⟩
  | operational =>
    rw [mode] at kept
    have on : (node.runSync now).value.mode ≠ .powerOff := by rw [kept]; decide
    dsimp only
    split
    · exact ⟨.inr mode, .inl kept, trivial⟩
    · exact ⟨.inr mode, on, trivial⟩
  | systemConfiguration =>
    have on := on_of_configuring mode
    dsimp only
    split
    · exact ⟨.inr mode, trivial⟩
    · exact ⟨on, mode_runEnterRequest_of_configuring node now mode, trivial⟩

theorem fitting_inputSteps (node : Node) (input : Input) :
    node.Fitting (node.inputSteps input) := by
  cases input with
  | tick now frame =>
    exact ⟨trivial, on_wake node now, fitting_timerDuties (node.ready now frame) now⟩
  | requestEnter now => exact ⟨trivial, trivial⟩
  | requestExit now => exact ⟨trivial, trivial⟩

theorem fitting_steps (node : Node) (inputs : List Input) : node.Fitting (node.steps inputs) := by
  induction inputs generalizing node with
  | nil => trivial
  | cons input rest ih =>
    rw [steps, fitting_append, follow_inputSteps]
    exact ⟨fitting_inputSteps node input, ih _⟩

/-- A mode is given up only where there is one to give up. -/
def Sound (node : Node) : List Step → Prop
  | [] => True
  | step :: rest =>
    (step.duty = .abandon → node.mode ≠ .preOperational) ∧ (node.perform step).value.Sound rest

theorem sound_append (node : Node) (first second : List Step) :
    node.Sound (first ++ second) ↔ node.Sound first ∧ (node.follow first).value.Sound second := by
  induction first generalizing node with
  | nil => simp [Sound, follow]
  | cons step rest ih => simp [Sound, follow, ih, and_assoc]

theorem Fits.sound {node : Node} {step : Step} (fits : node.Fits step)
    (abandoned : step.duty = .abandon) : node.mode ≠ .preOperational := by
  intro mode
  simp [Fits, abandoned, mode] at fits

theorem Fitting.sound {node : Node} {steps : List Step} (fitting : node.Fitting steps) :
    node.Sound steps := by
  induction steps generalizing node with
  | nil => trivial
  | cons step rest ih => exact ⟨fitting.1.sound, ih fitting.2⟩

theorem sound_steps (node : Node) (inputs : List Input) : node.Sound (node.steps inputs) :=
  (fitting_steps node inputs).sound

/-- Operational is announced where the master is judged and nowhere else. -/
theorem judges_of_operational (node : Node) (step : Step)
    (told : .operational ∈ modes (node.perform step).events) : step.duty = .judge := by
  obtain ⟨now, duty⟩ := step
  cases duty with
  | judge => rfl
  | wake =>
    rw [perform, modes_wake] at told
    split at told <;> simp at told
  | receive frame =>
    obtain entered | ⟨left, -⟩ := modes_receive? node now frame _ told
    · cases entered
    · cases left
  | beat =>
    rw [perform, modes_runSync] at told
    cases told
  | abandon =>
    rw [perform, modes_enterPreOperational] at told
    split at told <;> simp at told
  | sendEnterByte => exact nomatch modes_runEnterRequest node now _ told
  | sendExitByte => exact nomatch modes_runExitRequest node now _ told
  | requestEnter => cases told
  | requestExit =>
    unfold perform requestExit at told
    dsimp only at told
    split at told <;> cases told

theorem not_operational_of_unjudged (node : Node) (steps : List Step)
    (unjudged : ∀ step ∈ steps, step.duty ≠ .judge) :
    .operational ∉ modes (node.follow steps).events := by
  induction steps generalizing node with
  | nil => exact List.not_mem_nil
  | cons step rest ih =>
    rw [follow, Reaction.events_bind, modes_append, List.mem_append, not_or]
    refine ⟨fun told => ?_, ih _ fun later member => unjudged later (List.mem_cons_of_mem _ member)⟩
    exact unjudged step List.mem_cons_self (judges_of_operational node step told)

/-- What every step that fits its node keeps outlasts a run. -/
theorem follow_induction {law : Node → Prop}
    (keeps : ∀ (node : Node) (step : Step), node.Fits step → law node →
      law (node.perform step).value)
    {node : Node} {steps : List Step} (begun : law node) (fitting : node.Fitting steps) :
    law (node.follow steps).value := by
  induction steps generalizing node with
  | nil => exact begun
  | cons step rest ih => exact ih (keeps node step fitting.1 begun) fitting.2

/-- A law of all stages holds of every step that fits its node. -/
theorem perform_obeys {law : Law} (stages : ∀ now, StageLaw now law) (node : Node) (step : Step)
    (fits : node.Fits step) : Obeys law node (node.perform step) := by
  obtain ⟨now, duty⟩ := step
  have stages := stages now
  cases duty with
  | wake => exact stages.wake node
  | receive frame => exact stages.receive? node frame fits
  | beat => exact stages.runSync node fits
  | judge => exact stages.judgeMaster node fits
  | abandon => exact stages.leave node (fits.sound rfl)
  | sendEnterByte => exact stages.runEnterRequest node fits
  | sendExitByte => exact stages.runExitRequest node
  | requestEnter => exact stages.silent _ _ rfl rfl rfl
  | requestExit =>
    unfold perform requestExit
    dsimp only
    split
    · exact stages.silent _ _ rfl rfl rfl
    · exact stages.pure node

section Memory

variable {α : Type} (holds : Node → Bool) (notes : Node → Step → List α)

/-- What is remembered of a run: each step adds what it notes, and a step after which a
condition does not hold of the node wipes everything out. -/
def memory (node : Node) (past : List α) : List Step → List α
  | [] => past
  | step :: rest =>
    (node.perform step).value.memory
      (if holds (node.perform step).value then past ++ notes node step else []) rest

/-- A relation between a node and its memory outlasts a run if it outlasts every step. -/
theorem memory_induction {law : Node → List α → Prop}
    (keeps : ∀ (node : Node) (past : List α) (step : Step), node.Fits step → law node past →
      law (node.perform step).value
        (if holds (node.perform step).value then past ++ notes node step else []))
    {node : Node} {past : List α} {steps : List Step} (begun : law node past)
    (fitting : node.Fitting steps) :
    law (node.follow steps).value (node.memory holds notes past steps) := by
  induction steps generalizing node past with
  | nil => exact begun
  | cons step rest ih => exact ih (keeps node past step fitting.1 begun) fitting.2

end Memory

section Polling

/-- The steps of a tick up to where its sync goes out, if one is due. -/
def polling (now : Nat) (frame : Option Frame) : List Step :=
  [⟨now, .wake⟩, ⟨now, .receive frame⟩, ⟨now, .beat⟩]

variable (node : Node) (now : Nat) (frame : Option Frame)

theorem value_follow_polling :
    (node.follow (polling now frame)).value = ((node.ready now frame).runSync now).value := rfl

theorem fitting_polling (mode : (node.ready now frame).Synchronizes) :
    node.Fitting (polling now frame) :=
  ⟨trivial, on_wake node now, mode, trivial⟩

theorem inputSteps_of_preOperational (mode : (node.ready now frame).mode = .preOperational) :
    node.inputSteps (.tick now frame) =
      polling now frame ++ [⟨now, .judge⟩, ⟨now, .sendEnterByte⟩] := by
  simp [inputSteps, timerDuties, mode, polling]

theorem inputSteps_of_operational (mode : (node.ready now frame).mode = .operational) :
    node.inputSteps (.tick now frame) = polling now frame ++
      if (node.follow (polling now frame)).value.expired now then [⟨now, .abandon⟩]
      else [⟨now, .sendEnterByte⟩] := by
  rw [value_follow_polling]
  simp only [inputSteps, timerDuties, mode, polling]
  split <;> rfl

theorem tick_of_preOperational (mode : (node.ready now frame).mode = .preOperational) :
    node.tick now frame = (node.follow (polling now frame) >>= fun beaten =>
      beaten.judgeMaster now >>= fun judged => judged.runEnterRequest now) := by
  have parts := node.follow_inputSteps (.tick now frame)
  rw [inputSteps_of_preOperational node now frame mode, follow_append] at parts
  rw [← Node.react, ← parts]
  simp [follow, perform]

theorem tick_of_operational (mode : (node.ready now frame).mode = .operational) :
    node.tick now frame =
      (node.follow (polling now frame) >>= fun beaten => beaten.watchSyncs now) := by
  have timers : (node.ready now frame).runTimers now =
      ((node.ready now frame).runSync now >>= fun beaten => beaten.watchSyncs now) := by
    simp only [runTimers, mode, runOperational]
  simp only [tick, polling, follow, perform, bind_assoc, pure_bind]
  apply Reaction.bind_congr_value
  exact Reaction.bind_congr_value timers

/-- A node that is on has nothing to wake up from. -/
theorem tick_of_on (on : node.mode ≠ .powerOff) :
    node.ready now frame = (node.receive? now frame).value ∧
      node.tick now frame =
        (node.receive? now frame >>= fun received => received.runTimers now) := by
  rw [ready, tick, wake, if_neg on, pure_bind]
  exact ⟨rfl, rfl⟩

/-- The master is judged in PreOperational alone. -/
theorem unjudged_inputSteps (mode : (node.ready now frame).mode ≠ .preOperational) :
    ∀ step ∈ node.inputSteps (.tick now frame), step.duty ≠ .judge := by
  simp only [inputSteps, timerDuties]
  cases reached : (node.ready now frame).mode with
  | preOperational => exact absurd reached mode
  | powerOff => simp
  | operational =>
    dsimp only
    split <;> simp
  | systemConfiguration =>
    dsimp only
    split <;> simp

theorem steps_concat (inputs : List Input) (input : Input) :
    node.steps (inputs ++ [input]) = node.steps inputs ++ (node.run inputs).value.inputSteps input
    := by
  induction inputs generalizing node with
  | nil => simp [steps, run]
  | cons first rest ih =>
    rw [List.cons_append, steps, steps, ih, List.append_assoc]
    rfl

/-- A run and the first steps of a tick after it. -/
theorem value_follow_steps_append (inputs : List Input) (rest : List Step) :
    (node.follow (node.steps inputs ++ rest)).value =
      ((node.run inputs).value.follow rest).value := by
  rw [follow_append, Reaction.value_bind, follow_steps]

end Polling

end VehicleBus.Node
