import VehicleBus.Proofs.Node.Exits
import VehicleBus.Proofs.Node.Roots

/-!
Everything that a node may put on the bus. Its frames are urgent control frames under its own
address, at most two in a tick and each kind at most once: outside System Configuration a sync
and then a byte of the enter sequence, inside it a byte of the enter sequence and then one of the
exit sequence. A tick that changes between the two has nothing more to send than a byte of the
enter sequence, for an election that was just opened has no sync due, and no request to leave
waits where System Configuration was just entered.

What a node was never asked for it does not send. So a node that may not be master and was not
asked to enter is silent until it is asked to leave where another node has led it.
-/
namespace VehicleBus

/-- The kinds of control frames among frames, in order. -/
def kinds (frames : List Frame) : List (Option ControlKind) := frames.map (·.id.control?)

@[simp] theorem kinds_nil : kinds [] = [] := rfl

@[simp] theorem kinds_append (first second : List Frame) :
    kinds (first ++ second) = kinds first ++ kinds second := List.map_append

namespace Node

section Kinds

variable (node : Node) (now : Nat)

theorem kinds_runSync : (kinds (node.runSync now).transmit).Sublist [some .sync] := by
  cases due : (node.timeBase.isDue node.station now).value with
  | false =>
    rw [(runSync_of_not_due node now due).1.unsent]
    exact List.nil_sublist _
  | true =>
    rw [(runSync_of_due node now due).1]
    simp [kinds]

theorem kinds_runEnterRequest :
    (kinds (node.runEnterRequest now).transmit).Sublist [some .enterConfig] := by
  rcases runEnterRequest_cases node now with ⟨_, none, -⟩ | ⟨byte, _, one, -⟩
  · rw [none]
    exact List.nil_sublist _
  · rw [one]
    simp [kinds, Frame.enterConfig]

theorem kinds_runExitRequest :
    (kinds (node.runExitRequest now).transmit).Sublist [some .exitConfig] := by
  rcases runExitRequest_cases node now with ⟨_, -, none, -⟩ | ⟨byte, _, -, one, -⟩
  · rw [none]
    exact List.nil_sublist _
  · rw [one]
    simp [kinds, Frame.exitConfig]

/-- What System Configuration sends. -/
theorem transmit_runSystemConfiguration (mode : node.mode = .systemConfiguration) :
    (node.runTimers now).transmit = [] ∨
      (node.runTimers now).transmit = (node.runEnterRequest now).transmit ++
        ((node.runEnterRequest now).value.runExitRequest now).transmit := by
  simp only [runTimers, mode]
  unfold runSystemConfiguration
  split
  · exact .inl rfl
  · exact .inr rfl

/-- What the other modes send. -/
theorem transmit_runTimers_of_outside (mode : node.mode ≠ .systemConfiguration) :
    ∃ asking : Node, (node.runTimers now).transmit = [] ∨
      (node.runTimers now).transmit = (node.runSync now).transmit ∨
      (node.runTimers now).transmit =
        (node.runSync now).transmit ++ (asking.runEnterRequest now).transmit := by
  unfold runTimers
  split
  · exact ⟨node, .inl rfl⟩
  · refine ⟨((node.runSync now).value.judgeMaster now).value, .inr (.inr ?_)⟩
    rw [runPreOperational, Reaction.transmit_bind, Reaction.transmit_bind, transmit_judgeMaster,
      List.nil_append]
  · refine ⟨(node.runSync now).value, .inr ?_⟩
    rw [runOperational, Reaction.transmit_bind, watchSyncs]
    split
    · exact .inl (List.append_nil _)
    · exact .inr rfl
  · contradiction

theorem kinds_runTimers_of_configuring (mode : node.mode = .systemConfiguration) :
    (kinds (node.runTimers now).transmit).Sublist [some .enterConfig, some .exitConfig] := by
  rcases transmit_runSystemConfiguration node now mode with none | both
  · rw [none]
    exact List.nil_sublist _
  · rw [both, kinds_append]
    exact (kinds_runEnterRequest node now).append (kinds_runExitRequest _ now)

theorem kinds_runTimers_of_outside (mode : node.mode ≠ .systemConfiguration) :
    (kinds (node.runTimers now).transmit).Sublist [some .sync, some .enterConfig] := by
  obtain ⟨asking, none | beat | both⟩ := transmit_runTimers_of_outside node now mode
  · rw [none]
    exact List.nil_sublist _
  · rw [beat]
    exact (kinds_runSync node now).trans (by simp)
  · rw [both, kinds_append]
    exact (kinds_runSync node now).append (kinds_runEnterRequest asking now)

/-- No sync is due where the election was just opened. -/
theorem kinds_runTimers_of_vacated (parting : Node) :
    (kinds ((parting.enterPreOperational now).value.runTimers now).transmit).Sublist
      [some .enterConfig] := by
  obtain ⟨asking, sent⟩ :=
    transmit_runTimers_of_outside (parting.enterPreOperational now).value now nofun
  have early := not_due_of_fresh (parting.enterPreOperational now).value now rfl
  rw [(runSync_of_not_due (parting.enterPreOperational now).value now early).1.unsent,
    List.nil_append] at sent
  obtain none | none | one := sent
  · rw [none]
    exact List.nil_sublist _
  · rw [none]
    exact List.nil_sublist _
  · rw [one]
    exact kinds_runEnterRequest asking now

/-- Without a request System Configuration sends nothing of leaving. -/
theorem kinds_runTimers_of_unasked (mode : node.mode = .systemConfiguration)
    (unasked : node.exitRequest.pending = false) :
    (kinds (node.runTimers now).transmit).Sublist [some .enterConfig] := by
  rcases transmit_runSystemConfiguration node now mode with none | both
  · rw [none]
    exact List.nil_sublist _
  · have idle : (node.runEnterRequest now).value.exitRequest.pending = false :=
      idle_perform ⟨now, .sendEnterByte⟩ (on_of_configuring mode) unasked nofun
    rw [both, Guarded.runExitRequest_of_unasked _ now idle, Reaction.transmit_pure, List.append_nil]
    exact kinds_runEnterRequest node now

end Kinds

/-- What a tick may transmit. -/
structure Disciplined (node : Node) (now : Nat) (frame : Option Frame) : Prop where
  /-- Urgent control frames of its own. -/
  signed : ∀ sent ∈ (node.tick now frame).transmit,
    sent.id.source = node.address ∧ sent.id.priority = 0 ∧ sent.isControl = true
  /-- One frame of each kind at most, of two kinds in their order. -/
  ordered : (kinds (node.tick now frame).transmit).Sublist
    (if node.mode = .systemConfiguration then [some .enterConfig, some .exitConfig]
    else [some .sync, some .enterConfig])
  /-- A sync is sent by a candidate, who is master with it and to the end of the tick. -/
  beats : ∀ sent ∈ (node.tick now frame).transmit, sent.IsSync →
    node.config.options.syncMaster = true ∧
      ((node.ready now frame).runSync now).value.timeBase.master = some node.address ∧
      (node.tick now frame).value.timeBase.master = some node.address
  /-- A byte of the exit sequence is sent by a node that is in System Configuration. -/
  leaves : ∀ sent ∈ (node.tick now frame).transmit, sent.id.control? = some .exitConfig →
    let leaving := ((node.ready now frame).runEnterRequest now).value
    leaving.mode = .systemConfiguration ∧ sent ∈ (leaving.runExitRequest now).transmit

section Tick

variable {node : Node} {now : Nat} {frame : Option Frame}

/-- Whatever a node sends is an urgent control frame. -/
theorem Sends.urgent {step : Step} {sent : Frame} (sends : node.Sends step sent) :
    sent.id.priority = 0 ∧ sent.isControl = true := by
  have built (kind : ControlKind) :
      (Identifier.ofControl kind node.address).priority = 0 ∧
        (Identifier.ofControl kind node.address).control?.isSome = true := by
    refine ⟨congrArg Identifier.Fields.priority (Identifier.fields_ofControl kind _), ?_⟩
    rw [Identifier.control?_ofControl]
    rfl
  cases sends with
  | sync => exact built .sync
  | enterByte => exact built .enterConfig
  | exitByte => exact built .exitConfig

theorem signed_tick : ∀ sent ∈ (node.tick now frame).transmit,
    sent.id.source = node.address ∧ sent.id.priority = 0 ∧ sent.isControl = true := by
  intro sent transmitted
  change sent ∈ (node.react (.tick now frame)).transmit at transmitted
  rw [← follow_inputSteps] at transmitted
  obtain ⟨earlier, step, fitting, member⟩ :=
    sender_of_follow (fitting_inputSteps node (.tick now frame)) transmitted
  have sends := sends_perform _ step member
  have config := config_follow node earlier fitting
  exact ⟨sends.source.trans (congrArg Config.address config), sends.urgent⟩

/-- A tick that begins in System Configuration finds it still there for the timers, or a node that
has just left. -/
theorem ready_of_configuring (now : Nat) (frame : Option Frame)
    (mode : node.mode = .systemConfiguration) :
    (node.ready now frame).mode = .systemConfiguration ∨
      ∃ parting : Node, node.ready now frame = (parting.enterPreOperational now).value := by
  have on := on_of_configuring mode
  rw [(node.tick_of_on now frame on).1]
  cases exits_perform node ⟨now, .receive frame⟩ on with
  | outside other => exact absurd mode other
  | inside _ stays => exact .inl stays
  | leaves _ _ left =>
    obtain ⟨parting, value, -⟩ := left
    exact .inr ⟨parting, value⟩

/-- No request to leave comes up before the timers. -/
theorem unasked_ready (now : Nat) (frame : Option Frame)
    (idle : node.exitRequest.pending = false) :
    (node.ready now frame).exitRequest.pending = false := by
  have woken : (node.perform ⟨now, .wake⟩).value.exitRequest.pending = false :=
    idle_perform ⟨now, .wake⟩ trivial idle nofun
  exact idle_perform ⟨now, .receive frame⟩ (on_wake node now) woken nofun

theorem ordered_tick (withdrawn : node.Withdrawn) :
    (kinds (node.tick now frame).transmit).Sublist
      (if node.mode = .systemConfiguration then [some .enterConfig, some .exitConfig]
      else [some .sync, some .enterConfig]) := by
  have timers : (node.tick now frame).transmit = ((node.ready now frame).runTimers now).transmit :=
    transmit_tick node now frame
  rw [timers]
  -- Where the frame changed the mode, the mode that it led to has less to send than it may.
  split
  · rename_i mode
    rcases ready_of_configuring now frame mode with stays | ⟨parting, left⟩
    · exact kinds_runTimers_of_configuring _ now stays
    · rw [left]
      exact (kinds_runTimers_of_vacated now parting).trans (by simp)
  · rename_i outside
    by_cases entered : (node.ready now frame).mode = .systemConfiguration
    · have unasked := unasked_ready now frame (withdrawn outside)
      exact (kinds_runTimers_of_unasked _ now entered unasked).trans (by simp)
    · exact kinds_runTimers_of_outside _ now entered

/-- Whoever sends a sync is master with it. -/
theorem master_of_due (due : (node.timeBase.isDue node.station now).value = true) :
    (node.runSync now).value.timeBase.master = some node.address ∧
      (node.runSync now).value.address = node.address := by
  obtain ⟨deadline, beaten⟩ := value_runSync_of_due node now due
  rw [beaten]
  exact ⟨rfl, rfl⟩

/-- Whoever sends a sync in Operational has its watchdog fed. -/
theorem fed_of_due (mode : node.mode = .operational)
    (due : (node.timeBase.isDue node.station now).value = true) :
    (node.runSync now).value.expired now = false := by
  have positive : 0 < node.timing.watchdog :=
    Nat.lt_of_lt_of_le (Timing.ptu_pos _ _) (ptu_le_watchdog node.timing)
  have fed : (node.runSync now).value.deadline = some (now + node.timing.watchdog) := by
    rw [(runSync_of_due node now due).2.2]
    simp only [syncSeen, mode]
    rfl
  exact not_expired_of_lt _ now fed (Nat.lt_add_of_pos_right positive)

/-- It stays master to the end of its timers. -/
theorem master_runTimers_of_due (outside : node.Synchronizes)
    (due : (node.timeBase.isDue node.station now).value = true) :
    (node.runTimers now).value.timeBase.master = some node.address := by
  obtain ⟨master, address⟩ := master_of_due due
  rcases outside with mode | mode
  · have secure : (node.runSync now).value.Secure now := .inl (by rw [address]; exact master)
    simp only [runTimers, mode]
    rw [runPreOperational, Reaction.value_bind, Reaction.value_bind, timeBase_runEnterRequest,
      secure.judgeMaster]
    exact master
  · -- The sync itself keeps the watchdog from giving Operational, and the master, up.
    have fed := fed_of_due mode due
    simp only [runTimers, mode]
    rw [runOperational, Reaction.value_bind, watchSyncs, fed, if_neg (by decide),
      timeBase_runEnterRequest]
    exact master

theorem synchronizes_of_sync {sent : Frame} (timed : sent ∈ (node.runTimers now).transmit)
    (sync : sent.IsSync) : node.Synchronizes := by
  cases mode : node.mode with
  | powerOff => simp [runTimers, mode] at timed
  | preOperational => exact .inl mode
  | operational => exact .inr mode
  | systemConfiguration =>
    have other := (kinds_runTimers_of_configuring node now mode).subset (List.mem_map_of_mem timed)
    rw [show sent.id.control? = some .sync from sync] at other
    simp at other

/-- A tick that sends a sync finds one due once its frame is handled. -/
theorem due_of_sync {sent : Frame} (transmitted : sent ∈ (node.tick now frame).transmit)
    (sync : sent.IsSync) :
    (node.ready now frame).Synchronizes ∧
      ((node.ready now frame).timeBase.isDue (node.ready now frame).station now).value = true := by
  have timed : sent ∈ ((node.ready now frame).runTimers now).transmit :=
    transmit_tick node now frame ▸ transmitted
  exact ⟨synchronizes_of_sync timed sync, isDue_of_runTimers _ now sent timed sync⟩

theorem beats_tick (entitled : node.Entitled) : ∀ sent ∈ (node.tick now frame).transmit,
    sent.IsSync → node.config.options.syncMaster = true ∧
      ((node.ready now frame).runSync now).value.timeBase.master = some node.address ∧
      (node.tick now frame).value.timeBase.master = some node.address := by
  intro sent transmitted sync
  have reacted : sent ∈ (node.react (.tick now frame)).transmit := transmitted
  have signs := signs_react entitled reacted
  obtain ⟨outside, due⟩ := due_of_sync transmitted sync
  have address : (node.ready now frame).address = node.address :=
    congrArg Config.address ((configured_stages now).reception node frame)
  rw [← address]
  exact ⟨signs.2 sync, (master_of_due due).1, master_runTimers_of_due outside due⟩

theorem leaves_tick : ∀ sent ∈ (node.tick now frame).transmit,
    sent.id.control? = some .exitConfig →
    let leaving := ((node.ready now frame).runEnterRequest now).value
    leaving.mode = .systemConfiguration ∧ sent ∈ (leaving.runExitRequest now).transmit := by
  intro sent transmitted control leaving
  have timed : sent ∈ ((node.ready now frame).runTimers now).transmit :=
    transmit_tick node now frame ▸ transmitted
  by_cases mode : (node.ready now frame).mode = .systemConfiguration
  · refine ⟨mode_runEnterRequest_of_configuring _ now mode, ?_⟩
    rcases transmit_runSystemConfiguration _ now mode with none | both
    · rw [none] at timed
      cases timed
    · rw [both, List.mem_append] at timed
      refine timed.resolve_left fun entering => ?_
      have other := (kinds_runEnterRequest _ now).subset (List.mem_map_of_mem entering)
      simp [control] at other
  · have other := (kinds_runTimers_of_outside _ now mode).subset (List.mem_map_of_mem timed)
    simp [control] at other

theorem disciplined (entitled : node.Entitled) (withdrawn : node.Withdrawn) :
    node.Disciplined now frame where
  signed := signed_tick
  ordered := ordered_tick withdrawn
  beats := beats_tick entitled
  leaves := leaves_tick

end Tick

section Run

/-- A node that may not be master and has no request to enter on its way. -/
structure Unbidden (node : Node) : Prop where
  idle : node.enterRequest.pending = false
  entitled : node.Entitled
  unable : node.config.options.syncMaster = false

variable {node : Node} {step : Step} {steps : List Step}

theorem Unbidden.perform (unbidden : node.Unbidden) (fits : node.Fits step)
    (unasked : step.duty ≠ .requestEnter) : (node.perform step).value.Unbidden where
  idle := enterRequest_idle_perform node step fits unbidden.idle unasked
  entitled := unbidden.entitled.perform fits
  unable := by
    rw [config_perform node step fits]
    exact unbidden.unable

/-- Such a node speaks of leaving alone. -/
theorem Unbidden.only_leaves (unbidden : node.Unbidden) {sent : Frame}
    (transmitted : sent ∈ (node.perform step).transmit) :
    sent.id.control? = some .exitConfig := by
  cases sends_perform node step transmitted with
  | sync _ due =>
    have able := unbidden.entitled.of_due due
    simp [unbidden.unable] at able
  | enterByte _ pending => simp [unbidden.idle] at pending
  | exitByte => simp [Frame.exitConfig]

theorem Unbidden.follow (unbidden : node.Unbidden) (fitting : node.Fitting steps)
    (unasked : ∀ step ∈ steps, step.duty ≠ .requestEnter) :
    (node.follow steps).value.Unbidden ∧
      ∀ sent ∈ (node.follow steps).transmit, sent.id.control? = some .exitConfig := by
  induction steps generalizing node with
  | nil => exact ⟨unbidden, nofun⟩
  | cons step rest ih =>
    rw [List.forall_mem_cons] at unasked
    obtain ⟨after, later⟩ := ih (unbidden.perform fitting.1 unasked.1) fitting.2 unasked.2
    refine ⟨after, fun sent transmitted => ?_⟩
    rcases List.mem_append.mp transmitted with first | rest
    · exact unbidden.only_leaves first
    · exact later sent rest

theorem Unbidden.run (unbidden : node.Unbidden) {inputs : List Input}
    (unasked : ∀ now, .requestEnter now ∉ inputs) :
    ∀ sent ∈ (node.run inputs).transmit, sent.id.control? = some .exitConfig := by
  induction inputs generalizing node with
  | nil => exact nofun
  | cons input rest ih =>
    have first := unbidden.follow (fitting_inputSteps node input) fun step member asked =>
      unasked step.now ((request_of_inputStep member).1 asked ▸ List.mem_cons_self)
    rw [follow_inputSteps] at first
    intro sent transmitted
    rcases List.mem_append.mp transmitted with now | later
    · exact first.2 sent now
    · exact ih first.1 (fun now among => unasked now (List.mem_cons_of_mem _ among)) sent later

/-- Without a request to leave nothing is said of leaving. -/
theorem unsaid_follow (fitting : node.Fitting steps) (idle : node.exitRequest.pending = false)
    (unasked : ∀ step ∈ steps, step.duty ≠ .requestExit) :
    (node.follow steps).value.exitRequest.pending = false ∧
      ∀ sent ∈ (node.follow steps).transmit, sent.id.control? ≠ some .exitConfig := by
  induction steps generalizing node with
  | nil => exact ⟨idle, nofun⟩
  | cons step rest ih =>
    rw [List.forall_mem_cons] at unasked
    obtain ⟨after, later⟩ := ih fitting.2 (idle_perform step fitting.1 idle unasked.1) unasked.2
    refine ⟨after, fun sent transmitted control => ?_⟩
    rcases List.mem_append.mp transmitted with first | rest
    · have pending := pending_of_sent first control
      simp [idle] at pending
    · exact later sent rest control

theorem unsaid_react (input : Input) (idle : node.exitRequest.pending = false)
    (unasked : ∀ now, input = .requestExit now → node.mode ≠ .systemConfiguration) :
    (node.react input).value.exitRequest.pending = false ∧
      ∀ sent ∈ (node.react input).transmit, sent.id.control? ≠ some .exitConfig := by
  by_cases leaving : ∃ now, input = .requestExit now
  · obtain ⟨now, rfl⟩ := leaving
    rw [react, requestExit, if_neg (unasked now rfl)]
    exact ⟨idle, fun sent member => absurd member List.not_mem_nil⟩
  · rw [← follow_inputSteps]
    apply unsaid_follow (fitting_inputSteps node input) idle
    intro step member asked
    exact leaving ⟨step.now, (request_of_inputStep member).2 asked⟩

/-- A node that speaks of leaving was asked to leave where there was something to leave. -/
theorem asked_of_said {inputs : List Input} (idle : node.exitRequest.pending = false)
    {sent : Frame} (said : sent ∈ (node.run inputs).transmit)
    (control : sent.id.control? = some .exitConfig) :
    ∃ earlier now later, inputs = earlier ++ .requestExit now :: later ∧
      (node.run earlier).value.mode = .systemConfiguration := by
  induction inputs generalizing node with
  | nil => cases said
  | cons input rest ih =>
    by_cases asked : (∃ now, input = .requestExit now) ∧ node.mode = .systemConfiguration
    · obtain ⟨⟨now, rfl⟩, mode⟩ := asked
      exact ⟨[], now, rest, rfl, mode⟩
    · have unsaid := unsaid_react input idle fun now same mode =>
        asked ⟨⟨now, same⟩, mode⟩
      rcases List.mem_append.mp said with first | rest
      · exact absurd control (unsaid.2 sent first)
      · obtain ⟨earlier, now, later, split, mode⟩ := ih unsaid.1 rest
        exact ⟨input :: earlier, now, later, by rw [split, List.cons_append], mode⟩

end Run

end Node

/-- Over every run of a node, whatever a tick transmits keeps to the discipline. A node that may not
be master and was never asked to enter System Configuration transmits nothing but bytes of the exit
sequence, and nobody transmits those who was not asked to leave while he was there. -/
theorem transmissions_keep_to_the_discipline (config : Config) (origin : Nat)
    (inputs : List Node.Input) :
    let life := Node.start config origin >>= fun node => node.run inputs
    life.value.config = config ∧
      (∀ now frame, life.value.Disciplined now frame) ∧
      (config.options.syncMaster = false → (∀ now, .requestEnter now ∉ inputs) →
        ∀ sent ∈ life.transmit, sent.id.control? = some .exitConfig) ∧
      ∀ sent ∈ life.transmit, sent.id.control? = some .exitConfig →
        ∃ earlier now later, inputs = earlier ++ .requestExit now :: later ∧
          (Node.start config origin >>= fun node => node.run earlier).value.mode =
            .systemConfiguration := by
  intro life
  let start := (Node.start config origin).value
  have fitting : start.Fitting (start.steps inputs) := start.fitting_steps inputs
  have reached : (start.follow (start.steps inputs)).value = life.value := by
    rw [Node.follow_steps]
    rfl
  have entitled : start.Entitled := nofun
  have withdrawn : start.Withdrawn := fun _ => rfl
  have said : life.transmit = (start.run inputs).transmit := List.nil_append _
  refine ⟨Node.config_run start inputs, ?_, ?_, ?_⟩
  · intro now frame
    rw [← reached]
    exact Node.disciplined
      (Node.follow_induction (fun _ _ fits entitled => entitled.perform fits) entitled fitting)
      (withdrawn.follow fitting)
  · intro unable unasked
    have unbidden : start.Unbidden := ⟨rfl, entitled, unable⟩
    rw [said]
    exact unbidden.run unasked
  · intro sent member control
    rw [said] at member
    exact Node.asked_of_said rfl member control

/-- A node that another one led into System Configuration, and that is asked to leave it, says so
though it may not be master and was never asked to enter. -/
theorem guest_speaks_of_leaving :
    let guest : Config := { Config.candidate 12 (by decide) with options := .none }
    let inputs : List Node.Input :=
      [.tick 0 (some (Frame.enterConfig 7 67)), .tick 1 (some (Frame.enterConfig 7 70)),
        .tick 2 (some (Frame.enterConfig 7 71)), .requestExit 3]
    let node := (Node.start guest 0 >>= fun node => node.run inputs).value
    guest.options.syncMaster = false ∧ (∀ now, .requestEnter now ∉ inputs) ∧
      (node.tick 3 none).transmit = [Frame.exitConfig 12 79] := by
  intro guest inputs node
  exact ⟨rfl, by simp [inputs], by decide +kernel⟩

/-- It says the three letters of leaving and nothing else. -/
theorem guest_says_its_farewell :
    let guest : Config := { Config.candidate 12 (by decide) with options := .none }
    let inputs : List Node.Input :=
      [.tick 0 (some (Frame.enterConfig 7 67)), .tick 1 (some (Frame.enterConfig 7 70)),
        .tick 2 (some (Frame.enterConfig 7 71)), .requestExit 3, .tick 3 none, .tick 7816 none,
        .tick 15629 none, .tick 23442 (some (Frame.sync 10 1))]
    let life := Node.start guest 0 >>= fun node => node.run inputs
    (∀ sent ∈ life.transmit, sent.id.control? = some .exitConfig) ∧
      life.transmit.length = 3 ∧ life.value.mode = .preOperational := by
  intro guest inputs life
  have discipline := transmissions_keep_to_the_discipline guest 0 inputs
  exact ⟨discipline.2.2.1 rfl (by simp [inputs]), by decide +kernel, by decide +kernel⟩

end VehicleBus
