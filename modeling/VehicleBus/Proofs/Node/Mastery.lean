import VehicleBus.Proofs.Node.Modes

/-!
The sync master against its own timers. A master beats at the end of its period and is
watched like any other node; what keeps the watchdog from ending its rule is that the
period which runs is never longer than the watch, however the two were last set. The
order of a tick does the rest: a master that comes late beats before it is judged.

Only the sync of a lower address deposes a master. Instants must not go backwards here,
since a period that began in the future would outlast the watch.
-/
namespace VehicleBus.Node

/-- The instant of an input. -/
def Input.instant : Input → Nat
  | tick now _ => now
  | requestEnter now => now
  | requestExit now => now

/-- The timers of a node as of an instant. The period that runs began by then; in
Operational it is over no later than the watch; and nothing waits to be sent that
belongs to System Configuration. -/
structure Guarded (node : Node) (now : Nat) : Prop where
  begun : node.timeBase.due ≤ now + node.timing.ptu
  watched : node.mode = .operational →
    ∃ deadline, node.deadline = some deadline ∧ node.timeBase.due ≤ deadline
  unasked : node.mode ≠ .systemConfiguration → node.exitRequest.pending = false

theorem ptu_le_watchdog (timing : Timing) : timing.ptu ≤ timing.watchdog := by
  unfold Timing.watchdog Timing.watchdogPtus
  omega

namespace Guarded

variable {node : Node} {now : Nat}

theorem start (config : Config) (origin : Nat) : (Node.start config origin).value.Guarded origin :=
  ⟨Nat.le_refl _, nofun, fun _ => rfl⟩

theorem later {seen : Nat} (guarded : node.Guarded seen) (passed : seen ≤ now) :
    node.Guarded now := by
  have begun := guarded.begun
  exact ⟨by omega, guarded.watched, guarded.unasked⟩

section Transitions

theorem enterPreOperational (node : Node) (now : Nat) :
    (node.enterPreOperational now).value.Guarded now :=
  ⟨Nat.le_refl _, nofun, fun _ => rfl⟩

theorem reopenElection (guarded : node.Guarded now) (mode : node.mode = .preOperational) :
    (node.reopenElection now).value.Guarded now := by
  refine ⟨Nat.le_refl _, fun wrong => ?_, guarded.unasked⟩
  rw [value_reopenElection, mode] at wrong
  cases wrong

theorem enterOperational (guarded : node.Guarded now) (mode : node.mode = .preOperational) :
    (node.enterOperational now).value.Guarded now := by
  have begun := guarded.begun
  have period := ptu_le_watchdog node.timing
  refine ⟨begun, fun _ => ⟨_, rfl, ?_⟩, fun _ => guarded.unasked (by rw [mode]; decide)⟩
  show node.timeBase.due ≤ now + node.timing.watchdog
  omega

theorem enterSystemConfiguration (guarded : node.Guarded now) :
    (node.enterSystemConfiguration now).value.Guarded now :=
  ⟨guarded.begun, nofun, fun wrong => absurd rfl wrong⟩

/-- A period that begins now, with the watch set anew where there is one. -/
theorem syncSeen (base : TimeBase) (fresh : base.due = now + node.timing.ptu)
    (unasked : node.mode ≠ .systemConfiguration → node.exitRequest.pending = false) :
    (Node.syncSeen { node with timeBase := base } now).value.Guarded now := by
  have period := ptu_le_watchdog node.timing
  by_cases mode : node.mode = .operational
  · have value : (Node.syncSeen { node with timeBase := base } now).value =
        { node with timeBase := base, deadline := some (now + node.timing.watchdog) } := by
      simp only [Node.syncSeen, mode]
      rfl
    rw [value]
    refine ⟨Nat.le_of_eq fresh, fun _ => ⟨_, rfl, ?_⟩, unasked⟩
    show base.due ≤ now + node.timing.watchdog
    omega
  · obtain ⟨deadline, value⟩ := value_syncSeen { node with timeBase := base } now
    rw [value]
    exact ⟨Nat.le_of_eq fresh, fun watching => absurd watching mode, unasked⟩

end Transitions

section Handlers

theorem wake (guarded : node.Guarded now) : (node.wake now).value.Guarded now := by
  unfold Node.wake
  split
  · exact enterPreOperational node now
  · exact guarded

theorem hearSync (guarded : node.Guarded now) (frame : Frame) :
    (node.hearSync now frame).value.Guarded now := by
  unfold Node.hearSync
  split
  · exact guarded
  · split
    · exact guarded
    · rename_i counter _
      by_cases accepted : node.timeBase.accepts frame.id.source = true
      · rw [value_followSync_of_accepts node now _ counter accepted]
        exact syncSeen _ rfl guarded.unasked
      · rw [value_followSync_of_ignores node now _ counter accepted]
        exact guarded

theorem enterCompleted (guarded : node.Guarded now) (source : UInt8) :
    (node.enterCompleted now source).value.Guarded now := by
  unfold Node.enterCompleted
  generalize settled : (if source = node.address then
    { node with enterRequest := node.enterRequest.cancel } else node) = after
  have kept : after.Guarded now := by
    rw [← settled]
    split
    · exact ⟨guarded.begun, guarded.watched, guarded.unasked⟩
    · exact guarded
  dsimp only
  split
  · rename_i mode
    refine ⟨kept.begun, fun wrong => ?_, kept.unasked⟩
    rw [value_setDeadline, mode] at wrong
    cases wrong
  · exact kept.enterSystemConfiguration

theorem hearEnterByte (guarded : node.Guarded now) (source byte : UInt8) :
    (node.hearEnterByte now source byte).value.Guarded now := by
  rw [Node.hearEnterByte, Reaction.value_bind, afterEnterByte]
  have kept : Guarded { node with
      enterListener := (node.enterListener.hear .enter now source byte).value.2 } now :=
    ⟨guarded.begun, guarded.watched, guarded.unasked⟩
  split
  · exact kept.enterCompleted source
  · exact kept

theorem hearExitByte (guarded : node.Guarded now) (source byte : UInt8) :
    (node.hearExitByte now source byte).value.Guarded now := by
  unfold Node.hearExitByte
  split
  · rw [followExitByte, Reaction.value_bind, afterExitByte]
    split
    · exact enterPreOperational _ now
    · exact ⟨guarded.begun, guarded.watched, guarded.unasked⟩
  · exact guarded

theorem receive (guarded : node.Guarded now) (frame : Frame) :
    (node.receive now frame).value.Guarded now := by
  unfold Node.receive
  split
  · exact guarded
  · rw [Reaction.value_bind]
    cases frame.id.control? with
    | none => exact guarded
    | some kind =>
      dsimp only
      unfold obey
      split
      · exact guarded.hearSync frame
      · exact guarded.hearEnterByte _ _
      · exact guarded.hearExitByte _ _
      · exact guarded
      · exact guarded

theorem receive? (guarded : node.Guarded now) (frame : Option Frame) :
    (node.receive? now frame).value.Guarded now := by
  cases frame with
  | none => exact guarded
  | some frame => exact guarded.receive frame

theorem runSync (guarded : node.Guarded now) : (node.runSync now).value.Guarded now := by
  cases due : (node.timeBase.isDue node.station now).value with
  | false =>
    rw [(runSync_of_not_due node now due).2]
    exact guarded
  | true =>
    rw [(runSync_of_due node now due).2.2]
    exact syncSeen _ rfl guarded.unasked

theorem judgeMaster (guarded : node.Guarded now) (mode : node.mode = .preOperational) :
    (node.judgeMaster now).value.Guarded now := by
  unfold Node.judgeMaster
  split
  · rw [Reaction.value_bind, promoteUnless]
    split
    · exact guarded.reopenElection mode
    · split
      · exact guarded.enterOperational mode
      · exact guarded
  · exact guarded

theorem runEnterRequest (guarded : node.Guarded now) :
    (node.runEnterRequest now).value.Guarded now := by
  rw [Node.runEnterRequest, Reaction.value_bind]
  generalize (node.enterRequest.poll .enter now node.timing.ptu).value = polled
  have kept : Guarded { node with enterRequest := polled.2 } now :=
    ⟨guarded.begun, guarded.watched, guarded.unasked⟩
  cases polled.1 with
  | none => exact kept
  | some byte => exact kept.hearEnterByte _ byte

theorem runExitRequest_of_unasked (node : Node) (now : Nat)
    (unasked : node.exitRequest.pending = false) : node.runExitRequest now = pure node := by
  simp [Node.runExitRequest, Handshake.Requester.poll, unasked, sendExitByte]

theorem runExitRequest (guarded : node.Guarded now) :
    (node.runExitRequest now).value.Guarded now := by
  by_cases mode : node.mode = .systemConfiguration
  · rw [Node.runExitRequest, Reaction.value_bind]
    generalize (node.exitRequest.poll .exit now node.timing.ptu).value = polled
    have kept : Guarded { node with exitRequest := polled.2 } now :=
      ⟨guarded.begun, guarded.watched, fun other => absurd mode other⟩
    cases polled.1 with
    | none => exact kept
    | some byte =>
      have heard := kept.hearExitByte node.address byte
      rw [sendExitByte, Reaction.value_bind, Reaction.value_bind, concludeExit]
      split
      · dsimp only
        split
        · exact enterPreOperational _ now
        · exact ⟨heard.begun, heard.watched, fun _ => rfl⟩
      · exact heard
  · rw [runExitRequest_of_unasked node now (guarded.unasked mode)]
    exact guarded

theorem runTimers (guarded : node.Guarded now) : (node.runTimers now).value.Guarded now := by
  unfold Node.runTimers
  split
  · exact guarded
  · rename_i mode
    have kept : (node.runSync now).value.mode = .preOperational := by rw [mode_runSync, mode]
    exact (guarded.runSync.judgeMaster kept).runEnterRequest
  · rw [runOperational, Reaction.value_bind, watchSyncs]
    split
    · exact enterPreOperational _ now
    · exact guarded.runSync.runEnterRequest
  · unfold runSystemConfiguration
    split
    · exact enterPreOperational _ now
    · exact guarded.runEnterRequest.runExitRequest

end Handlers

theorem react (guarded : node.Guarded now) (input : Input) (instant : input.instant = now) :
    (node.react input).value.Guarded now := by
  cases input with
  | tick _ frame =>
    cases instant
    exact (guarded.wake.receive? frame).runTimers
  | requestEnter _ => exact ⟨guarded.begun, guarded.watched, guarded.unasked⟩
  | requestExit _ =>
    unfold Node.react requestExit
    dsimp only
    split
    · rename_i mode
      exact ⟨guarded.begun, guarded.watched, fun other => absurd mode other⟩
    · exact guarded

/-- The timers stay guarded as long as no instant lies before an earlier one. -/
theorem run {seen : Nat} (guarded : node.Guarded seen) (inputs : List Input)
    (ordered : (seen :: (inputs.map Input.instant ++ [now])).Pairwise (· ≤ ·)) :
    (node.run inputs).value.Guarded now := by
  induction inputs generalizing node seen with
  | nil =>
    obtain ⟨past, _⟩ := List.pairwise_cons.mp ordered
    exact guarded.later (past now (List.mem_singleton_self now))
  | cons input rest ih =>
    obtain ⟨past, sorted⟩ := List.pairwise_cons.mp ordered
    have passed : seen ≤ input.instant := past _ (by simp)
    exact ih ((guarded.later passed).react input rfl) sorted

end Guarded

section Handlers

variable (node : Node) (now : Nat)

theorem not_expired_of_lt {deadline : Nat} (set : node.deadline = some deadline)
    (later : now < deadline) : node.expired now = false := by
  have ahead : ¬ deadline ≤ now := by omega
  simp [expired, set, ahead]

end Handlers

/-- The master of the node is itself, or was heard in this instant. -/
def Secure (node : Node) (now : Nat) : Prop :=
  node.timeBase.master = some node.address ∨
    (node.timeBase.due = now + node.timing.ptu ∧ node.timeBase.lastSync = now)

namespace Secure

variable {node : Node} {now : Nat}

/-- A secure node beats if that is due, and keeps its master. Its period is not over
then. -/
theorem runSync (secure : node.Secure now) :
    (node.runSync now).value.timeBase.master = node.timeBase.master ∧
      now < (node.runSync now).value.timeBase.due ∧ (node.runSync now).value.Secure now := by
  have positive : 0 < node.timing.ptu := Timing.ptu_pos _ _
  have lead : node.timing.preemptLead < node.timing.ptu := Timing.preemptLead_lt_ptu _ _
  cases due : (node.timeBase.isDue node.station now).value with
  | false =>
    rw [(runSync_of_not_due node now due).2]
    refine ⟨rfl, ?_, secure⟩
    obtain own | ⟨fresh, _⟩ := secure
    · have master : node.timeBase.isMaster node.station = true := by
        simp [TimeBase.isMaster, own]
      rw [TimeBase.isDue, if_pos master, Reaction.value_pure, decide_eq_false_iff_not] at due
      omega
    · omega
  | true =>
    obtain own | ⟨fresh, _⟩ := secure
    · obtain ⟨deadline, beaten⟩ := value_runSync_of_due node now due
      rw [beaten]
      refine ⟨own.symm, ?_, .inl rfl⟩
      show now < now + node.timing.ptu
      omega
    · rw [TimeBase.not_isDue_of_fresh _ _ now lead fresh] at due
      cases due

theorem not_lost (secure : node.Secure now) :
    (node.timeBase.lost node.station now).value = false := by
  have positive : 0 < node.timing.ptu := Timing.ptu_pos _ _
  have patience : node.timing.ptu ≤ node.timing.slaveTimeout := Timing.ptu_le_slaveTimeout _ _
  unfold TimeBase.lost
  split
  · rfl
  · rename_i foreign
    obtain own | ⟨_, fresh⟩ := secure
    · simp [TimeBase.isMaster, own] at foreign
    · refine decide_eq_false ?_
      rw [fresh, Reaction.value_after, timing_station]
      omega

/-- A secure node is promoted at most. -/
theorem judgeMaster (secure : node.Secure now) :
    (node.judgeMaster now).value.timeBase = node.timeBase := by
  unfold Node.judgeMaster
  split
  · rw [Reaction.value_bind, secure.not_lost, promoteUnless, if_neg (by decide)]
    split <;> rfl
  · rfl

/-- The timers leave a secure node its master and the modes with syncs, however late they
run. -/
theorem runTimers (secure : node.Secure now) (guarded : node.Guarded now)
    (mode : node.Synchronizes) :
    (node.runTimers now).value.timeBase.master = node.timeBase.master ∧
      .preOperational ∉ modes (node.runTimers now).events := by
  obtain ⟨master, running, still⟩ := secure.runSync
  have kept := mode_runSync node now
  obtain mode | mode := mode
  · have value : (node.runTimers now).value =
        (((node.runSync now).value.judgeMaster now).value.runEnterRequest now).value := by
      simp only [Node.runTimers, mode]
      rfl
    have events : modes (node.runTimers now).events =
        modes ((node.runSync now).value.judgeMaster now).events ++
          modes (((node.runSync now).value.judgeMaster now).value.runEnterRequest now).events := by
      simp [Node.runTimers, mode, runPreOperational]
    rw [value, events, timeBase_runEnterRequest, still.judgeMaster]
    refine ⟨master, fun told => ?_⟩
    cases List.mem_append.mp told with
    | inl judged => exact absurd (modes_judgeMaster _ now _ judged) (by decide)
    | inr asked => exact absurd (modes_runEnterRequest _ now _ asked) (by decide)
  · rw [mode] at kept
    obtain ⟨deadline, set, late⟩ := guarded.runSync.watched kept
    have fed : (node.runSync now).value.expired now = false :=
      not_expired_of_lt _ now set (by omega)
    have value : (node.runTimers now).value =
        ((node.runSync now).value.runEnterRequest now).value := by
      simp [Node.runTimers, mode, runOperational, watchSyncs, fed]
    have events : modes (node.runTimers now).events =
        modes ((node.runSync now).value.runEnterRequest now).events := by
      simp [Node.runTimers, mode, runOperational, watchSyncs, fed]
    rw [value, events, timeBase_runEnterRequest]
    refine ⟨master, fun asked => ?_⟩
    exact absurd (modes_runEnterRequest _ now _ asked) (by decide)

end Secure

/-- System Configuration began in this instant, and nothing waits to be sent. -/
structure Configured (node : Node) (now : Nat) : Prop where
  mode : node.mode = .systemConfiguration
  deadline : node.deadline = some (now + configurationTimeout)
  entered : node.enterRequest.pending = false
  unasked : node.exitRequest.pending = false

/-- System Configuration has nothing to do in the instant in which it began. -/
theorem Configured.runTimers {node : Node} {now : Nat} (configured : node.Configured now) :
    node.runTimers now = pure node := by
  have positive : 0 < configurationTimeout := by decide
  have running : node.expired now = false :=
    node.not_expired_of_lt now configured.deadline (Nat.lt_add_of_pos_right positive)
  have idle : node.runEnterRequest now = pure node := by
    simp [runEnterRequest, Handshake.Requester.poll, configured.entered, sendEnterByte]
  simp [Node.runTimers, configured.mode, runSystemConfiguration, running, runRequests, idle,
    Guarded.runExitRequest_of_unasked node now configured.unasked]

end Node

/-- A well-formed sync of an address below the given one. -/
def Frame.Deposes (frame : Frame) (address : UInt8) : Prop :=
  frame.IsSync ∧ frame.syncCounter?.isSome = true ∧ frame.id.source < address

instance (frame : Frame) (address : UInt8) : Decidable (frame.Deposes address) :=
  inferInstanceAs (Decidable (_ ∧ _ ∧ _))

namespace Node

/-- Who is master after a tick in which the node began as master: the sender of the frame
that deposes it, or still the node. -/
def heir (address : UInt8) : Option Frame → UInt8
  | some frame => if frame.Deposes address then frame.id.source else address
  | none => address

/-- What reception leaves to the timers of a node that was master: an heir that the
timers respect, in a mode with syncs or in System Configuration that just began. -/
structure Succession (node : Node) (now : Nat) (master : UInt8) (received : Reaction Node) :
    Prop where
  held : received.value.timeBase.master = some master
  ready : (received.value.Synchronizes ∧ received.value.Secure now) ∨
    received.value.Configured now
  stays : .preOperational ∉ modes received.events

section Reception

variable {node : Node} {now : Nat} (own : node.timeBase.master = some node.address)
  (mode : node.Synchronizes) (unasked : node.exitRequest.pending = false)
include own mode

theorem succession_idle {received : Reaction Node} (same : received.value = node)
    (untold : modes received.events = []) : node.Succession now node.address received := by
  refine ⟨?_, .inl ?_, ?_⟩
  · rw [same, own]
  · rw [same]
    exact ⟨mode, .inl own⟩
  · rw [untold]
    exact List.not_mem_nil

theorem succession_hearSync (frame : Frame) (sync : frame.IsSync)
    (foreign : frame.id.source ≠ node.address) :
    node.Succession now (heir node.address (some frame)) (node.hearSync now frame) := by
  have untold := modes_hearSync node now frame
  cases counted : frame.syncCounter? with
  | none =>
    have kept : ¬ frame.Deposes node.address := by simp [Frame.Deposes, counted]
    have same : (node.hearSync now frame).value = node := by
      rw [hearSync, if_neg mode.not_configuring, counted]
      rfl
    rw [heir, if_neg kept]
    exact succession_idle own mode same untold
  | some counter =>
    have followed : (node.hearSync now frame).value =
        (node.followSync now frame.id.source counter).value := by
      rw [hearSync, if_neg mode.not_configuring, counted]
    by_cases lower : frame.id.source < node.address
    · have accepted : node.timeBase.accepts frame.id.source = true := by
        simp [TimeBase.accepts, own, UInt8.le_of_lt lower]
      have deposed : frame.Deposes node.address := ⟨sync, by rw [counted]; rfl, lower⟩
      obtain ⟨deadline, counts⟩ :=
        value_followSync_of_counts node now frame.id.source counter accepted
      rw [counts] at followed
      rw [heir, if_pos deposed]
      refine ⟨?_, .inl ?_, ?_⟩
      · rw [followed]
        rfl
      · rw [followed]
        exact ⟨mode, .inr ⟨rfl, rfl⟩⟩
      · rw [untold]
        exact List.not_mem_nil
    · have higher : ¬ frame.id.source ≤ node.address := fun low =>
        lower (UInt8.lt_of_le_of_ne low foreign)
      have ignored : ¬ node.timeBase.accepts frame.id.source = true := by
        simpa [TimeBase.accepts, own] using higher
      have kept : ¬ frame.Deposes node.address := fun deposed => lower deposed.2.2
      rw [value_followSync_of_ignores node now _ _ ignored] at followed
      rw [heir, if_neg kept]
      exact succession_idle own mode followed untold

include unasked

theorem succession_hearEnterByte (source byte : UInt8) :
    node.Succession now node.address (node.hearEnterByte now source byte) := by
  have stays : .preOperational ∉ modes (node.hearEnterByte now source byte).events := by
    rw [modes_hearEnterByte]
    split <;> simp
  refine ⟨(congrArg TimeBase.master (timeBase_hearEnterByte node now source byte)).trans own, ?_,
    stays⟩
  by_cases complete : (node.enterListener.hear .enter now source byte).value.1 = .complete
  · obtain ⟨request, listener, value, -, served⟩ :=
      value_hearEnterByte_of_complete node now source byte complete
    rw [value]
    exact .inr ⟨rfl, rfl, (served mode.not_configuring).1, unasked⟩
  · rw [value_hearEnterByte_of_incomplete node now source byte complete]
    exact .inl ⟨mode, .inl own⟩

theorem succession_receive (frame : Frame) :
    node.Succession now (heir node.address (some frame)) (node.receive now frame) := by
  have keeps (none_deposes : ¬ frame.Deposes node.address) :
      heir node.address (some frame) = node.address := if_neg none_deposes
  by_cases foreign : frame.id.source = node.address
  · have kept : ¬ frame.Deposes node.address := by
      intro deposed
      exact UInt8.ne_of_lt deposed.2.2 foreign
    rw [keeps kept, receive, if_pos foreign]
    exact succession_idle own mode rfl rfl
  · -- The copy for the application neither changes the node nor announces a mode.
    have told {reaction : Reaction Node} {master : UInt8}
        (succession : node.Succession now master reaction) :
        node.Succession now master (do
          Reaction.notify (node.delivery frame)
          reaction) := by
      refine ⟨succession.held, succession.ready, ?_⟩
      simpa using succession.stays
    rw [receive, if_neg foreign]
    cases kind : frame.id.control? with
    | none =>
      rw [keeps fun deposed => by simp [Frame.Deposes, Frame.IsSync, kind] at deposed]
      exact told (succession_idle own mode rfl rfl)
    | some control =>
      apply told
      cases control with
      | sync => exact succession_hearSync own mode frame kind foreign
      | enterConfig =>
        rw [keeps fun deposed => by simp [Frame.Deposes, Frame.IsSync, kind] at deposed]
        unfold obey
        cases frame.payload.head? with
        | none => exact succession_idle own mode rfl rfl
        | some byte => exact succession_hearEnterByte own mode unasked _ byte
      | exitConfig =>
        rw [keeps fun deposed => by simp [Frame.Deposes, Frame.IsSync, kind] at deposed]
        unfold obey
        cases frame.payload.head? with
        | none => exact succession_idle own mode rfl rfl
        | some byte =>
          dsimp only
          rw [hearExitByte, if_neg mode.not_configuring]
          exact succession_idle own mode rfl rfl

theorem succession_receive? (frame : Option Frame) :
    node.Succession now (heir node.address frame) (node.receive? now frame) := by
  cases frame with
  | none => exact succession_idle own mode rfl rfl
  | some frame => exact succession_receive own mode unasked frame

end Reception

/-- A tick of a master leaves the office to its heir. -/
theorem succession_tick {node : Node} {now : Nat} (guarded : node.Guarded now)
    (own : node.timeBase.master = some node.address) (mode : node.Synchronizes)
    (frame : Option Frame) :
    (node.tick now frame).value.timeBase.master = some (heir node.address frame) ∧
      .preOperational ∉ modes (node.tick now frame).events := by
  have tick : node.tick now frame =
      (node.receive? now frame >>= fun ready => ready.runTimers now) := by
    rw [Node.tick, wake, if_neg mode.on, pure_bind]
  obtain ⟨held, ready, stays⟩ :=
    succession_receive? own mode (guarded.unasked mode.not_configuring) frame
  rw [tick, Reaction.value_bind, Reaction.events_bind, modes_append, List.mem_append, not_or]
  obtain ⟨synchronizes, secure⟩ | configured := ready
  · obtain ⟨master, stillStays⟩ := secure.runTimers (guarded.receive? frame) synchronizes
    exact ⟨master.trans held, stays, stillStays⟩
  · rw [configured.runTimers]
    exact ⟨held, stays, List.not_mem_nil⟩

end Node

/-- Over every run of a node whose instants never go back, a master stays master through
every tick, however late that comes, unless the tick brings the well-formed sync of a
lower address, which is master then. Either way the tick does not lead to PreOperational. -/
theorem master_is_deposed_by_lower_address_only (config : Config) (origin : Nat)
    (inputs : List Node.Input) (now : Nat) (frame : Option Frame)
    (ordered : (origin :: (inputs.map Node.Input.instant ++ [now])).Pairwise (· ≤ ·)) :
    let node := (Node.start config origin >>= fun node => node.run inputs).value
    node.Synchronizes → node.timeBase.master = some config.address →
      (node.tick now frame).value.timeBase.master = some (Node.heir config.address frame) ∧
        .modeChanged .preOperational ∉ (node.tick now frame).events := by
  intro node mode own
  have guarded : node.Guarded now := (Node.Guarded.start config origin).run inputs ordered
  have address : node.address = config.address :=
    congrArg Config.address (Node.config_run (Node.start config origin).value inputs)
  rw [← address] at own ⊢
  rw [← mem_modes_iff]
  exact Node.succession_tick guarded own mode frame

/-- A master that is not ticked for a quarter of an hour is master and Operational
afterwards. -/
theorem ten_outlasts_its_watchdog :
    let config := Config.candidate 10 (by decide)
    let inputs : List Node.Input := [.tick 0 none, .tick 7813 none, .tick 20000 none]
    let node := (Node.start config 0 >>= fun node => node.run inputs).value
    (0 :: (inputs.map Node.Input.instant ++ [900000000])).Pairwise (· ≤ ·) ∧
      node.Synchronizes ∧ node.timeBase.master = some config.address ∧
      (node.tick 900000000 none).value.timeBase.master = some config.address ∧
      .modeChanged .preOperational ∉ (node.tick 900000000 none).events := by
  have promoted :
      let config := Config.candidate 10 (by decide)
      let inputs : List Node.Input := [.tick 0 none, .tick 7813 none, .tick 20000 none]
      let node := (Node.start config 0 >>= fun node => node.run inputs).value
      (0 :: (inputs.map Node.Input.instant ++ [900000000])).Pairwise (· ≤ ·) ∧
        node.mode = .operational ∧ node.timeBase.master = some config.address := by
    decide +kernel
  obtain ⟨ordered, mode, own⟩ := promoted
  exact ⟨ordered, .inr mode, own,
    master_is_deposed_by_lower_address_only _ _ _ _ none ordered (.inr mode) own⟩

end VehicleBus
