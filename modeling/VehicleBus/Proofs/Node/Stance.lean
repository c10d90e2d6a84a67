import VehicleBus.Proofs.Node.Emissions

/-!
Where a node stands in the election while no handshake is asked for: it waits without a
master, or it holds one. What a sync that is heard, a sync that is due and an instant
without either make of the two is stated with instants only. The address of the master
tells whether the node itself is the one that holds the network.
-/
namespace VehicleBus.Node

/-- In PreOperational, without a master since an instant. -/
structure Waiting (node : Node) (since : Nat) : Prop where
  idle : node.enterRequest.pending = false
  mode : node.mode = .preOperational
  undecided : node.timeBase.master = none
  due : node.timeBase.due = since + node.timing.ptu
  unset : node.deadline = none

/-- With a master whose latest sync came, or went, at one instant and whose first one at
another. The first one sets the instant of promotion, the latest one feeds the watchdog. -/
structure Holding (node : Node) (master : UInt8) (latest first : Nat) : Prop where
  idle : node.enterRequest.pending = false
  held : node.timeBase.master = some master
  due : node.timeBase.due = latest + node.timing.ptu
  lastSync : node.timeBase.lastSync = latest
  stage :
    (node.mode = .preOperational ∧ node.deadline = some (first + node.timing.slaveTimeout)) ∨
    (node.mode = .operational ∧
      ∃ deadline, node.deadline = some deadline ∧ latest + node.timing.watchdog ≤ deadline)

/-- The instant of promotion did not pass without promotion. -/
def Judged (node : Node) (first seen : Nat) : Prop :=
  node.mode = .operational ∨ seen < first + node.timing.slaveTimeout

variable {node : Node} {since latest first now : Nat} {master source : UInt8}

theorem Waiting.synchronizes (waiting : node.Waiting since) : node.Synchronizes :=
  .inl waiting.mode

theorem Holding.synchronizes (holding : node.Holding master latest first) :
    node.Synchronizes := by
  obtain ⟨mode, _⟩ | ⟨mode, _⟩ := holding.stage
  · exact .inl mode
  · exact .inr mode

section Seen

variable (base : TimeBase) (held : base.master = some master)
  (due : base.due = now + node.timing.ptu) (lastSync : base.lastSync = now)
include held due lastSync

/-- The first sync that counts starts the wait for promotion. -/
theorem Waiting.seen (waiting : node.Waiting since) :
    (syncSeen { node with timeBase := base } now).value.Holding master now now := by
  have value : (syncSeen { node with timeBase := base } now).value =
      { node with timeBase := base, deadline := some (now + node.timing.slaveTimeout) } := by
    simp only [syncSeen, waiting.mode, waiting.unset]
    rfl
  rw [value]
  exact ⟨waiting.idle, held, due, lastSync, .inl ⟨waiting.mode, rfl⟩⟩

/-- A later sync that counts leaves the instant of promotion where it is and feeds the
watchdog. -/
theorem Holding.seen {former : UInt8} (holding : node.Holding former latest first) :
    (syncSeen { node with timeBase := base } now).value.Holding master now first := by
  obtain ⟨mode, deadline⟩ | ⟨mode, _⟩ := holding.stage
  · have value : (syncSeen { node with timeBase := base } now).value =
        { node with timeBase := base } := by
      simp only [syncSeen, mode, deadline]
      rfl
    rw [value]
    exact ⟨holding.idle, held, due, lastSync, .inl ⟨mode, deadline⟩⟩
  · have value : (syncSeen { node with timeBase := base } now).value =
        { node with timeBase := base, deadline := some (now + node.timing.watchdog) } := by
      simp only [syncSeen, mode]
      rfl
    rw [value]
    refine ⟨holding.idle, held, due, lastSync, .inr ⟨mode, _, rfl, ?_⟩⟩
    exact Nat.le_refl _

end Seen

section Reception

variable (now) (counter : Nat) (foreign : source ≠ node.address)
include foreign

theorem Waiting.hear (waiting : node.Waiting since) :
    (node.receive now (Frame.sync source counter)).value.Holding source now now := by
  have accepted : node.timeBase.accepts source = true := by
    simp [TimeBase.accepts, waiting.undecided]
  rw [value_receive_sync node now _ _ waiting.synchronizes (Frame.isSync_sync source counter)
    (Frame.syncCounter?_sync source counter) (by simpa using foreign)]
  simp only [Frame.id_sync, Identifier.source_ofControl]
  rw [value_followSync_of_accepts node now source _ accepted]
  exact waiting.seen _ rfl rfl rfl

theorem Holding.hear (holding : node.Holding master latest first) (low : source ≤ master) :
    (node.receive now (Frame.sync source counter)).value.Holding source now first := by
  have accepted : node.timeBase.accepts source = true := by
    simp [TimeBase.accepts, holding.held, low]
  rw [value_receive_sync node now _ _ holding.synchronizes (Frame.isSync_sync source counter)
    (Frame.syncCounter?_sync source counter) (by simpa using foreign)]
  simp only [Frame.id_sync, Identifier.source_ofControl]
  rw [value_followSync_of_accepts node now source _ accepted]
  exact holding.seen _ rfl rfl rfl

theorem Holding.ignore (holding : node.Holding master latest first) (high : master < source) :
    (node.receive now (Frame.sync source counter)).value = node := by
  have ignored : ¬ node.timeBase.accepts source = true := by
    simp [TimeBase.accepts, holding.held, high]
  rw [value_receive_sync node now _ _ holding.synchronizes (Frame.isSync_sync source counter)
    (Frame.syncCounter?_sync source counter) (by simpa using foreign)]
  simp only [Frame.id_sync, Identifier.source_ofControl]
  exact value_followSync_of_ignores node now source _ ignored

end Reception

section Due

variable (now)

theorem Waiting.isDue_iff (waiting : node.Waiting since)
    (candidate : node.config.options.syncMaster = true) :
    (node.timeBase.isDue node.station now).value = true ↔
      since + node.timing.ptu ≤ now + node.timing.preemptLead := by
  have foreign : node.timeBase.isMaster node.station = false := by
    simp [TimeBase.isMaster, waiting.undecided]
  have claims : node.timeBase.mayClaim node.station = true := by
    simp [TimeBase.mayClaim, waiting.undecided, station, Config.station, candidate]
  rw [TimeBase.isDue, foreign, claims, waiting.due]
  exact decide_eq_true_iff

theorem Holding.isDue_iff_of_own (holding : node.Holding node.address latest first) :
    (node.timeBase.isDue node.station now).value = true ↔ latest + node.timing.ptu ≤ now := by
  have own : node.timeBase.isMaster node.station = true := by
    simp [TimeBase.isMaster, holding.held]
  rw [TimeBase.isDue, own, holding.due]
  exact decide_eq_true_iff

theorem Holding.isDue_iff_of_higher (holding : node.Holding master latest first)
    (higher : node.address < master) (candidate : node.config.options.syncMaster = true) :
    (node.timeBase.isDue node.station now).value = true ↔
      latest + node.timing.ptu ≤ now + node.timing.preemptLead := by
  have foreign : node.timeBase.isMaster node.station = false := by
    simpa [TimeBase.isMaster, holding.held] using (UInt8.ne_of_lt higher).symm
  have claims : node.timeBase.mayClaim node.station = true := by
    have stands : node.station.candidate = true := candidate
    rw [TimeBase.mayClaim, stands, holding.held, Bool.true_and]
    exact decide_eq_true higher
  rw [TimeBase.isDue, foreign, claims, holding.due]
  exact decide_eq_true_iff

theorem Holding.isDue_eq_of_lower (holding : node.Holding master latest first)
    (lower : master < node.address) :
    (node.timeBase.isDue node.station now).value = false := by
  have foreign : node.timeBase.isMaster node.station = false := by
    simpa [TimeBase.isMaster, holding.held] using UInt8.ne_of_lt lower
  have silent : node.timeBase.mayClaim node.station = false := by
    have weaker : ¬ node.station.address < master := UInt8.not_lt.mpr (UInt8.le_of_lt lower)
    rw [TimeBase.mayClaim, holding.held, Bool.and_eq_false_iff]
    exact .inr (decide_eq_false weaker)
  rw [TimeBase.isDue, foreign, silent]
  rfl

end Due

/-- What follows a sync in the modes with syncs. -/
def settle (node : Node) (now : Nat) : Reaction Node :=
  match node.mode with
  | .preOperational => do
    let judged ← node.judgeMaster now
    judged.runEnterRequest now
  | _ => node.watchSyncs now

theorem runTimers_eq (node : Node) (now : Nat) (mode : node.Synchronizes) :
    node.runTimers now = (node.runSync now >>= fun beaten => beaten.settle now) := by
  have kept := mode_runSync node now
  apply Reaction.ext_fields <;>
  · cases mode with
    | inl mode => simp [runTimers, mode, runPreOperational, settle, kept]
    | inr mode => simp [runTimers, mode, runOperational, settle, kept]

theorem runEnterRequest_of_idle (node : Node) (now : Nat)
    (idle : node.enterRequest.pending = false) : node.runEnterRequest now = pure node := by
  simp [runEnterRequest, Handshake.Requester.poll, idle, sendEnterByte]

theorem Waiting.settle_eq (waiting : node.Waiting since) : node.settle now = pure node := by
  have unjudged : node.judgeMaster now = pure node := by
    simp [judgeMaster, waiting.undecided]
  simp only [settle, waiting.mode]
  rw [unjudged, pure_bind]
  exact runEnterRequest_of_idle node now waiting.idle

theorem settle_of_judgeMaster {judged : Node} (mode : node.mode = .preOperational)
    (value : (node.judgeMaster now).value = judged) (idle : judged.enterRequest.pending = false) :
    (node.settle now).value = judged ∧ (node.settle now).transmit = [] := by
  have quiet := runEnterRequest_of_idle judged now idle
  constructor
  · simp only [settle, mode, Reaction.value_bind, value, quiet, Reaction.value_pure]
  · simp only [settle, mode, Reaction.transmit_bind, transmit_judgeMaster, value, quiet,
      Reaction.transmit_pure, List.append_nil]

/-- A node that hears its master in time does not give it up. -/
theorem Holding.not_lost (holding : node.Holding master latest first)
    (heard : master = node.address ∨ now < latest + node.timing.slaveTimeout) :
    (node.timeBase.lost node.station now).value = false := by
  unfold TimeBase.lost
  split
  · rfl
  · rename_i foreign
    cases heard with
    | inl own =>
      rw [TimeBase.isMaster, holding.held, own] at foreign
      simp at foreign
    | inr heard =>
      refine decide_eq_false ?_
      rw [holding.lastSync, Reaction.value_after, timing_station]
      omega

/-- A node that hears its master in time keeps it, and is promoted in time. -/
theorem Holding.settle (holding : node.Holding master latest first) (past : latest ≤ now)
    (heard : master = node.address ∨ now < latest + node.timing.slaveTimeout)
    (watched : now < latest + node.timing.watchdog) :
    (node.settle now).value.Holding master latest first ∧
      (node.settle now).value.Judged first now ∧ (node.settle now).transmit = [] := by
  have lost := holding.not_lost heard
  have idle := holding.idle
  obtain ⟨mode, deadline⟩ | ⟨mode, deadline, set, late⟩ := holding.stage
  · by_cases due : first + node.timing.slaveTimeout ≤ now
    · have expired : node.expired now = true := by simp [Node.expired, deadline, due]
      have promoted : (node.judgeMaster now).value = (node.enterOperational now).value := by
        simp [judgeMaster, holding.held, lost, promoteUnless, expired]
      obtain ⟨settled, unsent⟩ := settle_of_judgeMaster mode promoted idle
      rw [settled]
      refine ⟨?_, .inl rfl, unsent⟩
      refine ⟨idle, holding.held, holding.due, holding.lastSync, .inr ⟨rfl, _, rfl, ?_⟩⟩
      exact Nat.add_le_add_right past _
    · have early : node.expired now = false := by simpa [Node.expired, deadline] using due
      have unjudged : (node.judgeMaster now).value = node := by
        simp [judgeMaster, holding.held, lost, promoteUnless, early]
      obtain ⟨settled, unsent⟩ := settle_of_judgeMaster mode unjudged idle
      rw [settled]
      exact ⟨holding, .inr (Nat.lt_of_not_le due), unsent⟩
  · have fed : node.expired now = false := by
      have ahead : ¬ deadline ≤ now := by omega
      simp [Node.expired, set, ahead]
    have settled : node.settle now = pure node := by
      simp only [Node.settle, mode, watchSyncs, fed]
      exact runEnterRequest_of_idle node now idle
    rw [settled]
    exact ⟨holding, .inl mode, rfl⟩

section Timers

theorem Waiting.runTimers_of_not_due (waiting : node.Waiting since)
    (early : (node.timeBase.isDue node.station now).value = false) :
    (node.runTimers now).value = node ∧ (node.runTimers now).transmit = [] := by
  obtain ⟨quiet, same⟩ := runSync_of_not_due node now early
  have settled : node.settle now = pure node := waiting.settle_eq
  rw [runTimers_eq node now waiting.synchronizes]
  constructor
  · rw [Reaction.value_bind, same, settled, Reaction.value_pure]
  · rw [Reaction.transmit_bind, same, settled, quiet.unsent, Reaction.transmit_pure,
      List.append_nil]

theorem Holding.runTimers_of_not_due (holding : node.Holding master latest first)
    (early : (node.timeBase.isDue node.station now).value = false) (past : latest ≤ now)
    (heard : master = node.address ∨ now < latest + node.timing.slaveTimeout)
    (watched : now < latest + node.timing.watchdog) :
    (node.runTimers now).value.Holding master latest first ∧
      (node.runTimers now).value.Judged first now ∧ (node.runTimers now).transmit = [] := by
  obtain ⟨quiet, same⟩ := runSync_of_not_due node now early
  obtain ⟨still, judged, unsent⟩ := holding.settle past heard watched
  rw [runTimers_eq node now holding.synchronizes, Reaction.value_bind, Reaction.transmit_bind,
    same, quiet.unsent, unsent]
  exact ⟨still, judged, rfl⟩

/-- A beat makes the node its own master at once, and nothing that follows undoes it. -/
theorem runTimers_of_beat (mode : node.Synchronizes)
    (due : (node.timeBase.isDue node.station now).value = true)
    (beaten : (node.runSync now).value.Holding node.address now first) :
    (node.runTimers now).value.Holding node.address now first ∧
      (node.runTimers now).value.Judged first now ∧
      ∃ counter, (node.runTimers now).transmit = [Frame.sync node.address counter] := by
  have address : (node.runSync now).value.address = node.address :=
    congrArg Config.address ((configured_stages now).runSync node mode)
  have positive : 0 < (node.runSync now).value.timing.ptu := Timing.ptu_pos _ _
  have watched : now < now + (node.runSync now).value.timing.watchdog := by
    unfold Timing.watchdog Timing.watchdogPtus
    omega
  obtain ⟨still, judged, unsent⟩ := beaten.settle (Nat.le_refl now) (.inl address.symm) watched
  rw [runTimers_eq node now mode, Reaction.value_bind, Reaction.transmit_bind, unsent,
    (runSync_of_due node now due).1]
  exact ⟨still, judged, _, rfl⟩

theorem Waiting.runTimers_of_due (waiting : node.Waiting since)
    (due : (node.timeBase.isDue node.station now).value = true) :
    (node.runTimers now).value.Holding node.address now now ∧
      (node.runTimers now).value.Judged now now ∧
      ∃ counter, (node.runTimers now).transmit = [Frame.sync node.address counter] := by
  apply runTimers_of_beat waiting.synchronizes due
  rw [(runSync_of_due node now due).2.2]
  exact waiting.seen _ rfl rfl rfl

theorem Holding.runTimers_of_due (holding : node.Holding master latest first)
    (due : (node.timeBase.isDue node.station now).value = true) :
    (node.runTimers now).value.Holding node.address now first ∧
      (node.runTimers now).value.Judged first now ∧
      ∃ counter, (node.runTimers now).transmit = [Frame.sync node.address counter] := by
  apply runTimers_of_beat holding.synchronizes due
  rw [(runSync_of_due node now due).2.2]
  exact holding.seen _ rfl rfl rfl

/-- Nothing is due in the instant in which a sync was heard. -/
theorem Holding.runTimers_of_heard (holding : node.Holding master now first) :
    (node.runTimers now).value.Holding master now first ∧
      (node.runTimers now).value.Judged first now ∧ (node.runTimers now).transmit = [] := by
  have positive : 0 < node.timing.ptu := Timing.ptu_pos _ _
  have patience : node.timing.ptu ≤ node.timing.slaveTimeout := Timing.ptu_le_slaveTimeout _ _
  have early := not_due_of_fresh node now holding.due
  apply holding.runTimers_of_not_due early (Nat.le_refl now)
  · right
    omega
  · unfold Timing.watchdog Timing.watchdogPtus
    omega

end Timers

section Tick

theorem wake_of_synchronizes (mode : node.Synchronizes) : node.wake now = pure node := by
  rw [wake, if_neg mode.on]

theorem value_tick (mode : node.Synchronizes) (frame : Option Frame) :
    (node.tick now frame).value = ((node.receive? now frame).value.runTimers now).value := by
  rw [tick, wake_of_synchronizes mode]
  rfl

theorem transmit_tick_of_synchronizes (mode : node.Synchronizes) (frame : Option Frame) :
    (node.tick now frame).transmit =
      ((node.receive? now frame).value.runTimers now).transmit := by
  rw [transmit_tick, wake_of_synchronizes mode]
  rfl

/-- A node that is switched on waits for a master. -/
theorem waiting_wake (now : Nat) (off : node.mode = .powerOff)
    (idle : node.enterRequest.pending = false) :
    (node.wake now).value.Waiting now := by
  rw [wake, if_pos off]
  exact ⟨idle, rfl, rfl, rfl, rfl⟩

end Tick

end VehicleBus.Node
