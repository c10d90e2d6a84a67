import VehicleBus.Proofs.Node.Configuration

/-!
What one step makes of the mode, the time base and the deadline of a node. A step leaves all
three alone, counts a sync, opens the election in PreOperational, promotes the node or brings
it to System Configuration; each case comes with what it takes. Whether a sync counts and
whether a byte completes the enter sequence is told by the frames of the step, so an
invariant over the steps of a run needs the five cases and no handler.
-/
namespace VehicleBus.Node

section Syncs

/-- A frame brings a sync that counts: it carries a counter, syncs are exchanged, and no
address below the sender's is master. -/
def Accepts (node : Node) (frame : Frame) : Prop :=
  node.Synchronizes ∧ frame.IsSync ∧ frame.syncCounter?.isSome = true ∧
    node.timeBase.accepts frame.id.source = true

instance (node : Node) (frame : Frame) : Decidable (node.Accepts frame) :=
  inferInstanceAs (Decidable (_ ∧ _ ∧ _ ∧ _))

/-- A sync is accepted from another node in a step, or one is sent. -/
def Syncs (node : Node) (step : Step) : Prop :=
  (∃ frame ∈ node.taken step, node.Accepts frame) ∨
    ∃ frame ∈ (node.perform step).transmit, frame.IsSync

instance (node : Node) (step : Step) : Decidable (node.Syncs step) :=
  inferInstanceAs (Decidable (_ ∨ _))

/-- A byte of a step is the last one of the enter sequence, as the listener takes it. -/
def Completing (node : Node) (step : Step) : Prop :=
  ∃ byte ∈ node.handled step,
    (node.enterListener.hear .enter byte.now byte.source byte.byte).value.1 = .complete

variable {node : Node} {step : Step}

/-- Without a sync among its frames a step counts none. -/
theorem not_syncs (taken : ∀ frame ∈ node.taken step, ¬ node.Accepts frame)
    (sent : ∀ frame ∈ (node.perform step).transmit, ¬ frame.IsSync) : ¬ node.Syncs step := by
  rintro (⟨frame, heard, accepted⟩ | ⟨frame, told, sync⟩)
  · exact taken frame heard accepted
  · exact sent frame told sync

/-- Without a byte of the enter sequence among its frames a step completes nothing. -/
theorem not_completing (none : node.handled step = []) : ¬ node.Completing step := by
  rintro ⟨byte, member, -⟩
  rw [none] at member
  cases member

/-- The marks before tell whether a step completes the enter sequence. -/
theorem Tracks.completing_iff {marks : List Mark} (tracks : node.Tracks marks.reverse)
    (step : Step) :
    node.Completing step ↔ ∃ byte ∈ node.handled step, Completes marks byte := by
  have verdict (byte : Handshake.Heard) := (Handshake.Listener.hear_answers byte tracks).2
  simp only [Completing, ← finishes_latestBytes_iff, verdict]

end Syncs

/-- A node in a mode with syncs after a sync that counted at an instant. The first one in
PreOperational sets the deadline, each one in Operational moves it. -/
structure Fed (node : Node) (now : Nat) (after : Node) : Prop where
  mode : after.mode = node.mode
  synchronizes : node.Synchronizes
  held : after.timeBase.master.isSome = true
  latest : after.timeBase.lastSync = now
  waiting : node.mode = .preOperational →
    after.deadline = some (node.deadline.getD (now + node.timing.slaveTimeout))
  watched : node.mode = .operational → after.deadline = some (now + node.timing.watchdog)

/-- What a step makes of the mode, the time base and the deadline. -/
inductive Moves (node : Node) (step : Step) (after : Node) : Prop
  | rests (unsynced : ¬ node.Syncs step) (incomplete : ¬ node.Completing step)
      (mode : after.mode = node.mode) (timeBase : after.timeBase = node.timeBase)
      (deadline : after.deadline = node.deadline)
  | syncs (synced : node.Syncs step) (incomplete : ¬ node.Completing step)
      (fed : node.Fed step.now after)
  /-- Operational is left in this way only where it is given up. -/
  | opens (unsynced : ¬ node.Syncs step) (incomplete : ¬ node.Completing step)
      (origin : step.duty = .abandon ∨ node.mode ≠ .operational)
      (mode : after.mode = .preOperational) (vacant : after.timeBase.master = none)
      (unset : after.deadline = none)
  | promotes (unsynced : ¬ node.Syncs step) (incomplete : ¬ node.Completing step)
      (waiting : node.mode = .preOperational) (held : node.timeBase.master.isSome = true)
      (mode : after.mode = .operational) (timeBase : after.timeBase = node.timeBase)
      (deadline : after.deadline = some (step.now + node.timing.watchdog))
  | configures (unsynced : ¬ node.Syncs step) (complete : node.Completing step)
      (mode : after.mode = .systemConfiguration) (timeBase : after.timeBase = node.timeBase)
      (deadline : after.deadline = some (step.now + configurationTimeout))

section Duties

variable (node : Node) (now : Nat)

/-- A new period of a master is what a sync leaves behind. -/
theorem fed_syncSeen (base : TimeBase) (mode : node.Synchronizes)
    (held : base.master.isSome = true) (latest : base.lastSync = now) :
    node.Fed now (syncSeen { node with timeBase := base } now).value := by
  obtain ⟨deadline, seen⟩ := value_syncSeen { node with timeBase := base } now
  refine ⟨?_, mode, ?_, ?_, ?_, ?_⟩
  · rw [seen]
  · rw [seen]
    exact held
  · rw [seen]
    exact latest
  · intro waiting
    unfold syncSeen
    cases node.deadline <;> simp only [waiting] <;> rfl
  · intro watching
    unfold syncSeen
    simp only [watching]
    rfl

/-- A step without frames that leaves everything alone. -/
theorem moves_of_mute {step : Step} {after : Node} (taken : node.taken step = [])
    (sent : (node.perform step).transmit = []) (mode : after.mode = node.mode)
    (timeBase : after.timeBase = node.timeBase) (deadline : after.deadline = node.deadline) :
    node.Moves step after := by
  refine .rests (not_syncs ?_ ?_) (not_completing ?_) mode timeBase deadline
  · simp [taken]
  · simp [sent]
  · simp [handled, taken, sent]

theorem moves_wake : node.Moves ⟨now, .wake⟩ (node.wake now).value := by
  by_cases off : node.mode = .powerOff
  · refine .opens (not_syncs nofun ?_) (not_completing ?_) (.inr ?_) ?_ ?_ ?_
    · simp [perform]
    · simp [handled, taken, perform]
    · rw [off]
      decide
    all_goals
      rw [wake, if_pos off]
      rfl
  · rw [wake, if_neg off]
    exact moves_of_mute node rfl (transmit_wake node now) rfl rfl rfl

section Reception

variable {node now} {frame : Frame} (foreign : frame.id.source ≠ node.address)
include foreign

theorem taken_receive : node.taken ⟨now, .receive (some frame)⟩ = [frame] := if_neg foreign

theorem not_syncs_receive (other : ¬ node.Accepts frame) :
    ¬ node.Syncs ⟨now, .receive (some frame)⟩ := by
  refine not_syncs ?_ ?_
  · rw [taken_receive foreign]
    simpa using other
  · simp [perform]

theorem handled_receive :
    node.handled ⟨now, .receive (some frame)⟩ = (frame.enterByte? now).toList := by
  rw [handled, taken_receive foreign]
  cases carried : frame.enterByte? now <;> simp [perform, carried]

theorem value_receive {kind : ControlKind} (control : frame.id.control? = some kind) :
    (node.receive now frame).value = (node.obey now kind frame).value := by
  rw [receive, if_neg foreign, Reaction.value_bind, control]

theorem moves_hearSync (on : node.mode ≠ .powerOff) (sync : frame.IsSync) :
    node.Moves ⟨now, .receive (some frame)⟩ (node.hearSync now frame).value := by
  have incomplete : ¬ node.Completing ⟨now, .receive (some frame)⟩ := by
    refine not_completing ?_
    rw [handled_receive foreign, Frame.enterByte?_of_other (by rw [sync]; decide)]
    rfl
  have ignores (other : ¬ node.Accepts frame) (same : (node.hearSync now frame).value = node) :
      node.Moves ⟨now, .receive (some frame)⟩ (node.hearSync now frame).value := by
    rw [same]
    exact .rests (not_syncs_receive foreign other) incomplete rfl rfl rfl
  by_cases configuring : node.mode = .systemConfiguration
  · refine ignores (fun accepted => accepted.1.not_configuring configuring) ?_
    rw [hearSync, if_pos configuring]
    rfl
  · have mode := synchronizes_of_on node on configuring
    cases counted : frame.syncCounter? with
    | none =>
      refine ignores (fun accepted => ?_) ?_
      · simp [Accepts, counted] at accepted
      · rw [hearSync, if_neg configuring, counted]
        rfl
    | some counter =>
      have followed : (node.hearSync now frame).value =
          (node.followSync now frame.id.source counter).value := by
        rw [hearSync, if_neg configuring, counted]
      by_cases accepted : node.timeBase.accepts frame.id.source = true
      · rw [followed, value_followSync_of_accepts node now _ counter accepted]
        refine .syncs (.inl ⟨frame, ?_, mode, sync, by rw [counted]; rfl, accepted⟩) incomplete ?_
        · rw [taken_receive foreign]
          exact List.mem_singleton_self frame
        · exact fed_syncSeen node now _ mode rfl rfl
      · refine ignores (fun counts => accepted counts.2.2.2) ?_
        rw [followed, value_followSync_of_ignores node now _ counter accepted]

theorem moves_hearEnterByte (control : frame.id.control? = some .enterConfig) (byte : UInt8)
    (first : frame.payload.head? = some byte) :
    node.Moves ⟨now, .receive (some frame)⟩
      (node.hearEnterByte now frame.id.source byte).value := by
  have unsynced : ¬ node.Syncs ⟨now, .receive (some frame)⟩ :=
    not_syncs_receive foreign fun accepted => by simp [Accepts, Frame.IsSync, control] at accepted
  have one : node.handled ⟨now, .receive (some frame)⟩ = [⟨now, frame.id.source, byte⟩] := by
    rw [handled_receive foreign, Frame.enterByte?, if_pos control, first]
    rfl
  by_cases complete : (node.enterListener.hear .enter now frame.id.source byte).value.1 = .complete
  · obtain ⟨_, _, completed, -⟩ :=
      value_hearEnterByte_of_complete node now frame.id.source byte complete
    rw [completed]
    refine .configures unsynced ⟨⟨now, frame.id.source, byte⟩, ?_, complete⟩ rfl rfl rfl
    rw [one]
    exact List.mem_singleton_self _
  · rw [value_hearEnterByte_of_incomplete node now frame.id.source byte complete]
    refine .rests unsynced ?_ rfl rfl rfl
    rintro ⟨heard, member, completed⟩
    rw [one, List.mem_singleton] at member
    rw [member] at completed
    exact complete completed

theorem moves_hearExitByte (control : frame.id.control? = some .exitConfig) (byte : UInt8) :
    node.Moves ⟨now, .receive (some frame)⟩ (node.hearExitByte now frame.id.source byte).value := by
  have unsynced : ¬ node.Syncs ⟨now, .receive (some frame)⟩ :=
    not_syncs_receive foreign fun accepted => by simp [Accepts, Frame.IsSync, control] at accepted
  have incomplete : ¬ node.Completing ⟨now, .receive (some frame)⟩ := by
    refine not_completing ?_
    rw [handled_receive foreign, Frame.enterByte?_of_other (by rw [control]; decide)]
    rfl
  unfold hearExitByte
  split
  · rename_i mode
    rw [followExitByte, Reaction.value_bind, afterExitByte]
    split
    · refine .opens unsynced incomplete (.inr ?_) rfl rfl rfl
      rw [mode]
      decide
    · exact .rests unsynced incomplete rfl rfl rfl
  · exact .rests unsynced incomplete rfl rfl rfl

theorem moves_obey (on : node.mode ≠ .powerOff) {kind : ControlKind}
    (control : frame.id.control? = some kind) :
    node.Moves ⟨now, .receive (some frame)⟩ (node.obey now kind frame).value := by
  have empty (kept : frame.payload.head? = none) (other : kind ≠ .sync) :
      node.Moves ⟨now, .receive (some frame)⟩ node := by
    refine .rests (not_syncs_receive foreign fun accepted => ?_) (not_completing ?_) rfl rfl rfl
    · exact other (Option.some.inj (control.symm.trans accepted.2.1))
    · rw [handled_receive foreign, Frame.enterByte?, kept]
      split <;> rfl
  unfold obey
  split
  · exact moves_hearSync foreign on control
  · rename_i byte first
    exact moves_hearEnterByte foreign control byte first
  · rename_i byte first
    exact moves_hearExitByte foreign control byte
  · exact empty (by assumption) (by decide)
  · exact empty (by assumption) (by decide)

end Reception

theorem moves_receive (frame : Frame) (on : node.mode ≠ .powerOff) :
    node.Moves ⟨now, .receive (some frame)⟩ (node.receive now frame).value := by
  by_cases foreign : frame.id.source = node.address
  · rw [receive, if_pos foreign]
    exact moves_of_mute node (if_pos foreign) (transmit_receive node now frame) rfl rfl rfl
  · cases control : frame.id.control? with
    | none =>
      rw [receive, if_neg foreign, Reaction.value_bind, control]
      refine .rests (not_syncs_receive foreign fun accepted => ?_) (not_completing ?_) rfl rfl rfl
      · simp [Accepts, Frame.IsSync, control] at accepted
      · rw [handled_receive foreign, Frame.enterByte?_of_other (by rw [control]; decide)]
        rfl
    | some kind =>
      rw [value_receive foreign control]
      exact moves_obey foreign on control

theorem moves_beat (mode : node.Synchronizes) :
    node.Moves ⟨now, .beat⟩ (node.runSync now).value := by
  cases due : (node.timeBase.isDue node.station now).value with
  | false =>
    obtain ⟨quiet, same⟩ := runSync_of_not_due node now due
    rw [same]
    exact moves_of_mute node rfl quiet.unsent rfl rfl rfl
  | true =>
    obtain ⟨sent, -, value⟩ := runSync_of_due node now due
    rw [value]
    refine .syncs (.inr ?_) (not_completing ?_) (node.fed_syncSeen now _ mode rfl rfl)
    · rw [perform, sent]
      exact ⟨_, List.mem_singleton_self _, Frame.isSync_sync node.address _⟩
    · simp [handled, taken, perform, sent, Frame.enterByte?]

theorem moves_judge (mode : node.mode = .preOperational) :
    node.Moves ⟨now, .judge⟩ (node.judgeMaster now).value := by
  have unsynced : ¬ node.Syncs ⟨now, .judge⟩ := not_syncs nofun (by simp [perform])
  have incomplete : ¬ node.Completing ⟨now, .judge⟩ :=
    not_completing (by simp [handled, taken, perform])
  unfold judgeMaster
  split
  · rename_i held
    rw [Reaction.value_bind, promoteUnless]
    split
    · exact .opens unsynced incomplete (.inr (by rw [mode]; decide)) mode rfl rfl
    · split
      · exact .promotes unsynced incomplete mode held rfl rfl rfl
      · exact .rests unsynced incomplete rfl rfl rfl
  · exact .rests unsynced incomplete rfl rfl rfl

theorem moves_sendEnterByte :
    node.Moves ⟨now, .sendEnterByte⟩ (node.runEnterRequest now).value := by
  have unsynced : ¬ node.Syncs ⟨now, .sendEnterByte⟩ :=
    not_syncs nofun (not_isSync_of_runEnterRequest node now)
  obtain ⟨_, sent, value⟩ | ⟨byte, requester, sent, value⟩ := runEnterRequest_cases node now
  · rw [value]
    exact moves_of_mute node rfl sent rfl rfl rfl
  · have one : node.handled ⟨now, .sendEnterByte⟩ = [⟨now, node.address, byte⟩] := by
      simp [handled, taken, perform, sent]
    by_cases complete : (node.enterListener.hear .enter now node.address byte).value.1 = .complete
    · obtain ⟨_, _, completed, -⟩ := value_hearEnterByte_of_complete
        { node with enterRequest := requester } now node.address byte complete
      rw [value, completed]
      refine .configures unsynced ⟨⟨now, node.address, byte⟩, ?_, complete⟩ rfl rfl rfl
      rw [one]
      exact List.mem_singleton_self _
    · rw [value, value_hearEnterByte_of_incomplete { node with enterRequest := requester } now
        node.address byte complete]
      refine .rests unsynced ?_ rfl rfl rfl
      rintro ⟨heard, member, completed⟩
      rw [one, List.mem_singleton] at member
      rw [member] at completed
      exact complete completed

theorem moves_sendExitByte (mode : node.mode = .systemConfiguration) :
    node.Moves ⟨now, .sendExitByte⟩ (node.runExitRequest now).value := by
  have unsynced : ¬ node.Syncs ⟨now, .sendExitByte⟩ :=
    not_syncs nofun (not_isSync_of_runExitRequest node now)
  have origin : node.mode ≠ .operational := by
    rw [mode]
    decide
  obtain ⟨_, -, sent, value⟩ | ⟨byte, requester, -, sent, value⟩ := runExitRequest_cases node now
  · rw [value]
    exact moves_of_mute node rfl sent rfl rfl rfl
  · have incomplete : ¬ node.Completing ⟨now, .sendExitByte⟩ := by
      refine not_completing ?_
      simp [handled, taken, perform, sent, Frame.exitConfig, Frame.enterByte?]
    rw [value, hearExitByte, if_pos mode, followExitByte, Reaction.value_bind, afterExitByte]
    split
    · exact .opens unsynced incomplete (.inr origin) rfl rfl rfl
    · rw [concludeExit]
      split
      · dsimp only
        split
        · exact .opens unsynced incomplete (.inr origin) rfl rfl rfl
        · exact .rests unsynced incomplete rfl rfl rfl
      · exact .rests unsynced incomplete rfl rfl rfl

theorem moves_requestExit : node.Moves ⟨now, .requestExit⟩ (node.requestExit now).value := by
  have unsent : (node.requestExit now).transmit = [] := by
    unfold requestExit
    split <;> rfl
  refine moves_of_mute node rfl unsent ?_ ?_ ?_
  all_goals
    unfold requestExit
    split <;> rfl

end Duties

/-- Every step that fits its node moves it in one of the five ways. -/
theorem moves_perform (node : Node) (step : Step) (fits : node.Fits step) :
    node.Moves step (node.perform step).value := by
  obtain ⟨now, duty⟩ := step
  cases duty with
  | wake => exact moves_wake node now
  | receive frame =>
    cases frame with
    | none => exact moves_of_mute node rfl rfl rfl rfl rfl
    | some frame => exact moves_receive node now frame fits
  | beat => exact moves_beat node now fits
  | judge => exact moves_judge node now fits
  | abandon =>
    exact .opens (not_syncs nofun nofun) (not_completing rfl) (.inl rfl) rfl rfl rfl
  | sendEnterByte => exact moves_sendEnterByte node now
  | sendExitByte => exact moves_sendExitByte node now fits
  | requestEnter => exact moves_of_mute node rfl rfl rfl rfl rfl
  | requestExit => exact moves_requestExit node now

/-- A step that leads to System Configuration announces it. -/
theorem announced_of_entered {node : Node} {step : Step} (fits : node.Fits step)
    (outside : node.mode ≠ .systemConfiguration)
    (inside : (node.perform step).value.mode = .systemConfiguration) :
    .systemConfiguration ∈ modes (node.perform step).events := by
  cases moves_perform node step fits with
  | rests _ _ mode => exact absurd (mode.symm.trans inside) outside
  | syncs _ _ fed => exact absurd (fed.mode.symm.trans inside) outside
  | opens _ _ _ mode => exact nomatch mode.symm.trans inside
  | promotes _ _ _ _ mode => exact nomatch mode.symm.trans inside
  | configures _ complete =>
    obtain ⟨byte, member, complete⟩ := complete
    obtain ⟨none, -⟩ | ⟨heard, one, hears⟩ := attends_perform node step fits.sound
    · rw [none] at member
      cases member
    · rw [one, List.mem_singleton] at member
      rw [member] at complete
      rw [hears.announced, if_pos ⟨complete, outside⟩]
      exact List.mem_singleton_self _

/-- So does a run. -/
theorem announced_of_configured {node : Node} {steps : List Step} (fitting : node.Fitting steps)
    (outside : node.mode ≠ .systemConfiguration)
    (inside : (node.follow steps).value.mode = .systemConfiguration) :
    .systemConfiguration ∈ modes (node.follow steps).events := by
  induction steps generalizing node with
  | nil => exact absurd inside outside
  | cons step rest ih =>
    rw [follow, Reaction.events_bind, modes_append, List.mem_append]
    by_cases entered : (node.perform step).value.mode = .systemConfiguration
    · exact .inl (announced_of_entered fitting.1 outside entered)
    · exact .inr (ih fitting.2 entered inside)

/-- The configuration outlasts every step. -/
theorem config_perform (node : Node) (step : Step) (fits : node.Fits step) :
    (node.perform step).value.config = node.config :=
  perform_obeys configured_stages node step fits

theorem config_follow (node : Node) (steps : List Step) (fitting : node.Fitting steps) :
    (node.follow steps).value.config = node.config := by
  induction steps generalizing node with
  | nil => rfl
  | cons step rest ih => exact (ih _ fitting.2).trans (config_perform node step fitting.1)

end VehicleBus.Node
