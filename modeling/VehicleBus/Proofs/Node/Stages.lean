import VehicleBus.Identifier.Lemmas
import VehicleBus.Node.Run

/-!
What a tick is made of. Every tick is a sequence of stages: a mode is entered, the
election is opened again, a sync is followed, the node beats itself, a byte of a
handshake leaves, a message is told, or something changes that neither the mode nor the
time base shows. A relation that holds of each stage and composes holds of every tick
and of every run, whatever the frames and the instants.

Each stage comes with the guard under which it happens. Instants computed on the way
have no part in it.
-/
namespace VehicleBus

/-- A computation that neither transmits nor notifies. -/
structure Reaction.Quiet {α : Type} (reaction : Reaction α) : Prop where
  unsent : reaction.transmit = []
  untold : reaction.events = []

namespace Reaction.Quiet

theorem pure {α : Type} (value : α) : Quiet (Pure.pure value : Reaction α) := ⟨rfl, rfl⟩

theorem after (start span : Nat) : Quiet (Reaction.after start span) := ⟨rfl, rfl⟩

theorem bind {α β : Type} {first : Reaction α} {second : α → Reaction β} (quiet : first.Quiet)
    (rest : (second first.value).Quiet) : (first >>= second).Quiet := by
  constructor
  · rw [transmit_bind, quiet.unsent, rest.unsent, List.append_nil]
  · rw [events_bind, quiet.untold, rest.untold, List.append_nil]

end Reaction.Quiet

theorem TimeBase.lost_quiet (base : TimeBase) (station : Station) (now : Nat) :
    (base.lost station now).Quiet := by
  unfold lost
  split
  · exact .pure _
  · exact .bind (.after _ _) (.pure _)

theorem TimeBase.isDue_quiet (base : TimeBase) (station : Station) (now : Nat) :
    (base.isDue station now).Quiet := by
  unfold isDue
  split
  · exact .pure _
  · split
    · exact .bind (.after _ _) (.pure _)
    · exact .pure _

theorem Handshake.Listener.hear_quiet (listener : Listener) (sequence : Sequence) (now : Nat)
    (source byte : UInt8) : (listener.hear sequence now source byte).Quiet := by
  unfold hear
  refine .bind ?_ (.pure _)
  unfold stalled
  split
  · exact .pure _
  · split
    · exact .bind (.after _ _) (.pure _)
    · exact .pure _

theorem Handshake.Requester.poll_quiet (requester : Requester) (sequence : Sequence)
    (now ptu : Nat) : (requester.poll sequence now ptu).Quiet := by
  unfold poll
  split
  · refine .bind ?_ ?_
    · unfold startOver
      split
      · exact .bind (.after _ _) (.pure _)
      · exact .pure _
    · unfold emitDue
      split
      · exact .pure _
      · split
        · exact .bind (.after _ _) (.pure _)
        · exact .pure _
  · exact .pure _

namespace Node

/-- A relation between a node, the frames and notifications of a reaction, and the node
after it. -/
abbrev Law : Type := Node → List Frame → List Notification → Node → Prop

/-- A reaction that begins with a node is related to it. -/
def Obeys (law : Law) (node : Node) (reaction : Reaction Node) : Prop :=
  law node reaction.transmit reaction.events reaction.value

/-- The modes in which syncs are exchanged. -/
def Synchronizes (node : Node) : Prop := node.mode = .preOperational ∨ node.mode = .operational

instance (node : Node) : Decidable node.Synchronizes := inferInstanceAs (Decidable (_ ∨ _))

theorem Synchronizes.on {node : Node} (mode : node.Synchronizes) : node.mode ≠ .powerOff := by
  unfold Synchronizes at mode
  intro off
  rw [off] at mode
  simp at mode

theorem on_of_configuring {node : Node} (mode : node.mode = .systemConfiguration) :
    node.mode ≠ .powerOff := by
  rw [mode]
  decide

theorem Synchronizes.not_configuring {node : Node} (mode : node.Synchronizes) :
    node.mode ≠ .systemConfiguration := by
  unfold Synchronizes at mode
  intro configuring
  rw [configuring] at mode
  simp at mode

/-- A law of all stages at an instant. -/
structure StageLaw (now : Nat) (law : Law) : Prop where
  /-- Changes that neither the mode nor the time base shows. -/
  silent : ∀ before after : Node, after.config = before.config → after.mode = before.mode →
    after.timeBase = before.timeBase → law before [] [] after
  chain : ∀ {first between last : Node} {sent moreSent : List Frame}
    {told moreTold : List Notification}, law first sent told between →
    law between moreSent moreTold last → law first (sent ++ moreSent) (told ++ moreTold) last
  message : ∀ (node : Node) (frame : Frame), law node [] [.message frame] node
  /-- A byte of a handshake leaves. -/
  byte : ∀ (node : Node) (kind : ControlKind) (byte : UInt8), kind ≠ .sync →
    law node [Frame.single (.ofControl kind node.address) byte] [] node
  leave : ∀ node : Node, node.mode ≠ .preOperational →
    Obeys law node (node.enterPreOperational now)
  lose : ∀ node : Node, node.mode = .preOperational → node.timeBase.master.isSome = true →
    (node.timeBase.lost node.station now).value = true → Obeys law node (node.reopenElection now)
  promote : ∀ node : Node, node.mode = .preOperational → node.timeBase.master.isSome = true →
    node.expired now = true → Obeys law node (node.enterOperational now)
  configure : ∀ node : Node, node.Synchronizes → Obeys law node (node.enterSystemConfiguration now)
  follow : ∀ (node : Node) (source : UInt8) (counter : Nat), node.Synchronizes →
    source ≠ node.address → node.timeBase.accepts source = true →
    law node [] (node.timeBase.follow node.station now source counter).events
      { node with timeBase := (node.timeBase.follow node.station now source counter).value }
  beat : ∀ node : Node, node.Synchronizes →
    (node.timeBase.isDue node.station now).value = true →
    law node
      [Frame.sync node.address (node.timeBase.beat node.station now).value.counter]
      (node.timeBase.beat node.station now).events
      { node with timeBase := (node.timeBase.beat node.station now).value }

section Modes

/-- No node is off after it woke. -/
theorem on_wake (node : Node) (now : Nat) : (node.wake now).value.mode ≠ .powerOff := by
  unfold wake
  split
  · simp [enterPreOperational, setMode, reopenElection, clearHandshakes]
  · assumption

theorem syncSeen_quiet (node : Node) (now : Nat) : (node.syncSeen now).Quiet := by
  unfold syncSeen
  split <;> exact ⟨rfl, rfl⟩

/-- Counting a sync as seen moves at most the deadline. -/
theorem value_syncSeen (node : Node) (now : Nat) :
    ∃ deadline, (node.syncSeen now).value = { node with deadline } := by
  unfold syncSeen
  split
  · exact ⟨_, rfl⟩
  · exact ⟨_, rfl⟩
  · exact ⟨node.deadline, rfl⟩

/-- The counter of a sync of another node is obeyed where syncs are exchanged. -/
theorem value_receive_sync (node : Node) (now : Nat) (frame : Frame) (counter : Nat)
    (mode : node.Synchronizes) (sync : frame.id.control? = some .sync)
    (counted : frame.syncCounter? = some counter) (foreign : frame.id.source ≠ node.address) :
    (node.receive now frame).value = (node.followSync now frame.id.source counter).value := by
  rw [receive, if_neg foreign, Reaction.value_bind, sync]
  show (node.hearSync now frame).value = _
  rw [hearSync, if_neg mode.not_configuring, counted]

theorem value_followSync_of_accepts (node : Node) (now : Nat) (source : UInt8) (counter : Nat)
    (accepted : node.timeBase.accepts source = true) :
    (node.followSync now source counter).value =
      (syncSeen { node with
        timeBase := (node.timeBase.follow node.station now source counter).value } now).value := by
  rw [followSync, if_pos accepted, TimeBase.hear, if_pos accepted, Reaction.value_bind]

/-- Following a sync leaves the time base as that follows it, and moves at most the deadline. -/
theorem value_followSync_of_counts (node : Node) (now : Nat) (source : UInt8) (counter : Nat)
    (accepted : node.timeBase.accepts source = true) :
    ∃ deadline, (node.followSync now source counter).value =
      { node with
        timeBase := (node.timeBase.follow node.station now source counter).value
        deadline } := by
  rw [value_followSync_of_accepts node now source counter accepted]
  exact value_syncSeen _ now

theorem value_followSync_of_ignores (node : Node) (now : Nat) (source : UInt8) (counter : Nat)
    (ignored : ¬ node.timeBase.accepts source = true) :
    (node.followSync now source counter).value = node := by
  rw [followSync, if_neg ignored]
  rfl

/-- Obeyed or not, a sync of another node moves the time base and the deadline at most. -/
theorem value_hearSync (node : Node) (now : Nat) (frame : Frame) :
    ∃ timeBase deadline, (node.hearSync now frame).value = { node with timeBase, deadline } := by
  unfold hearSync
  split
  · exact ⟨_, _, rfl⟩
  · split
    · exact ⟨_, _, rfl⟩
    · rename_i counter _
      by_cases accepted : node.timeBase.accepts frame.id.source = true
      · obtain ⟨deadline, followed⟩ :=
          value_followSync_of_counts node now frame.id.source counter accepted
        exact ⟨_, deadline, followed⟩
      · exact ⟨_, _, value_followSync_of_ignores node now frame.id.source counter accepted⟩

/-- A node whose period begins now has no sync to send yet. -/
theorem not_due_of_fresh (node : Node) (now : Nat)
    (fresh : node.timeBase.due = now + node.timing.ptu) :
    (node.timeBase.isDue node.station now).value = false :=
  TimeBase.not_isDue_of_fresh node.timeBase node.station now (Timing.preemptLead_lt_ptu _ _) fresh

theorem runSync_of_not_due (node : Node) (now : Nat)
    (early : (node.timeBase.isDue node.station now).value = false) :
    (node.runSync now).Quiet ∧ (node.runSync now).value = node := by
  have quiet := node.timeBase.isDue_quiet node.station now
  constructor
  · constructor <;> simp [runSync, TimeBase.poll, TimeBase.beatIf, sendSync, early, quiet.unsent,
      quiet.untold]
  · simp [runSync, TimeBase.poll, TimeBase.beatIf, sendSync, early]

/-- A sync that is due goes out, counts as seen, and is all that goes out. -/
theorem runSync_of_due (node : Node) (now : Nat)
    (due : (node.timeBase.isDue node.station now).value = true) :
    let beaten := node.timeBase.beat node.station now
    let frame := Frame.sync node.address beaten.value.counter
    (node.runSync now).transmit = [frame] ∧
      (node.runSync now).events = beaten.events ++ (node.transmitControl frame).events ∧
      (node.runSync now).value =
        (syncSeen { node with timeBase := beaten.value } now).value := by
  have quiet := node.timeBase.isDue_quiet node.station now
  have unsent (node : Node) := (syncSeen_quiet node now).unsent
  have untold (node : Node) := (syncSeen_quiet node now).untold
  refine ⟨?_, ?_, ?_⟩ <;>
    simp [runSync, TimeBase.poll, TimeBase.beatIf, sendSync, transmitControl, due, quiet.unsent,
      quiet.untold, unsent, untold]

/-- A sync that goes out leaves the time base as that sent it, and moves at most the deadline. -/
theorem value_runSync_of_due (node : Node) (now : Nat)
    (due : (node.timeBase.isDue node.station now).value = true) :
    ∃ deadline, (node.runSync now).value =
      { node with timeBase := (node.timeBase.beat node.station now).value, deadline } := by
  obtain ⟨deadline, seen⟩ :=
    value_syncSeen { node with timeBase := (node.timeBase.beat node.station now).value } now
  exact ⟨deadline, (runSync_of_due node now due).2.2.trans seen⟩

/-- Due or not, a sync of the node's own moves the time base and the deadline at most. -/
theorem value_runSync (node : Node) (now : Nat) :
    ∃ timeBase deadline, (node.runSync now).value = { node with timeBase, deadline } := by
  cases due : (node.timeBase.isDue node.station now).value with
  | false => exact ⟨_, _, (runSync_of_not_due node now due).2⟩
  | true =>
    obtain ⟨deadline, beaten⟩ := value_runSync_of_due node now due
    exact ⟨_, deadline, beaten⟩

theorem mode_runSync (node : Node) (now : Nat) : (node.runSync now).value.mode = node.mode := by
  obtain ⟨_, _, beaten⟩ := value_runSync node now
  rw [beaten]

/-- Judging its master moves the mode, the time base and the deadline at most. -/
theorem value_judgeMaster (node : Node) (now : Nat) :
    ∃ mode timeBase deadline,
      (node.judgeMaster now).value = { node with mode, timeBase, deadline } := by
  unfold judgeMaster
  split
  · rw [Reaction.value_bind, promoteUnless]
    split
    · exact ⟨_, _, _, rfl⟩
    · split <;> exact ⟨_, _, _, rfl⟩
  · exact ⟨_, _, _, rfl⟩

/-- Judging its master promotes a node or leaves its mode alone. -/
theorem mode_judgeMaster (node : Node) (now : Nat) :
    (node.judgeMaster now).value.mode = node.mode ∨
      (node.judgeMaster now).value.mode = .operational := by
  unfold judgeMaster
  split
  · rw [Reaction.value_bind, promoteUnless]
    split
    · exact .inl rfl
    · split
      · exact .inr rfl
      · exact .inl rfl
  · exact .inl rfl

theorem on_judgeMaster (node : Node) (now : Nat) (on : node.mode ≠ .powerOff) :
    (node.judgeMaster now).value.mode ≠ .powerOff := by
  obtain same | promoted := node.mode_judgeMaster now
  · rw [same]
    exact on
  · simp [promoted]

theorem synchronizes_of_on (node : Node) (on : node.mode ≠ .powerOff)
    (other : node.mode ≠ .systemConfiguration) : node.Synchronizes := by
  unfold Synchronizes
  cases mode : node.mode <;> simp_all

end Modes

theorem Obeys.bind {law : Law} {now : Nat} (stages : StageLaw now law) {node : Node}
    {first : Reaction Node} {second : Node → Reaction Node} (start : Obeys law node first)
    (rest : Obeys law first.value (second first.value)) : Obeys law node (first >>= second) :=
  stages.chain start rest

/-- A computation that tells nothing may come before. -/
theorem Obeys.bind_quiet {law : Law} {node : Node} {α : Type} {first : Reaction α}
    {second : α → Reaction Node} (quiet : first.Quiet)
    (rest : Obeys law node (second first.value)) : Obeys law node (first >>= second) := by
  simpa [Obeys, quiet.unsent, quiet.untold] using rest

namespace StageLaw

variable {now : Nat} {law : Law} (stages : StageLaw now law)
include stages

theorem pure (node : Node) : Obeys law node (pure node) := stages.silent node node rfl rfl rfl

/-- A stage may begin with a change that neither the mode nor the time base shows. -/
theorem after_silent (before after : Node) {reaction : Reaction Node}
    (config : after.config = before.config) (mode : after.mode = before.mode)
    (timeBase : after.timeBase = before.timeBase) (rest : Obeys law after reaction) :
    Obeys law before reaction :=
  stages.chain (stages.silent before after config mode timeBase) rest

theorem setDeadline (node : Node) (span : Nat) : Obeys law node (node.setDeadline now span) :=
  stages.silent node _ rfl rfl rfl

theorem syncSeen (node : Node) : Obeys law node (node.syncSeen now) := by
  obtain ⟨deadline, value⟩ := value_syncSeen node now
  have quiet := syncSeen_quiet node now
  unfold Obeys
  rw [value, quiet.unsent, quiet.untold]
  exact stages.silent node _ rfl rfl rfl

theorem wake (node : Node) : Obeys law node (node.wake now) := by
  unfold Node.wake
  split
  · rename_i off
    exact stages.leave node (by rw [off]; decide)
  · exact stages.pure node

theorem followSync (node : Node) (source : UInt8) (counter : Nat) (mode : node.Synchronizes)
    (foreign : source ≠ node.address) : Obeys law node (node.followSync now source counter) := by
  unfold Node.followSync
  split
  · rename_i accepted
    rw [TimeBase.hear, if_pos accepted]
    exact stages.chain (stages.follow node source counter mode foreign accepted)
      (stages.syncSeen _)
  · exact stages.pure node

theorem hearSync (node : Node) (frame : Frame) (on : node.mode ≠ .powerOff)
    (foreign : frame.id.source ≠ node.address) : Obeys law node (node.hearSync now frame) := by
  unfold Node.hearSync
  split
  · exact stages.pure node
  · rename_i other
    split
    · exact stages.pure node
    · exact stages.followSync node _ _ (synchronizes_of_on node on other) foreign

theorem enterCompleted (node : Node) (source : UInt8) (on : node.mode ≠ .powerOff) :
    Obeys law node (node.enterCompleted now source) := by
  unfold Node.enterCompleted
  generalize settled : (if source = node.address then
    { node with enterRequest := node.enterRequest.cancel } else node) = after
  have config : after.config = node.config := by rw [← settled]; split <;> rfl
  have mode : after.mode = node.mode := by rw [← settled]; split <;> rfl
  have timeBase : after.timeBase = node.timeBase := by rw [← settled]; split <;> rfl
  refine stages.after_silent node after config mode timeBase ?_
  dsimp only
  split
  · exact stages.setDeadline after configurationTimeout
  · rename_i other
    exact stages.configure after (synchronizes_of_on after (by rw [mode]; exact on) other)

theorem hearEnterByte (node : Node) (source byte : UInt8) (on : node.mode ≠ .powerOff) :
    Obeys law node (node.hearEnterByte now source byte) := by
  apply Obeys.bind_quiet (node.enterListener.hear_quiet .enter now source byte)
  generalize (node.enterListener.hear .enter now source byte).value = heard
  refine stages.after_silent node { node with enterListener := heard.2 } rfl rfl rfl ?_
  unfold afterEnterByte
  split
  · exact stages.enterCompleted _ source on
  · exact stages.pure _

theorem hearExitByte (node : Node) (source byte : UInt8) :
    Obeys law node (node.hearExitByte now source byte) := by
  unfold Node.hearExitByte
  split
  · rename_i mode
    apply Obeys.bind_quiet (node.exitListener.hear_quiet .exit now source byte)
    generalize (node.exitListener.hear .exit now source byte).value = heard
    refine stages.after_silent node { node with exitListener := heard.2 } rfl rfl rfl ?_
    unfold afterExitByte
    split
    · exact stages.leave _ (by simp [mode])
    · exact stages.pure _
  · exact stages.pure node

theorem obey (node : Node) (kind : ControlKind) (frame : Frame) (on : node.mode ≠ .powerOff)
    (foreign : frame.id.source ≠ node.address) : Obeys law node (node.obey now kind frame) := by
  unfold Node.obey
  split
  · exact stages.hearSync node frame on foreign
  · exact stages.hearEnterByte node _ _ on
  · exact stages.hearExitByte node _ _
  · exact stages.pure node
  · exact stages.pure node

/-- A copy of a frame may be told before a stage. -/
theorem after_told {node : Node} {reaction : Reaction Node} (frame : Frame) (wanted : Bool)
    (rest : Obeys law node reaction) :
    law node reaction.transmit ((if wanted then [.message frame] else []) ++ reaction.events)
      reaction.value := by
  cases wanted with
  | false => exact rest
  | true => exact stages.chain (stages.message node frame) rest

theorem receive (node : Node) (frame : Frame) (on : node.mode ≠ .powerOff) :
    Obeys law node (node.receive now frame) := by
  unfold Node.receive
  split
  · exact stages.pure node
  · rename_i foreign
    cases frame.id.control? with
    | none => exact stages.after_told frame _ (stages.pure node)
    | some kind => exact stages.after_told frame _ (stages.obey node kind frame on foreign)

theorem receive? (node : Node) (frame : Option Frame) (on : node.mode ≠ .powerOff) :
    Obeys law node (node.receive? now frame) := by
  cases frame with
  | none => exact stages.pure node
  | some frame => exact stages.receive node frame on

/-- A byte of the node's own handshake leaves before it is heard. -/
theorem after_byte {node : Node} {second : Reaction Node} (kind : ControlKind) (byte : UInt8)
    (handshake : kind ≠ .sync) (rest : Obeys law node second) :
    Obeys law node (do
      node.transmitControl (Frame.single (.ofControl kind node.address) byte)
      second) := by
  have told := stages.after_told (Frame.single (.ofControl kind node.address) byte)
    (node.config.options.echoOwn && node.config.options.deliverControl) rest
  have both := stages.chain (stages.byte node kind byte handshake) told
  exact both

theorem runSync (node : Node) (mode : node.Synchronizes) : Obeys law node (node.runSync now) := by
  cases due : (node.timeBase.isDue node.station now).value with
  | false =>
    obtain ⟨quiet, same⟩ := runSync_of_not_due node now due
    unfold Obeys
    rw [quiet.unsent, quiet.untold, same]
    exact stages.pure node
  | true =>
    obtain ⟨sent, told, value⟩ := runSync_of_due node now due
    unfold Obeys
    rw [sent, told, value]
    have beaten := stages.beat node mode due
    have seen := stages.syncSeen
      { node with timeBase := (node.timeBase.beat node.station now).value }
    have told_seen := stages.after_told
      (Frame.sync node.address (node.timeBase.beat node.station now).value.counter)
      (node.config.options.echoOwn && node.config.options.deliverControl) seen
    have both := stages.chain beaten told_seen
    have quiet := syncSeen_quiet
      { node with timeBase := (node.timeBase.beat node.station now).value } now
    rw [quiet.unsent, quiet.untold, List.append_nil, List.append_nil] at both
    exact both

theorem runEnterRequest (node : Node) (on : node.mode ≠ .powerOff) :
    Obeys law node (node.runEnterRequest now) := by
  apply Obeys.bind_quiet (node.enterRequest.poll_quiet .enter now node.timing.ptu)
  generalize (node.enterRequest.poll .enter now node.timing.ptu).value = polled
  refine stages.after_silent node { node with enterRequest := polled.2 } rfl rfl rfl ?_
  cases polled.1 with
  | none => exact stages.pure _
  | some byte =>
    exact stages.after_byte .enterConfig byte (by decide) (stages.hearEnterByte _ _ byte on)

theorem concludeExit (node : Node) : Obeys law node (node.concludeExit now) := by
  unfold Node.concludeExit
  split
  · dsimp only
    refine stages.after_silent node { node with exitRequest := node.exitRequest.cancel }
      rfl rfl rfl ?_
    split
    · rename_i mode
      exact stages.leave _ (by simp [mode])
    · exact stages.pure _
  · exact stages.pure node

theorem runExitRequest (node : Node) : Obeys law node (node.runExitRequest now) := by
  apply Obeys.bind_quiet (node.exitRequest.poll_quiet .exit now node.timing.ptu)
  generalize (node.exitRequest.poll .exit now node.timing.ptu).value = polled
  refine stages.after_silent node { node with exitRequest := polled.2 } rfl rfl rfl ?_
  cases polled.1 with
  | none => exact stages.pure _
  | some byte =>
    exact stages.after_byte .exitConfig byte (by decide)
      (Obeys.bind stages (stages.hearExitByte _ _ byte) (stages.concludeExit _))

theorem judgeMaster (node : Node) (mode : node.mode = .preOperational) :
    Obeys law node (node.judgeMaster now) := by
  unfold Node.judgeMaster
  split
  · rename_i held
    apply Obeys.bind_quiet (node.timeBase.lost_quiet node.station now)
    unfold promoteUnless
    split
    · rename_i lost
      exact stages.lose node mode held lost
    · split
      · rename_i expired
        exact stages.promote node mode held expired
      · exact stages.pure node
  · exact stages.pure node

theorem runPreOperational (node : Node) (mode : node.mode = .preOperational) :
    Obeys law node (node.runPreOperational now) := by
  have kept : (node.runSync now).value.mode = .preOperational := by rw [mode_runSync, mode]
  have on := on_judgeMaster (node.runSync now).value now (by rw [kept]; decide)
  exact Obeys.bind stages (stages.runSync node (.inl mode))
    (Obeys.bind stages (stages.judgeMaster _ kept) (stages.runEnterRequest _ on))

theorem runOperational (node : Node) (mode : node.mode = .operational) :
    Obeys law node (node.runOperational now) := by
  have kept : (node.runSync now).value.mode = .operational := by rw [mode_runSync, mode]
  apply Obeys.bind stages (stages.runSync node (.inr mode))
  unfold watchSyncs
  split
  · exact stages.leave _ (by rw [kept]; decide)
  · exact stages.runEnterRequest _ (by rw [kept]; decide)

theorem runSystemConfiguration (node : Node) (mode : node.mode = .systemConfiguration) :
    Obeys law node (node.runSystemConfiguration now) := by
  unfold Node.runSystemConfiguration
  split
  · exact stages.leave _ (by rw [mode]; decide)
  · exact Obeys.bind stages (stages.runEnterRequest node (by rw [mode]; decide))
      (stages.runExitRequest _)

theorem runTimers (node : Node) : Obeys law node (node.runTimers now) := by
  unfold Node.runTimers
  split
  · exact stages.pure node
  · rename_i mode
    exact stages.runPreOperational node mode
  · rename_i mode
    exact stages.runOperational node mode
  · rename_i mode
    exact stages.runSystemConfiguration node mode

/-- What comes before the timers of a tick. -/
theorem reception (node : Node) (frame : Option Frame) :
    Obeys law node (node.wake now >>= fun woken => woken.receive? now frame) :=
  Obeys.bind stages (stages.wake node) (stages.receive? _ frame (on_wake node now))

theorem tick (node : Node) (frame : Option Frame) : Obeys law node (node.tick now frame) := by
  have on := on_wake node now
  exact Obeys.bind stages (stages.wake node)
    (Obeys.bind stages (stages.receive? _ frame on) (stages.runTimers _))

end StageLaw

/-- A law of the stages at every instant holds of every reaction to an input. -/
theorem react_obeys {law : Law} (stages : ∀ now, StageLaw now law) (node : Node)
    (input : Input) : Obeys law node (node.react input) := by
  cases input with
  | tick now frame => exact (stages now).tick node frame
  | requestEnter now => exact (stages now).silent node _ rfl rfl rfl
  | requestExit now =>
    unfold react requestExit
    dsimp only
    split
    · exact (stages now).silent node _ rfl rfl rfl
    · exact (stages now).pure node

/-- A law of the stages at every instant holds of every run. -/
theorem run_obeys {law : Law} (stages : ∀ now, StageLaw now law) (node : Node)
    (inputs : List Input) : Obeys law node (node.run inputs) := by
  induction inputs generalizing node with
  | nil => exact (stages 0).pure node
  | cons input rest ih => exact Obeys.bind (stages 0) (react_obeys stages node input) (ih _)

theorem configured_stages (now : Nat) :
    StageLaw now fun before _ _ after => after.config = before.config where
  silent _ _ config _ _ := config
  chain first second := second.trans first
  message _ _ := rfl
  byte _ _ _ _ := rfl
  leave _ _ := rfl
  lose _ _ _ _ := rfl
  promote _ _ _ _ := rfl
  configure _ _ := rfl
  follow _ _ _ _ _ _ := rfl
  beat _ _ _ := rfl

/-- The configuration of a node never changes. -/
theorem config_run (node : Node) (inputs : List Input) :
    (node.run inputs).value.config = node.config :=
  run_obeys configured_stages node inputs

end Node

end VehicleBus
