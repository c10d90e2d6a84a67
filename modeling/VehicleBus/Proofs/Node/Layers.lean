import VehicleBus.Proofs.Node.Duties
import VehicleBus.Proofs.Node.Stance

/-!
The enter handshake and the time base are two layers of a node. Until a sequence is
complete, what a node does about syncs, its master and its mode does not depend on the
listener and the request of the handshake, and what it does about bytes does not depend on
the rest. So a tick is a tick of the lower layer, with the byte that was heard and the byte
that goes out put on top.
-/
namespace VehicleBus.Node

/-- The node with another state of the enter handshake. -/
def withEnter (node : Node) (listener : Handshake.Listener) (request : Handshake.Requester) :
    Node :=
  { node with enterListener := listener, enterRequest := request }

/-- The node as if nobody had ever asked for System Configuration. -/
def calm (node : Node) : Node := node.withEnter {} {}

/-- Two reactions that differ in the enter handshake only. -/
structure Overlays (listener : Handshake.Listener) (request : Handshake.Requester)
    (plain overlaid : Reaction Node) : Prop where
  value : overlaid.value = plain.value.withEnter listener request
  transmit : overlaid.transmit = plain.transmit

section Overlays

variable {listener : Handshake.Listener} {request : Handshake.Requester}

theorem Overlays.pure (node : Node) :
    Overlays listener request (Pure.pure node) (Pure.pure (node.withEnter listener request)) :=
  ⟨rfl, rfl⟩

theorem Overlays.bind {plain overlaid : Reaction Node} {next : Node → Reaction Node}
    (first : Overlays listener request plain overlaid)
    (rest : Overlays listener request (next plain.value)
      (next (plain.value.withEnter listener request))) :
    Overlays listener request (plain >>= next) (overlaid >>= next) where
  value := by rw [Reaction.value_bind, Reaction.value_bind, first.value, rest.value]
  transmit := by
    rw [Reaction.transmit_bind, Reaction.transmit_bind, first.value, first.transmit, rest.transmit]

/-- A computation that both share may come before. -/
theorem Overlays.after {α : Type} {first : Reaction α} {plain overlaid : α → Reaction Node}
    (rest : Overlays listener request (plain first.value) (overlaid first.value)) :
    Overlays listener request (first >>= plain) (first >>= overlaid) where
  value := rest.value
  transmit := by rw [Reaction.transmit_bind, Reaction.transmit_bind, rest.transmit]

variable (listener request) (node : Node) (now : Nat)

theorem overlays_syncSeen :
    Overlays listener request (node.syncSeen now)
      ((node.withEnter listener request).syncSeen now) := by
  have mode : (node.withEnter listener request).mode = node.mode := rfl
  have deadline : (node.withEnter listener request).deadline = node.deadline := rfl
  unfold syncSeen
  rw [mode, deadline]
  split
  · exact ⟨rfl, rfl⟩
  · exact ⟨rfl, rfl⟩
  · exact .pure node

theorem overlays_hearSync (frame : Frame) :
    Overlays listener request (node.hearSync now frame)
      ((node.withEnter listener request).hearSync now frame) := by
  have mode : (node.withEnter listener request).mode = node.mode := rfl
  unfold hearSync
  rw [mode]
  split
  · exact .pure node
  · split
    · exact .pure node
    · rename_i counter _
      have timeBase : (node.withEnter listener request).timeBase = node.timeBase := rfl
      unfold followSync
      rw [timeBase]
      split
      · exact .after (overlays_syncSeen listener request { node with timeBase := _ } now)
      · exact .pure node

theorem overlays_receive_sync (frame : Frame) (sync : frame.id.control? = some .sync) :
    Overlays listener request (node.receive now frame)
      ((node.withEnter listener request).receive now frame) := by
  have address : (node.withEnter listener request).address = node.address := rfl
  have delivery : (node.withEnter listener request).delivery frame = node.delivery frame := rfl
  unfold receive
  rw [address, delivery]
  split
  · exact .pure node
  · rw [sync]
    exact .after (overlays_hearSync listener request node now frame)

theorem overlays_sendSync (frame : Option Frame) :
    Overlays listener request (node.sendSync now frame)
      ((node.withEnter listener request).sendSync now frame) := by
  cases frame with
  | none => exact .pure node
  | some frame => exact .after (overlays_syncSeen listener request node now)

theorem overlays_runSync :
    Overlays listener request (node.runSync now)
      ((node.withEnter listener request).runSync now) := by
  have timeBase : (node.withEnter listener request).timeBase = node.timeBase := rfl
  have station : (node.withEnter listener request).station = node.station := rfl
  unfold runSync
  rw [timeBase, station]
  exact .after (overlays_sendSync listener request { node with timeBase := _ } now _)

theorem overlays_judgeMaster :
    Overlays listener request (node.judgeMaster now)
      ((node.withEnter listener request).judgeMaster now) := by
  have timeBase : (node.withEnter listener request).timeBase = node.timeBase := rfl
  have station : (node.withEnter listener request).station = node.station := rfl
  have expired : (node.withEnter listener request).expired now = node.expired now := rfl
  unfold judgeMaster
  rw [timeBase, station]
  split
  · refine .after ?_
    unfold promoteUnless
    rw [expired]
    split
    · exact ⟨rfl, rfl⟩
    · split
      · exact ⟨rfl, rfl⟩
      · exact .pure node
  · exact .pure node

end Overlays

/-- The lower layer of the timers of a node that synchronizes. -/
def keepTime (node : Node) (now : Nat) : Reaction Node :=
  match node.mode with
  | .preOperational => do
    let node ← node.runSync now
    node.judgeMaster now
  | _ => node.runSync now

/-- The node does not give Operational up in its timers. -/
def Steady (node : Node) (now : Nat) : Prop :=
  node.mode = .operational → (node.runSync now).value.expired now = false

theorem overlays_keepTime (listener : Handshake.Listener) (request : Handshake.Requester)
    (node : Node) (now : Nat) :
    Overlays listener request (node.keepTime now)
      ((node.withEnter listener request).keepTime now) := by
  have mode : (node.withEnter listener request).mode = node.mode := rfl
  unfold keepTime
  rw [mode]
  split
  · exact (overlays_runSync listener request node now).bind
      (overlays_judgeMaster listener request _ now)
  · exact overlays_runSync listener request node now

theorem Steady.withEnter {node : Node} {now : Nat} (steady : node.Steady now)
    (listener : Handshake.Listener) (request : Handshake.Requester) :
    (node.withEnter listener request).Steady now := by
  intro mode
  rw [(overlays_runSync listener request node now).value]
  exact steady mode

/-- The timers are the lower layer and then the byte that is due. -/
theorem runTimers_of_steady {node : Node} {now : Nat} (mode : node.Synchronizes)
    (steady : node.Steady now) :
    node.runTimers now = (node.keepTime now >>= fun kept => kept.runEnterRequest now) := by
  unfold runTimers keepTime
  cases mode with
  | inl mode =>
    simp only [mode]
    rw [runPreOperational, bind_assoc]
  | inr mode =>
    simp only [mode]
    refine Reaction.bind_congr_value ?_
    rw [watchSyncs, if_neg (by rw [steady mode]; decide)]

/-- A calm node stays calm. -/
theorem runTimers_calm (node : Node) (now : Nat) (mode : node.calm.Synchronizes)
    (steady : node.calm.Steady now) :
    (node.calm.runTimers now).value = (node.calm.keepTime now).value ∧
      (node.calm.runTimers now).transmit = (node.calm.keepTime now).transmit ∧
      (node.calm.keepTime now).value.calm = (node.calm.keepTime now).value := by
  have same := (overlays_keepTime {} {} node.calm now).value
  have idle : ((node.calm.keepTime now).value).enterRequest.pending = false := by
    change (node.calm.keepTime now).value = (node.calm.keepTime now).value.withEnter {} {} at same
    rw [same]
    rfl
  rw [runTimers_of_steady mode steady, Reaction.value_bind, Reaction.transmit_bind,
    runEnterRequest_of_idle _ now idle]
  exact ⟨rfl, List.append_nil _, same.symm⟩

/-- A node that has a master after its timers did not give Operational up in them. -/
theorem steady_of_held {node : Node} {now : Nat} {master : UInt8}
    (held : (node.runTimers now).value.timeBase.master = some master) : node.Steady now := by
  intro mode
  cases expired : (node.runSync now).value.expired now with
  | false => rfl
  | true =>
    have lost : (node.runTimers now).value.timeBase.master = none := by
      simp only [runTimers, mode, runOperational, watchSyncs, expired, Reaction.value_bind]
      rfl
    rw [lost] at held
    cases held

section Ready

variable {listener : Handshake.Listener} {request : Handshake.Requester}

theorem overlays_wake (node : Node) (now : Nat)
    (fresh : node.mode = .powerOff → listener.position = 0) :
    Overlays listener request (node.wake now) ((node.withEnter listener request).wake now) := by
  have mode : (node.withEnter listener request).mode = node.mode := rfl
  unfold wake
  rw [mode]
  split
  · rename_i off
    have same : listener.reset = listener := by
      have zero := fresh off
      cases listener
      simp_all [Handshake.Listener.reset]
    refine ⟨?_, rfl⟩
    show _ = Node.withEnter _ listener request
    simp only [enterPreOperational, Reaction.value_bind, value_setMode, value_reopenElection,
      clearHandshakes, withEnter, same, Reaction.value_pure]
    rfl
  · exact .pure node

/-- Up to the timers a node with a sync, or with no frame, is in the lower layer. -/
theorem ready_withEnter (node : Node) (listener : Handshake.Listener)
    (request : Handshake.Requester) (now : Nat) (frame : Option Frame)
    (sync : ∀ heard ∈ frame, heard.id.control? = some .sync)
    (fresh : node.mode = .powerOff → listener.position = 0) :
    (node.withEnter listener request).ready now frame =
      (node.ready now frame).withEnter listener request := by
  unfold ready
  rw [(overlays_wake node now fresh).value]
  cases frame with
  | none => rfl
  | some frame => exact (overlays_receive_sync listener request _ now frame (sync frame rfl)).value

/-- A byte of the enter sequence of another node is heard. -/
theorem receive_enterByte (node : Node) (now : Nat) (source byte : UInt8)
    (foreign : source ≠ node.address) :
    node.receive now (Frame.enterConfig source byte) =
      (do
        Reaction.notify (node.delivery (Frame.enterConfig source byte))
        node.hearEnterByte now source byte) := by
  have sourced : (Frame.enterConfig source byte).id.source = source := by simp [Frame.enterConfig]
  have control : (Frame.enterConfig source byte).id.control? = some .enterConfig := by
    simp [Frame.enterConfig]
  rw [receive, sourced, if_neg foreign, control]
  show (do
    Reaction.notify (node.delivery (Frame.enterConfig source byte))
    node.hearEnterByte now (Frame.enterConfig source byte).id.source byte) = _
  rw [sourced]

/-- A byte that completes nothing is heard by the listener alone. -/
theorem ready_of_byte (node : Node) (now : Nat) (source byte : UInt8) (on : node.mode ≠ .powerOff)
    (foreign : source ≠ node.address)
    (more : (listener.hear .enter now source byte).value.1 ≠ .complete) :
    (node.withEnter listener request).ready now (some (Frame.enterConfig source byte)) =
      node.withEnter (listener.hear .enter now source byte).value.2 request := by
  have awake : (node.withEnter listener request).wake now =
      Pure.pure (node.withEnter listener request) := if_neg on
  unfold ready receive?
  rw [awake, Reaction.value_pure]
  dsimp only
  rw [receive_enterByte (node.withEnter listener request) now source byte foreign]
  show (afterEnterByte _ now source (listener.hear .enter now source byte).value.1).value = _
  rw [afterEnterByte, if_neg more]
  rfl

end Ready

/-- A tick of a node that stands on a calm one: the calm one runs its timers, and then the
byte that is due goes out. -/
theorem tick_layers {node base : Node} {now : Nat} {frame : Option Frame}
    {listener : Handshake.Listener} {request : Handshake.Requester}
    (ready : node.ready now frame = base.withEnter listener request) (calm : base.calm = base)
    (mode : base.Synchronizes) (steady : base.Steady now) :
    let top := ((base.runTimers now).value.withEnter listener request).runEnterRequest now
    (node.tick now frame).value = top.value ∧
      (node.tick now frame).transmit = (base.runTimers now).transmit ++ top.transmit ∧
      (∀ event ∈ top.events, event ∈ (node.tick now frame).events) ∧
      (base.runTimers now).value.calm = (base.runTimers now).value := by
  intro top
  have timers := runTimers_calm base now (by rw [calm]; exact mode) (by rw [calm]; exact steady)
  rw [calm] at timers
  obtain ⟨value, transmit, still⟩ := timers
  have overlays := overlays_keepTime listener request base now
  have lifted : (base.withEnter listener request).Synchronizes := mode
  have split := runTimers_of_steady lifted (steady.withEnter listener request)
  have same : top = ((base.withEnter listener request).keepTime now).value.runEnterRequest now := by
    show ((base.runTimers now).value.withEnter listener request).runEnterRequest now = _
    rw [overlays.value, value]
  refine ⟨?_, ?_, ?_, by rw [value, still]⟩
  · show ((node.ready now frame).runTimers now).value = top.value
    rw [ready, split, same]
    rfl
  · rw [transmit_tick]
    show ((node.ready now frame).runTimers now).transmit = _
    rw [ready, split, same, Reaction.transmit_bind, overlays.transmit, transmit]
  · intro event told
    have last : event ∈ ((node.ready now frame).runTimers now).events := by
      rw [ready, split, Reaction.events_bind, List.mem_append]
      rw [same] at told
      exact .inr told
    rw [tick, Reaction.events_bind, Reaction.events_bind, List.mem_append, List.mem_append]
    exact .inr (.inr last)

section Top

variable (node : Node) (listener : Handshake.Listener) (request : Handshake.Requester) (now : Nat)

theorem runEnterRequest_withEnter :
    (node.withEnter listener request).runEnterRequest now =
      (request.poll .enter now node.timing.ptu >>= fun polled =>
        (node.withEnter listener polled.2).sendEnterByte now polled.1) := rfl

/-- Nothing is due: only the request may have moved on. -/
theorem runEnterRequest_of_silence {after : Handshake.Requester}
    (polled : (request.poll .enter now node.timing.ptu).value = (none, after)) :
    ((node.withEnter listener request).runEnterRequest now).value =
        node.withEnter listener after ∧
      ((node.withEnter listener request).runEnterRequest now).transmit = [] := by
  have quiet := request.poll_quiet .enter now node.timing.ptu
  rw [runEnterRequest_withEnter]
  constructor
  · rw [Reaction.value_bind, polled]
    rfl
  · rw [Reaction.transmit_bind, polled, quiet.unsent]
    rfl

variable {byte : UInt8} {after : Handshake.Requester}
  (polled : (request.poll .enter now node.timing.ptu).value = (some byte, after))
include polled

/-- A byte goes out, and what becomes of it is what the node makes of it. -/
theorem runEnterRequest_of_byte :
    ((node.withEnter listener request).runEnterRequest now).value =
        ((node.withEnter listener after).hearEnterByte now node.address byte).value ∧
      ((node.withEnter listener request).runEnterRequest now).transmit =
        [Frame.enterConfig node.address byte] ∧
      ∀ event ∈ ((node.withEnter listener after).hearEnterByte now node.address byte).events,
        event ∈ ((node.withEnter listener request).runEnterRequest now).events := by
  have quiet := request.poll_quiet .enter now node.timing.ptu
  rw [runEnterRequest_withEnter]
  refine ⟨?_, ?_, ?_⟩
  · rw [Reaction.value_bind, polled]
    rfl
  · rw [Reaction.transmit_bind, polled, quiet.unsent, sendEnterByte, Reaction.transmit_bind,
      transmit_hearEnterByte]
    rfl
  · intro event told
    rw [Reaction.events_bind, polled, sendEnterByte, Reaction.events_bind, List.mem_append,
      List.mem_append]
    exact .inr (.inr told)

/-- A byte that completes nothing moves the listener and the request. -/
theorem runEnterRequest_of_progress
    (more : (listener.hear .enter now node.address byte).value.1 ≠ .complete) :
    ((node.withEnter listener request).runEnterRequest now).value =
        node.withEnter (listener.hear .enter now node.address byte).value.2 after ∧
      ((node.withEnter listener request).runEnterRequest now).transmit =
        [Frame.enterConfig node.address byte] := by
  obtain ⟨value, transmit, -⟩ := node.runEnterRequest_of_byte listener request now polled
  refine ⟨value.trans ?_, transmit⟩
  show (afterEnterByte _ now node.address
    (listener.hear .enter now node.address byte).value.1).value = _
  rw [afterEnterByte, if_neg more]
  rfl

/-- A byte that completes the sequence leads to System Configuration. -/
theorem runEnterRequest_of_complete
    (complete : (listener.hear .enter now node.address byte).value.1 = .complete)
    (mode : node.mode ≠ .systemConfiguration) :
    .modeChanged .systemConfiguration ∈
        ((node.withEnter listener request).runEnterRequest now).events ∧
      ((node.withEnter listener request).runEnterRequest now).transmit =
        [Frame.enterConfig node.address byte] := by
  obtain ⟨-, transmit, told⟩ := node.runEnterRequest_of_byte listener request now polled
  refine ⟨told _ ?_, transmit⟩
  rw [← mem_modes_iff, modes_hearEnterByte]
  have entered : ((node.withEnter listener after).enterListener.hear .enter now node.address
      byte).value.1 = .complete ∧ (node.withEnter listener after).mode ≠ .systemConfiguration :=
    ⟨complete, mode⟩
  rw [if_pos entered]
  exact List.mem_singleton_self _

end Top

/-- The byte of another node that completes the sequence leads to System Configuration. -/
theorem tick_of_complete {node : Node} {now : Nat} {source byte : UInt8}
    (on : node.mode ≠ .powerOff) (mode : node.mode ≠ .systemConfiguration)
    (foreign : source ≠ node.address)
    (complete : (node.enterListener.hear .enter now source byte).value.1 = .complete) :
    .modeChanged .systemConfiguration ∈
      (node.tick now (some (Frame.enterConfig source byte))).events := by
  have told : .modeChanged .systemConfiguration ∈
      (node.receive now (Frame.enterConfig source byte)).events := by
    rw [receive_enterByte node now source byte foreign, Reaction.events_bind, List.mem_append]
    right
    rw [← mem_modes_iff, modes_hearEnterByte, if_pos ⟨complete, mode⟩]
    exact List.mem_singleton_self _
  have awake : node.wake now = Pure.pure node := if_neg on
  rw [tick, awake, pure_bind, Reaction.events_bind, List.mem_append]
  exact .inl told

end VehicleBus.Node
