import VehicleBus.Proofs.Node.Emissions

/-!
The frames that a node hands to its application. One comes from the bus: the frame of the tick, if
another node sent it and the mode or the options call for it. The others are copies of the frames
that the node transmits. Where the options ask for them a tick tells one copy for each frame that
it hands over for transmission, in the same order, and none otherwise.

The copies are told together with the frames, so nothing in them depends on what becomes of a
frame afterwards; and no handler tells a message of its own accord.
-/
namespace VehicleBus

/-- The frame that a notification brings. -/
def Notification.message? : Notification → Option Frame
  | .message frame => some frame
  | _ => none

/-- The frames that notifications bring, in order. -/
def messages (events : List Notification) : List Frame := events.filterMap (·.message?)

/-- The frame of an address that a notification is a copy of. -/
def Notification.copy? (address : UInt8) : Notification → Option Frame
  | .message frame => if frame.id.source = address then some frame else none
  | _ => none

/-- The frames of an address that notifications are copies of, in order. -/
def ownCopies (address : UInt8) (events : List Notification) : List Frame :=
  events.filterMap (·.copy? address)

section Append

variable (address : UInt8)

@[simp] theorem messages_nil : messages [] = [] := rfl

@[simp] theorem messages_append (first second : List Notification) :
    messages (first ++ second) = messages first ++ messages second := List.filterMap_append

@[simp] theorem ownCopies_append (first second : List Notification) :
    ownCopies address (first ++ second) = ownCopies address first ++ ownCopies address second :=
  List.filterMap_append

/-- The copies of an address are the messages that bear it. -/
theorem ownCopies_eq_filter (events : List Notification) :
    ownCopies address events =
      (messages events).filter fun frame => decide (frame.id.source = address) := by
  rw [ownCopies, messages, List.filter_filterMap]
  congr 1
  funext event
  cases event <;> simp [Notification.copy?, Notification.message?, Option.filter]

end Append

namespace TimeBase

variable (base : TimeBase) (station : Station) (now : Nat)

@[simp] theorem messages_setMaster (master : Option UInt8) :
    messages (base.setMaster master).events = [] := by
  unfold setMaster
  split <;> rfl

@[simp] theorem messages_setCounter (counter : Nat) :
    messages (base.setCounter counter).events = [] := by
  unfold setCounter
  split <;> rfl

@[simp] theorem messages_follow (source : UInt8) (counter : Nat) :
    messages (base.follow station now source counter).events = [] := by
  simp [follow]

@[simp] theorem messages_beat : messages (base.beat station now).events = [] := by
  simp [beat]

end TimeBase

namespace Node

/-- Whether the application wants copies of the node's own control frames. -/
def echoes (node : Node) : Bool :=
  node.config.options.echoOwn && node.config.options.deliverControl

theorem messages_transmitControl (node : Node) (frame : Frame) :
    messages (node.transmitControl frame).events = if node.echoes = true then [frame] else [] := by
  show messages (if node.echoes = true then [.message frame] else []) = _
  split <;> rfl

/-- A reaction tells copies of exactly the frames that it transmits, where they are wanted. -/
structure Mirrors (node : Node) (reaction : Reaction Node) : Prop where
  config : reaction.value.config = node.config
  copies : ownCopies node.address reaction.events =
    if node.echoes = true then reaction.transmit else []

/-- A reaction that transmits frames of the node's own, and whose messages are the copies of these
where copies are wanted. -/
structure Relays (node : Node) (reaction : Reaction Node) : Prop where
  config : reaction.value.config = node.config
  own : ∀ frame ∈ reaction.transmit, frame.id.source = node.address
  told : messages reaction.events = if node.echoes = true then reaction.transmit else []

namespace Relays

variable {node : Node}

/-- A reaction without frames and messages. -/
theorem mute {reaction : Reaction Node} (config : reaction.value.config = node.config)
    (unsent : reaction.transmit = []) (untold : messages reaction.events = []) :
    node.Relays reaction where
  config := config
  own := by simp [unsent]
  told := by rw [untold, unsent, ite_self]

theorem pure (node : Node) : node.Relays (Pure.pure node) := mute rfl rfl rfl

/-- A change elsewhere in the node may come before. -/
theorem after_change (changed : Node) {reaction : Reaction Node}
    (same : changed.config = node.config) (rest : changed.Relays reaction) :
    node.Relays reaction := by
  have address : changed.address = node.address := congrArg Config.address same
  have echoes : changed.echoes = node.echoes := by rw [Node.echoes, same, Node.echoes]
  exact ⟨rest.config.trans same, address ▸ rest.own, echoes ▸ rest.told⟩

theorem bind {first : Reaction Node} {second : Node → Reaction Node} (start : node.Relays first)
    (rest : first.value.Relays (second first.value)) : node.Relays (first >>= second) := by
  have later := after_change first.value start.config rest
  refine ⟨later.config, ?_, ?_⟩
  · rw [Reaction.transmit_bind]
    exact List.forall_mem_append.mpr ⟨start.own, later.own⟩
  · rw [Reaction.events_bind, Reaction.transmit_bind, messages_append, start.told, later.told]
    split <;> rfl

/-- A computation that tells nothing may come before. -/
theorem after_quiet {α : Type} {first : Reaction α} {second : α → Reaction Node}
    (quiet : first.Quiet) (rest : node.Relays (second first.value)) :
    node.Relays (first >>= second) where
  config := rest.config
  own := by
    rw [Reaction.transmit_bind, quiet.unsent, List.nil_append]
    exact rest.own
  told := by
    rw [Reaction.events_bind, Reaction.transmit_bind, quiet.untold, quiet.unsent, List.nil_append,
      List.nil_append]
    exact rest.told

/-- A frame of the node's own goes out, with its copy, before the rest. -/
theorem after_control (frame : Frame) (own : frame.id.source = node.address)
    {second : Reaction Node} (rest : node.Relays second) :
    node.Relays (do
      node.transmitControl frame
      second) where
  config := rest.config
  own := List.forall_mem_cons.mpr ⟨own, rest.own⟩
  told := by
    rw [Reaction.events_bind, Reaction.transmit_bind, messages_append, messages_transmitControl,
      rest.told]
    split <;> rfl

end Relays

section Transitions

variable (node : Node) (now : Nat)

@[simp] theorem messages_setMode (mode : Mode) : messages (node.setMode mode).events = [] := by
  unfold setMode
  split <;> rfl

theorem relays_enterPreOperational : node.Relays (node.enterPreOperational now) :=
  .mute rfl rfl (by simp [enterPreOperational])

theorem relays_enterOperational : node.Relays (node.enterOperational now) :=
  .mute rfl rfl (by simp [enterOperational])

theorem relays_enterSystemConfiguration : node.Relays (node.enterSystemConfiguration now) :=
  .mute rfl rfl (by simp [enterSystemConfiguration])

theorem relays_reopenElection : node.Relays (node.reopenElection now) :=
  .mute rfl rfl (by simp)

theorem relays_syncSeen : node.Relays (node.syncSeen now) := by
  obtain ⟨deadline, seen⟩ := value_syncSeen node now
  have quiet := syncSeen_quiet node now
  refine .mute ?_ quiet.unsent (by rw [quiet.untold]; rfl)
  rw [seen]

end Transitions

section Handlers

variable (node : Node) (now : Nat)

theorem relays_wake : node.Relays (node.wake now) := by
  unfold wake
  split
  · exact relays_enterPreOperational node now
  · exact .pure node

theorem relays_hearSync (frame : Frame) : node.Relays (node.hearSync now frame) := by
  unfold hearSync
  split
  · exact .pure node
  · split
    · exact .pure node
    · unfold followSync
      split
      · rename_i accepted
        rw [TimeBase.hear, if_pos accepted]
        refine .mute ?_ ?_ ?_
        · exact (relays_syncSeen _ now).config
        · simp [(syncSeen_quiet _ now).unsent]
        · simp [(syncSeen_quiet _ now).untold]
      · exact .pure node

theorem relays_enterCompleted (source : UInt8) :
    node.Relays (node.enterCompleted now source) := by
  unfold enterCompleted
  generalize settled : (if source = node.address then
    { node with enterRequest := node.enterRequest.cancel } else node) = after
  have config : after.config = node.config := by
    rw [← settled]
    split <;> rfl
  refine .after_change after config ?_
  dsimp only
  split
  · exact .mute rfl rfl rfl
  · exact relays_enterSystemConfiguration after now

theorem relays_hearEnterByte (source byte : UInt8) :
    node.Relays (node.hearEnterByte now source byte) := by
  refine .after_quiet (node.enterListener.hear_quiet .enter now source byte) ?_
  generalize (node.enterListener.hear .enter now source byte).value = heard
  refine .after_change { node with enterListener := heard.2 } rfl ?_
  unfold afterEnterByte
  split
  · exact relays_enterCompleted _ now source
  · exact .pure _

theorem relays_hearExitByte (source byte : UInt8) :
    node.Relays (node.hearExitByte now source byte) := by
  unfold hearExitByte
  split
  · refine .after_quiet (node.exitListener.hear_quiet .exit now source byte) ?_
    generalize (node.exitListener.hear .exit now source byte).value = heard
    refine .after_change { node with exitListener := heard.2 } rfl ?_
    unfold afterExitByte
    split
    · exact relays_enterPreOperational _ now
    · exact .pure _
  · exact .pure node

theorem relays_obey (kind : ControlKind) (frame : Frame) :
    node.Relays (node.obey now kind frame) := by
  unfold obey
  split
  · exact relays_hearSync node now frame
  · exact relays_hearEnterByte node now _ _
  · exact relays_hearExitByte node now _ _
  · exact .pure node
  · exact .pure node

theorem relays_runSync : node.Relays (node.runSync now) := by
  cases due : (node.timeBase.isDue node.station now).value with
  | false =>
    obtain ⟨quiet, same⟩ := runSync_of_not_due node now due
    exact .mute (by rw [same]) quiet.unsent (by rw [quiet.untold]; rfl)
  | true =>
    obtain ⟨sent, told, value⟩ := runSync_of_due node now due
    refine ⟨?_, ?_, ?_⟩
    · rw [value]
      exact (relays_syncSeen _ now).config
    · simp [sent]
    · rw [told, sent, messages_append, TimeBase.messages_beat, List.nil_append]
      exact messages_transmitControl node _

theorem relays_judgeMaster : node.Relays (node.judgeMaster now) := by
  unfold judgeMaster
  split
  · refine .after_quiet (node.timeBase.lost_quiet node.station now) ?_
    unfold promoteUnless
    split
    · exact relays_reopenElection node now
    · split
      · exact relays_enterOperational node now
      · exact .pure node
  · exact .pure node

theorem relays_runEnterRequest : node.Relays (node.runEnterRequest now) := by
  refine .after_quiet (node.enterRequest.poll_quiet .enter now node.timing.ptu) ?_
  generalize (node.enterRequest.poll .enter now node.timing.ptu).value = polled
  refine .after_change { node with enterRequest := polled.2 } rfl ?_
  generalize ({ node with enterRequest := polled.2 } : Node) = asking
  cases polled.1 with
  | none => exact .pure _
  | some byte =>
    have own : (Frame.enterConfig asking.address byte).id.source = asking.address := by
      simp [Frame.enterConfig]
    exact .after_control _ own (relays_hearEnterByte asking now _ byte)

theorem relays_concludeExit : node.Relays (node.concludeExit now) := by
  unfold concludeExit
  split
  · dsimp only
    refine .after_change { node with exitRequest := node.exitRequest.cancel } rfl ?_
    split
    · exact relays_enterPreOperational _ now
    · exact .pure _
  · exact .pure node

theorem relays_runExitRequest : node.Relays (node.runExitRequest now) := by
  refine .after_quiet (node.exitRequest.poll_quiet .exit now node.timing.ptu) ?_
  generalize (node.exitRequest.poll .exit now node.timing.ptu).value = polled
  refine .after_change { node with exitRequest := polled.2 } rfl ?_
  generalize ({ node with exitRequest := polled.2 } : Node) = asking
  cases polled.1 with
  | none => exact .pure _
  | some byte =>
    have own : (Frame.exitConfig asking.address byte).id.source = asking.address := by
      simp [Frame.exitConfig]
    exact .after_control _ own
      (.bind (relays_hearExitByte asking now _ byte) (relays_concludeExit _ now))

theorem relays_runTimers : node.Relays (node.runTimers now) := by
  unfold runTimers
  split
  · exact .pure node
  · exact .bind (relays_runSync node now)
      (.bind (relays_judgeMaster _ now) (relays_runEnterRequest _ now))
  · refine .bind (relays_runSync node now) ?_
    unfold watchSyncs
    split
    · exact relays_enterPreOperational _ now
    · exact relays_runEnterRequest _ now
  · unfold runSystemConfiguration
    split
    · exact relays_enterPreOperational node now
    · exact .bind (relays_runEnterRequest node now) (relays_runExitRequest _ now)

end Handlers

section Reception

variable (node : Node) (now : Nat) (frame : Option Frame)

/-- The frame from the bus that the application gets: one of another node, if it is a control frame
and control frames are wanted, or an application frame and the mode carries traffic. -/
def delivered : List Frame :=
  frame.toList.filter fun frame =>
    decide (frame.id.source ≠ node.address ∧
      (frame.isControl = true ∧ node.config.options.deliverControl = true ∨
        frame.isControl = false ∧ node.mode.carriesTraffic = true))

theorem messages_delivery (frame : Frame) :
    messages (node.delivery frame) =
      if (if frame.isControl then node.config.options.deliverControl else node.drains) = true
      then [frame] else [] := by
  unfold delivery
  dsimp only
  split <;> split <;> rfl

/-- Reception tells the frame from the bus before it is obeyed, and no other message. -/
theorem messages_receive? : messages (node.receive? now frame).events = node.delivered frame := by
  cases frame with
  | none => rfl
  | some frame =>
    rw [receive?, receive]
    split
    · rename_i own
      simp [delivered, own]
    · rename_i foreign
      rw [Reaction.events_bind, messages_append, Reaction.events_notify, messages_delivery]
      cases control : frame.id.control? with
      | none => simp [delivered, List.filter_cons, foreign, Frame.isControl, control, drains]
      | some kind =>
        have obeyed : messages (node.obey now kind frame).events = [] := by
          rw [(relays_obey node now kind frame).told, transmit_obey, ite_self]
        simp [delivered, List.filter_cons, foreign, Frame.isControl, control, obeyed]

/-- A node that is off carries no traffic, and neither does it when it has just woken. -/
theorem delivered_wake : (node.wake now).value.delivered frame = node.delivered frame := by
  unfold wake
  split
  · rename_i off
    simp [delivered, off, enterPreOperational, Mode.carriesTraffic, clearHandshakes, address]
  · rfl

/-- The timers of a tick find the configuration as it was. -/
theorem relays_timers :
    node.Relays ((((node.wake now).value.receive? now frame).value).runTimers now) :=
  .after_change _ ((configured_stages now).reception node frame) (relays_runTimers _ now)

/-- The messages of a tick: the frame from the bus, then the copies of what goes out. -/
theorem messages_tick :
    messages (node.tick now frame).events = node.delivered frame ++
      if node.echoes = true then (node.tick now frame).transmit else [] := by
  have woken : messages (node.wake now).events = [] := by
    rw [(relays_wake node now).told, transmit_wake, ite_self]
  rw [tick, Reaction.events_bind, Reaction.events_bind, messages_append, messages_append, woken,
    List.nil_append, messages_receive?, delivered_wake, (relays_timers node now frame).told]
  simp

/-- The copies that a tick tells are those of the frames that it hands over, for what it delivers
from the bus is not its own. -/
theorem mirrors_tick : node.Mirrors (node.tick now frame) := by
  have own : ∀ sent ∈ (node.tick now frame).transmit, sent.id.source = node.address := by
    rw [transmit_tick]
    exact (relays_timers node now frame).own
  have foreign : (node.delivered frame).filter
      (fun frame => decide (frame.id.source = node.address)) = [] := by
    apply List.filter_eq_nil_iff.mpr
    intro told member
    have wanted := of_decide_eq_true (List.mem_filter.mp member).2
    simp [wanted.1]
  have whole : (node.tick now frame).transmit.filter
      (fun frame => decide (frame.id.source = node.address)) = (node.tick now frame).transmit :=
    List.filter_eq_self.mpr fun sent member => decide_eq_true (own sent member)
  refine ⟨(configured_stages now).tick node frame, ?_⟩
  rw [ownCopies_eq_filter, messages_tick, List.filter_append, foreign, List.nil_append]
  split
  · exact whole
  · rfl

end Reception

end Node

/-- Over every run of a node, the messages of a tick are the frame from the bus, if another node
sent it and it is either a control frame, where these are wanted, or an application frame, where
the tick began in Operational or System Configuration; then, where both own frames and control
frames are wanted, a copy of each frame that the tick transmits, in their order. Requests tell no
messages. -/
theorem messages_come_from_the_bus_and_from_the_node (config : Config) (origin : Nat)
    (inputs : List Node.Input) :
    let node := (Node.start config origin >>= fun node => node.run inputs).value
    (∀ now frame, messages (node.tick now frame).events =
      (frame.toList.filter fun frame =>
        decide (frame.id.source ≠ config.address ∧
          (frame.isControl = true ∧ config.options.deliverControl = true ∨
            frame.isControl = false ∧
              (node.mode = .operational ∨ node.mode = .systemConfiguration)))) ++
        if config.options.echoOwn = true ∧ config.options.deliverControl = true
        then (node.tick now frame).transmit else []) ∧
      ∀ now, messages (node.requestEnter now).events = [] ∧
        messages (node.requestExit now).events = [] := by
  intro node
  have opened : node.config = config := Node.config_run (Node.start config origin).value inputs
  have carries : node.mode.carriesTraffic = true ↔
      node.mode = .operational ∨ node.mode = .systemConfiguration := by
    cases node.mode <;> decide
  constructor
  · intro now frame
    rw [Node.messages_tick, Node.delivered, Node.echoes, Node.address, opened]
    simp only [carries, Bool.and_eq_true]
  · intro now
    refine ⟨rfl, ?_⟩
    unfold Node.requestExit
    split <;> rfl

end VehicleBus
