import Mathlib.Data.List.Forall2
import VehicleBus.Proofs.Node.Modes

/-!
The application and the protocol are kept apart. The options of delivery are read where a copy
is told to the application and nowhere else, and a frame that is no control frame of another node
goes no further than that. So two nodes that differ in these options, and hear the same control
frames of others among whatever else they hear, cannot be told apart by their protocol.

The proof runs both nodes side by side, one lemma for each of their duties.
-/
namespace VehicleBus

open Handshake

/-- What is no copy of a frame. -/
def Notification.isNotice : Notification → Bool
  | .message _ => false
  | .modeChanged _ | .syncUpdated _ | .masterChanged _ => true

/-- The notifications that are no copies of frames, in order. -/
def notices (events : List Notification) : List Notification := events.filter (·.isNotice)

theorem notices_append (first second : List Notification) :
    notices (first ++ second) = notices first ++ notices second := List.filter_append ..

namespace Node

/-- Two nodes that differ in nothing but what they tell their applications. -/
structure Alike (first second : Node) : Prop where
  station : second.station = first.station
  mode : second.mode = first.mode
  timeBase : second.timeBase = first.timeBase
  deadline : second.deadline = first.deadline
  enterListener : second.enterListener = first.enterListener
  exitListener : second.exitListener = first.exitListener
  enterRequest : second.enterRequest = first.enterRequest
  exitRequest : second.exitRequest = first.exitRequest

/-- Two reactions that differ in nothing but the copies for the application. -/
structure Accord (first second : Reaction Node) : Prop where
  value : first.value.Alike second.value
  transmit : second.transmit = first.transmit
  notices : notices second.events = notices first.events
  horizon : second.horizon = first.horizon

section Composition

variable {first second : Node}

theorem Accord.pure (alike : first.Alike second) : Accord (Pure.pure first) (Pure.pure second) :=
  ⟨alike, rfl, rfl, rfl⟩

theorem Accord.bind {before besides : Reaction Node} {next other : Node → Reaction Node}
    (accord : Accord before besides)
    (rest : before.value.Alike besides.value →
      Accord (next before.value) (other besides.value)) :
    Accord (before >>= next) (besides >>= other) := by
  have later := rest accord.value
  refine ⟨later.value, ?_, ?_, ?_⟩
  · rw [Reaction.transmit_bind, Reaction.transmit_bind, accord.transmit, later.transmit]
  · rw [Reaction.events_bind, Reaction.events_bind, notices_append, notices_append,
      accord.notices, later.notices]
  · rw [Reaction.horizon_bind, Reaction.horizon_bind, accord.horizon, later.horizon]

/-- A computation that both share may come before. -/
theorem Accord.after {α : Type} {shared : Reaction α} {next other : α → Reaction Node}
    (rest : Accord (next shared.value) (other shared.value)) :
    Accord (shared >>= next) (shared >>= other) := by
  refine ⟨rest.value, ?_, ?_, ?_⟩
  · rw [Reaction.transmit_bind, Reaction.transmit_bind, rest.transmit]
  · rw [Reaction.events_bind, Reaction.events_bind, notices_append, notices_append, rest.notices]
  · rw [Reaction.horizon_bind, Reaction.horizon_bind, rest.horizon]

theorem notices_delivery (node : Node) (frame : Frame) : notices (node.delivery frame) = [] := by
  unfold delivery
  dsimp only
  generalize (if frame.isControl then node.config.options.deliverControl else node.drains) = wanted
  cases wanted <;> rfl

/-- Each node may tell its application of a frame before. -/
theorem Accord.after_delivery {next other : Reaction Node} (frame : Frame)
    (rest : Accord next other) :
    Accord (do Reaction.notify (first.delivery frame); next)
      (do Reaction.notify (second.delivery frame); other) := by
  refine ⟨rest.value, rest.transmit, ?_, ?_⟩
  · rw [Reaction.events_bind, Reaction.events_bind, notices_append, notices_append,
      Reaction.events_notify, Reaction.events_notify, notices_delivery, notices_delivery,
      rest.notices]
  · rw [Reaction.horizon_bind, Reaction.horizon_bind, rest.horizon]
    rfl

theorem notices_transmitControl (node : Node) (frame : Frame) :
    notices (node.transmitControl frame).events = [] := by
  unfold transmitControl
  dsimp only
  split <;> rfl

/-- Both may transmit a control frame before, whoever gets copies of it. -/
theorem Accord.after_transmitControl {next other : Reaction Node} (frame : Frame)
    (rest : Accord next other) :
    Accord (do first.transmitControl frame; next) (do second.transmitControl frame; other) := by
  refine ⟨rest.value, ?_, ?_, ?_⟩
  · rw [Reaction.transmit_bind, Reaction.transmit_bind, rest.transmit]
    rfl
  · rw [Reaction.events_bind, Reaction.events_bind, notices_append, notices_append,
      notices_transmitControl, notices_transmitControl, rest.notices]
  · rw [Reaction.horizon_bind, Reaction.horizon_bind, rest.horizon]
    rfl

end Composition

section Duties

variable {first second : Node} (alike : first.Alike second) (now : Nat)
include alike

theorem Alike.address : second.address = first.address := congrArg Station.address alike.station

theorem Alike.timing : second.timing = first.timing := congrArg Station.timing alike.station

theorem Alike.expired : second.expired now = first.expired now := by
  rw [Node.expired, alike.deadline]
  rfl

/-- Both are in a mode, or neither is. -/
theorem Alike.by_mode (mode : Mode) {inside insideToo outside outsideToo : Reaction Node}
    (held : Accord inside insideToo) (other : Accord outside outsideToo) :
    Accord (if first.mode = mode then inside else outside)
      (if second.mode = mode then insideToo else outsideToo) := by
  rw [alike.mode]
  split
  · exact held
  · exact other

theorem Alike.withTimeBase (timeBase : TimeBase) :
    Alike { first with timeBase } { second with timeBase } := { alike with timeBase := rfl }

theorem Alike.withEnterListener (enterListener : Listener) :
    Alike { first with enterListener } { second with enterListener } :=
  { alike with enterListener := rfl }

theorem Alike.withExitListener (exitListener : Listener) :
    Alike { first with exitListener } { second with exitListener } :=
  { alike with exitListener := rfl }

theorem Alike.withEnterRequest (enterRequest : Requester) :
    Alike { first with enterRequest } { second with enterRequest } :=
  { alike with enterRequest := rfl }

theorem Alike.withExitRequest (exitRequest : Requester) :
    Alike { first with exitRequest } { second with exitRequest } :=
  { alike with exitRequest := rfl }

theorem accord_setMode (mode : Mode) : Accord (first.setMode mode) (second.setMode mode) := by
  refine ⟨{ alike with mode := rfl }, rfl, ?_, rfl⟩
  unfold setMode
  rw [alike.mode]

theorem accord_setDeadline (span : Nat) :
    Accord (first.setDeadline now span) (second.setDeadline now span) :=
  .after (.pure { alike with deadline := rfl })

theorem accord_reopenElection :
    Accord (first.reopenElection now) (second.reopenElection now) := by
  unfold reopenElection
  rw [alike.timeBase, alike.station]
  exact .after (.pure { alike with timeBase := rfl, deadline := rfl })

theorem Alike.clearHandshakes : first.clearHandshakes.Alike second.clearHandshakes :=
  { alike with
    enterListener := congrArg Listener.reset alike.enterListener
    exitListener := congrArg Listener.reset alike.exitListener
    exitRequest := congrArg Requester.cancel alike.exitRequest }

theorem accord_enterPreOperational :
    Accord (first.enterPreOperational now) (second.enterPreOperational now) :=
  (accord_setMode alike _).bind fun alike =>
    (accord_reopenElection alike now).bind fun alike => .pure alike.clearHandshakes

theorem accord_enterOperational :
    Accord (first.enterOperational now) (second.enterOperational now) :=
  (accord_setMode alike _).bind fun alike => by
    rw [alike.timing]
    exact accord_setDeadline alike now _

theorem accord_enterSystemConfiguration :
    Accord (first.enterSystemConfiguration now) (second.enterSystemConfiguration now) :=
  (accord_setMode alike _).bind fun alike =>
    (accord_setDeadline alike now _).bind fun alike => .pure
      { alike with
        enterRequest := congrArg Requester.cancel alike.enterRequest
        exitListener := congrArg Listener.reset alike.exitListener }

theorem accord_syncSeen : Accord (first.syncSeen now) (second.syncSeen now) := by
  unfold syncSeen
  rw [alike.mode, alike.deadline, alike.timing]
  split
  · exact accord_setDeadline alike now _
  · exact accord_setDeadline alike now _
  · exact .pure alike

theorem accord_hearSync (frame : Frame) :
    Accord (first.hearSync now frame) (second.hearSync now frame) := by
  refine alike.by_mode _ (.pure alike) ?_
  split
  · exact .pure alike
  · unfold followSync
    rw [alike.timeBase, alike.station]
    split
    · exact .after (accord_syncSeen (alike.withTimeBase _) now)
    · exact .pure alike

theorem accord_enterCompleted (source : UInt8) :
    Accord (first.enterCompleted now source) (second.enterCompleted now source) := by
  have asked : Alike
      (if source = first.address then { first with enterRequest := first.enterRequest.cancel }
      else first)
      (if source = second.address then { second with enterRequest := second.enterRequest.cancel }
      else second) := by
    rw [alike.address]
    split
    · exact { alike with enterRequest := congrArg Requester.cancel alike.enterRequest }
    · exact alike
  exact asked.by_mode _ (accord_setDeadline asked now _) (accord_enterSystemConfiguration asked now)

theorem accord_hearEnterByte (source byte : UInt8) :
    Accord (first.hearEnterByte now source byte) (second.hearEnterByte now source byte) := by
  unfold hearEnterByte
  rw [alike.enterListener]
  refine .after ?_
  unfold afterEnterByte
  split
  · exact accord_enterCompleted (alike.withEnterListener _) now source
  · exact .pure (alike.withEnterListener _)

theorem accord_hearExitByte (source byte : UInt8) :
    Accord (first.hearExitByte now source byte) (second.hearExitByte now source byte) := by
  refine alike.by_mode _ ?_ (.pure alike)
  unfold followExitByte
  rw [alike.exitListener]
  refine .after ?_
  unfold afterExitByte
  split
  · exact accord_enterPreOperational (alike.withExitListener _) now
  · exact .pure (alike.withExitListener _)

theorem accord_obey (kind : ControlKind) (frame : Frame) :
    Accord (first.obey now kind frame) (second.obey now kind frame) := by
  unfold obey
  split
  · exact accord_hearSync alike now frame
  · exact accord_hearEnterByte alike now _ _
  · exact accord_hearExitByte alike now _ _
  · exact .pure alike
  · exact .pure alike

theorem accord_receive (frame : Frame) :
    Accord (first.receive now frame) (second.receive now frame) := by
  unfold receive
  rw [alike.address]
  split
  · exact .pure alike
  · apply Accord.after_delivery
    split
    · exact .pure alike
    · exact accord_obey alike now _ frame

theorem accord_sendSync (frame : Option Frame) :
    Accord (first.sendSync now frame) (second.sendSync now frame) := by
  cases frame with
  | none => exact .pure alike
  | some frame => exact (accord_syncSeen alike now).after_transmitControl frame

theorem accord_runSync : Accord (first.runSync now) (second.runSync now) := by
  unfold runSync
  rw [alike.timeBase, alike.station]
  exact .after (accord_sendSync (alike.withTimeBase _) now _)

theorem accord_sendEnterByte (byte : Option UInt8) :
    Accord (first.sendEnterByte now byte) (second.sendEnterByte now byte) := by
  cases byte with
  | none => exact .pure alike
  | some byte =>
    unfold sendEnterByte
    rw [alike.address]
    exact (accord_hearEnterByte alike now _ byte).after_transmitControl _

theorem accord_runEnterRequest :
    Accord (first.runEnterRequest now) (second.runEnterRequest now) := by
  unfold runEnterRequest
  rw [alike.enterRequest, alike.timing]
  exact .after (accord_sendEnterByte (alike.withEnterRequest _) now _)

theorem accord_concludeExit : Accord (first.concludeExit now) (second.concludeExit now) := by
  have left := alike.withExitRequest first.exitRequest.cancel
  unfold concludeExit
  rw [alike.exitRequest]
  split
  · exact left.by_mode _ (accord_enterPreOperational left now) (.pure left)
  · exact .pure alike

theorem accord_sendExitByte (byte : Option UInt8) :
    Accord (first.sendExitByte now byte) (second.sendExitByte now byte) := by
  cases byte with
  | none => exact .pure alike
  | some byte =>
    unfold sendExitByte
    rw [alike.address]
    apply Accord.after_transmitControl
    exact (accord_hearExitByte alike now _ byte).bind fun alike => accord_concludeExit alike now

theorem accord_runExitRequest :
    Accord (first.runExitRequest now) (second.runExitRequest now) := by
  unfold runExitRequest
  rw [alike.exitRequest, alike.timing]
  exact .after (accord_sendExitByte (alike.withExitRequest _) now _)

theorem accord_judgeMaster : Accord (first.judgeMaster now) (second.judgeMaster now) := by
  unfold judgeMaster
  rw [alike.timeBase, alike.station]
  split
  · refine .after ?_
    unfold promoteUnless
    rw [alike.expired]
    split
    · exact accord_reopenElection alike now
    · split
      · exact accord_enterOperational alike now
      · exact .pure alike
  · exact .pure alike

theorem accord_watchSyncs : Accord (first.watchSyncs now) (second.watchSyncs now) := by
  unfold watchSyncs
  rw [alike.expired]
  split
  · exact accord_enterPreOperational alike now
  · exact accord_runEnterRequest alike now

theorem accord_runSystemConfiguration :
    Accord (first.runSystemConfiguration now) (second.runSystemConfiguration now) := by
  unfold runSystemConfiguration
  rw [alike.expired]
  split
  · exact accord_enterPreOperational alike now
  · exact (accord_runEnterRequest alike now).bind fun alike => accord_runExitRequest alike now

theorem accord_runTimers : Accord (first.runTimers now) (second.runTimers now) := by
  unfold runTimers
  rw [alike.mode]
  split
  · exact .pure alike
  · exact (accord_runSync alike now).bind fun alike =>
      (accord_judgeMaster alike now).bind fun alike => accord_runEnterRequest alike now
  · exact (accord_runSync alike now).bind fun alike => accord_watchSyncs alike now
  · exact accord_runSystemConfiguration alike now

theorem accord_wake : Accord (first.wake now) (second.wake now) :=
  alike.by_mode _ (accord_enterPreOperational alike now) (.pure alike)

theorem accord_requestEnter :
    Accord (first.requestEnter now) (second.requestEnter now) := by
  unfold requestEnter
  rw [alike.enterRequest]
  exact .after (.pure (alike.withEnterRequest _))

theorem accord_requestExit : Accord (first.requestExit now) (second.requestExit now) := by
  refine alike.by_mode _ ?_ (.pure alike)
  rw [alike.exitRequest]
  exact .after (.pure (alike.withExitRequest _))

end Duties

/-- Nothing here drives the protocol: there is no frame, or it is no control frame, or it is one of
the node's own. -/
def Unheeded (address : UInt8) (received : Option Frame) : Prop :=
  ∀ frame ∈ received, frame.isControl = true → frame.id.source = address

/-- Two inputs between which the protocol makes no difference. -/
inductive Input.Counterpart (address : UInt8) : Input → Input → Prop
  | heard (now : Nat) {frame : Frame} (control : frame.isControl = true)
      (foreign : frame.id.source ≠ address) :
      Counterpart address (.tick now (some frame)) (.tick now (some frame))
  | unheeded (now : Nat) {received other : Option Frame} (unheeded : Unheeded address received)
      (besides : Unheeded address other) :
      Counterpart address (.tick now received) (.tick now other)
  | requestEnter (now : Nat) : Counterpart address (.requestEnter now) (.requestEnter now)
  | requestExit (now : Nat) : Counterpart address (.requestExit now) (.requestExit now)

/-- What is unheeded is told to the application, if it wants it, and that is all. -/
theorem receive?_of_unheeded (node : Node) (now : Nat) {received : Option Frame}
    (unheeded : Unheeded node.address received) :
    ∃ copies, notices copies = [] ∧
      node.receive? now received = (do Reaction.notify copies; return node) := by
  cases received with
  | none => exact ⟨[], rfl, rfl⟩
  | some frame =>
    rw [receive?, receive]
    split
    · exact ⟨[], rfl, rfl⟩
    · rename_i foreign
      have other : frame.isControl = false :=
        Bool.eq_false_iff.mpr fun control => foreign (unheeded frame rfl control)
      have named : frame.id.control? = none := Option.isNone_iff_eq_none.mp (by
        rw [← Option.not_isSome, Bool.not_eq_true']
        exact other)
      refine ⟨node.delivery frame, notices_delivery node frame, ?_⟩
      rw [named]

theorem accord_unheeded {first second : Node} (alike : first.Alike second) (now : Nat)
    {received other : Option Frame} (unheeded : Unheeded first.address received)
    (besides : Unheeded first.address other) :
    Accord (first.receive? now received) (second.receive? now other) := by
  rw [← alike.address] at besides
  obtain ⟨copies, silent, handled⟩ := first.receive?_of_unheeded now unheeded
  obtain ⟨others, alsoSilent, handledToo⟩ := second.receive?_of_unheeded now besides
  rw [handled, handledToo]
  refine ⟨alike, rfl, ?_, rfl⟩
  rw [Reaction.events_bind, Reaction.events_bind, Reaction.events_notify, Reaction.events_notify,
    notices_append, notices_append, silent, alsoSilent]
  rfl

/-- Two nodes that are alike do the same about counterparts and stay alike. -/
theorem accord_react {first second : Node} (alike : first.Alike second) {input other : Input}
    (counterpart : input.Counterpart first.address other) :
    Accord (first.react input) (second.react other) := by
  cases counterpart with
  | heard now control foreign =>
    exact (accord_wake alike now).bind fun alike =>
      (accord_receive alike now _).bind fun alike => accord_runTimers alike now
  | unheeded now unheeded besides =>
    have kept : (first.wake now).value.address = first.address := by
      unfold wake
      split <;> rfl
    rw [← kept] at unheeded besides
    exact (accord_wake alike now).bind fun alike =>
      (accord_unheeded alike now unheeded besides).bind fun alike => accord_runTimers alike now
  | requestEnter now => exact accord_requestEnter alike now
  | requestExit now => exact accord_requestExit alike now

theorem accord_run {first second : Node} (alike : first.Alike second)
    {inputs others : List Input}
    (counterparts : List.Forall₂ (Input.Counterpart first.address) inputs others) :
    Accord (first.run inputs) (second.run others) := by
  induction inputs generalizing first second others with
  | nil =>
    cases counterparts
    exact .pure alike
  | cons input rest ih =>
    obtain - | ⟨counterpart, counterparts⟩ := counterparts
    have kept : (first.react input).value.address = first.address :=
      congrArg Config.address (react_obeys configured_stages first input)
    rw [← kept] at counterparts
    exact (accord_react alike counterpart).bind fun alike => ih alike counterparts

end Node

section Twins

variable (config other : Config) (origin : Nat) (address : other.address = config.address)
  (bitrate : other.bitrate = config.bitrate) (frequency : other.frequency = config.frequency)
  (syncMaster : other.options.syncMaster = config.options.syncMaster)
include address bitrate frequency syncMaster

theorem Config.station_congr : other.station = config.station := by
  unfold station timing
  rw [address, bitrate, frequency, syncMaster]

theorem Node.accord_start : Accord (Node.start config origin) (Node.start other origin) := by
  have station := config.station_congr other address bitrate frequency syncMaster
  unfold start
  rw [station]
  refine .after (.pure ?_)
  exact ⟨station, rfl, rfl, rfl, rfl, rfl, rfl, rfl⟩

/-- Neither application traffic nor the choice of what is delivered reaches the protocol. Two nodes
that may differ in what they deliver, and whose ticks may differ in everything but the control
frames of others, are alike after every run: the same mode, time base, deadlines, listeners and
requests, the same frames transmitted, the same notifications apart from copies of frames, and the
same instants computed. So are their reactions to whatever comes next. -/
theorem delivery_does_not_reach_the_protocol (inputs others : List Node.Input)
    (counterparts : List.Forall₂ (Node.Input.Counterpart config.address) inputs others) :
    let first := Node.start config origin >>= fun node => node.run inputs
    let second := Node.start other origin >>= fun node => node.run others
    Node.Accord first second ∧ ∀ input alternative,
      Node.Input.Counterpart config.address input alternative →
        Node.Accord (first.value.react input) (second.value.react alternative) := by
  intro first second
  have begun := Node.accord_start config other origin address bitrate frequency syncMaster
  have accord : Node.Accord first second :=
    begun.bind fun alike => Node.accord_run alike counterparts
  refine ⟨accord, fun input alternative counterpart => ?_⟩
  have kept : first.value.address = config.address :=
    congrArg Config.address (Node.config_run (Node.start config origin).value inputs)
  rw [← kept] at counterpart
  exact Node.accord_react accord.value counterpart

end Twins

/-- A node that delivers everything, on a busy bus, beside one that delivers nothing of its own and
no control frames, on a quiet one. -/
theorem curious_twin_keeps_step :
    let plain := Config.candidate 10 (by decide)
    let curious : Config :=
      { plain with options := { syncMaster := true, echoOwn := true, deliverControl := true } }
    let first := Node.start plain 0 >>= fun node => node.run
      [.tick 0 none, .tick 7813 none, .requestEnter 8000, .tick 16198 (some (Frame.sync 7 5)),
        .tick 24583 none]
    let second := Node.start curious 0 >>= fun node => node.run
      [.tick 0 (some (Frame.sync 10 9)), .tick 7813 (some (Frame.single ⟨0x4000505⟩ 1)),
        .requestEnter 8000, .tick 16198 (some (Frame.sync 7 5)),
        .tick 24583 (some (Frame.enterConfig 10 0x43))]
    Node.Accord first second ∧ first.events ≠ second.events ∧ first.transmit ≠ [] := by
  intro plain curious first second
  refine ⟨?_, by decide +kernel, by decide +kernel⟩
  refine (delivery_does_not_reach_the_protocol plain curious 0 rfl rfl rfl rfl _ _ ?_).1
  refine .cons ?_ (.cons ?_ (.cons ?_ (.cons ?_ (.cons ?_ .nil))))
  · exact .unheeded 0 (by simp [Node.Unheeded]) (by simp [Node.Unheeded]; decide)
  · exact .unheeded 7813 (by simp [Node.Unheeded]) (by simp [Node.Unheeded]; decide)
  · exact .requestEnter 8000
  · exact .heard 16198 (by decide) (by decide)
  · exact .unheeded 24583 (by simp [Node.Unheeded]) (by simp [Node.Unheeded]; decide)

end VehicleBus
