import Mathlib.Data.List.Forall2
import VehicleBus.Node.Run

/-!
Time has no origin for a node. A life that begins a span later, and in which everything comes a
span later, is the same life: the same frames are transmitted, the same notifications are made,
and the same status is shown, input by input. A shift back is a shift forth read from the other
life.

The proof runs both nodes side by side, one lemma for each of their duties. An instant that the one
node keeps is kept by the other a span later, but for the instants of handshakes that are at rest:
these begin at zero on both sides, and nobody looks at them before they are set.
-/
namespace VehicleBus

namespace Reaction

/-- Two reactions with related values that transmit and notify the same. -/
structure Shifted {α β : Type} (related : α → β → Prop) (first : Reaction α)
    (second : Reaction β) : Prop where
  value : related first.value second.value
  transmit : second.transmit = first.transmit
  events : second.events = first.events

namespace Shifted

variable {α β γ δ : Type} {related : α → β → Prop} {other : γ → δ → Prop}

theorem outbox {first : Reaction α} {second : Reaction β}
    (shifted : Shifted related first second) : second.outbox = first.outbox := by
  rw [Reaction.outbox, Reaction.outbox, shifted.transmit, shifted.events]

theorem pure {value : α} {late : β} (values : related value late) :
    Shifted related (Pure.pure value) (Pure.pure late) :=
  ⟨values, rfl, rfl⟩

theorem bind {first : Reaction α} {second : Reaction β} {next : α → Reaction γ}
    {follow : β → Reaction δ} (before : Shifted related first second)
    (rest : ∀ {value late}, related value late → Shifted other (next value) (follow late)) :
    Shifted other (first >>= next) (second >>= follow) := by
  have later := rest before.value
  refine ⟨later.value, ?_, ?_⟩
  · rw [transmit_bind, transmit_bind, before.transmit, later.transmit]
  · rw [events_bind, events_bind, before.events, later.events]

/-- An instant that lies as long after another is a span later as that one is. -/
theorem after {span : Nat} (now length : Nat) :
    Shifted (fun instant late => late = instant + span) (Reaction.after now length)
      (Reaction.after (now + span) length) := by
  refine ⟨?_, rfl, rfl⟩
  rw [value_after, value_after]
  omega

/-- Both may make the same notifications before. -/
theorem after_notify {first : Reaction α} {second : Reaction β} (events : List Notification)
    (rest : Shifted related first second) :
    Shifted related (do Reaction.notify events; first) (do Reaction.notify events; second) := by
  have told : Shifted Eq (Reaction.notify events) (Reaction.notify events) := ⟨rfl, rfl, rfl⟩
  exact told.bind fun _ => rest

end Shifted

end Reaction

open Reaction (Shifted)

namespace TimeBase

/-- The second time base is the first one a span later. -/
structure Trails (span : Nat) (base late : TimeBase) : Prop where
  counter : late.counter = base.counter
  master : late.master = base.master
  due : late.due = base.due + span
  lastSync : late.lastSync = base.lastSync + span

section Shift

variable {span : Nat} {base late : TimeBase} (station : Station) (now : Nat)

theorem shifted_start :
    Shifted (Trails span) (start station now) (start station (now + span)) :=
  (Shifted.after now _).bind fun due => .pure ⟨rfl, rfl, due, rfl⟩

variable (trails : base.Trails span late)
include trails

theorem Trails.isMaster : late.isMaster station = base.isMaster station := by
  rw [TimeBase.isMaster, TimeBase.isMaster, trails.master]

theorem Trails.mayClaim : late.mayClaim station = base.mayClaim station := by
  rw [TimeBase.mayClaim, TimeBase.mayClaim, trails.master]

theorem Trails.accepts (source : UInt8) : late.accepts source = base.accepts source := by
  rw [TimeBase.accepts, TimeBase.accepts, trails.master]

theorem shifted_setMaster (master : Option UInt8) :
    Shifted (Trails span) (base.setMaster master) (late.setMaster master) := by
  refine ⟨{ trails with master := rfl }, rfl, ?_⟩
  unfold setMaster
  rw [trails.master]

theorem shifted_setCounter (counter : Nat) :
    Shifted (Trails span) (base.setCounter counter) (late.setCounter counter) := by
  refine ⟨{ trails with counter := rfl }, rfl, ?_⟩
  unfold setCounter
  rw [trails.counter]

theorem shifted_beginPeriod :
    Shifted (Trails span) (base.beginPeriod station now)
      (late.beginPeriod station (now + span)) :=
  (Shifted.after now _).bind fun due => .pure { trails with due, lastSync := rfl }

theorem shifted_reopen :
    Shifted (Trails span) (base.reopen station now) (late.reopen station (now + span)) :=
  (shifted_setMaster trails none).bind fun trails => shifted_beginPeriod station now trails

theorem shifted_lost :
    Shifted Eq (base.lost station now) (late.lost station (now + span)) := by
  unfold lost
  rw [trails.isMaster, trails.lastSync]
  split
  · exact .pure rfl
  · refine (Shifted.after base.lastSync _).bind fun {patience _} later => .pure ?_
    rw [later, decide_eq_decide, Nat.add_le_add_iff_right]

theorem shifted_follow (source : UInt8) (counter : Nat) :
    Shifted (Trails span) (base.follow station now source counter)
      (late.follow station (now + span) source counter) :=
  (shifted_setMaster trails _).bind fun trails =>
    (shifted_setCounter trails _).bind fun trails => shifted_beginPeriod station now trails

theorem shifted_hear (source : UInt8) (counter : Nat) :
    Shifted (Trails span) (base.hear station now source counter)
      (late.hear station (now + span) source counter) := by
  unfold hear
  rw [trails.accepts]
  split
  · exact shifted_follow station now trails source counter
  · exact .pure trails

theorem shifted_isDue :
    Shifted Eq (base.isDue station now) (late.isDue station (now + span)) := by
  unfold isDue
  rw [trails.isMaster, trails.mayClaim, trails.due]
  split
  · refine .pure ?_
    rw [decide_eq_decide, Nat.add_le_add_iff_right]
  · split
    · refine (Shifted.after now _).bind fun {ahead _} later => .pure ?_
      rw [later, decide_eq_decide, Nat.add_le_add_iff_right]
    · exact .pure rfl

theorem shifted_beat :
    Shifted (Trails span) (base.beat station now) (late.beat station (now + span)) := by
  refine (shifted_setMaster trails _).bind fun trails => ?_
  rw [trails.counter]
  exact (shifted_setCounter trails _).bind fun trails => shifted_beginPeriod station now trails

theorem shifted_poll :
    Shifted (fun polled after => after.1 = polled.1 ∧ polled.2.Trails span after.2)
      (base.poll station now) (late.poll station (now + span)) := by
  refine (shifted_isDue station now trails).bind ?_
  rintro due _ rfl
  cases due with
  | false => exact .pure ⟨rfl, trails⟩
  | true =>
    refine (shifted_beat station now trails).bind fun trails => .pure ⟨?_, trails⟩
    rw [trails.counter]

end Shift

end TimeBase

namespace Handshake

/-- The second listener is the first one a span later. The instant of the latest byte means nothing
before a byte was accepted. -/
structure Listener.Trails (span : Nat) (listener late : Listener) : Prop where
  position : late.position = listener.position
  source : late.source = listener.source
  lastByte : listener.position ≠ 0 → late.lastByte = listener.lastByte + span

/-- The second requester is the first one a span later. The instants of a request mean nothing
while none is pending. -/
structure Requester.Trails (span : Nat) (requester late : Requester) : Prop where
  pending : late.pending = requester.pending
  position : late.position = requester.position
  nextByte : requester.pending = true → late.nextByte = requester.nextByte + span
  restart : requester.pending = true → late.restart = requester.restart + span

namespace Listener

variable {span : Nat} {listener late : Listener} (trails : listener.Trails span late)
  (sequence : Sequence) (now : Nat) (source byte : UInt8)

theorem trails_accept (listener late : Listener) (position : Nat) :
    (listener.accept now source position).Trails span (late.accept (now + span) source position) :=
  ⟨rfl, rfl, fun _ => rfl⟩

include trails

theorem Trails.reset : listener.reset.Trails span late.reset :=
  ⟨rfl, trails.source, fun moved => absurd rfl moved⟩

theorem shifted_stalled :
    Shifted Eq (listener.stalled now source) (late.stalled (now + span) source) := by
  unfold stalled
  rw [trails.position, trails.source]
  split
  · exact .pure rfl
  · rename_i moved
    split
    · rw [trails.lastByte moved]
      refine (Shifted.after listener.lastByte _).bind fun {latest _} later => .pure ?_
      rw [later, decide_eq_decide, Nat.add_lt_add_iff_right]
    · exact .pure rfl

/-- The verdicts on a byte are the same, and the listeners stay a span apart. -/
theorem trails_judge (gaveUp : Bool) :
    (late.judge sequence gaveUp (now + span) source byte).1 =
        (listener.judge sequence gaveUp now source byte).1 ∧
      (listener.judge sequence gaveUp now source byte).2.Trails span
        (late.judge sequence gaveUp (now + span) source byte).2 := by
  unfold judge advance startOver
  rw [trails.position]
  split
  · split
    · exact ⟨rfl, trails_accept now source listener late _⟩
    · exact ⟨rfl, trails_accept now source listener late _⟩
  · split
    · split
      · exact ⟨rfl, trails_accept now source listener late _⟩
      · exact ⟨rfl, trails.reset⟩
    · exact ⟨rfl, trails⟩

theorem shifted_hear :
    Shifted (fun heard after => after.1 = heard.1 ∧ heard.2.Trails span after.2)
      (listener.hear sequence now source byte) (late.hear sequence (now + span) source byte) := by
  refine (shifted_stalled trails now source).bind ?_
  rintro stalled _ rfl
  refine .pure ?_
  cases stalled with
  | false => exact trails_judge trails sequence now source byte false
  | true => exact trails_judge trails.reset sequence now source byte true

end Listener

namespace Requester

variable {span : Nat} {requester late : Requester} (trails : requester.Trails span late)
  (sequence : Sequence) (now ptu : Nat)

theorem shifted_request (requester late : Requester) :
    Shifted (Trails span) (requester.request now) (late.request (now + span)) :=
  (Shifted.after now _).bind fun restart => .pure ⟨rfl, rfl, fun _ => rfl, fun _ => restart⟩

theorem trails_cancel (requester late : Requester) : requester.cancel.Trails span late.cancel :=
  ⟨rfl, rfl, fun pending => absurd pending Bool.false_ne_true,
    fun pending => absurd pending Bool.false_ne_true⟩

include trails

theorem Trails.finished : late.finished = requester.finished := by
  rw [Requester.finished, Requester.finished, trails.pending, trails.position]

theorem shifted_startOver (pending : requester.pending = true) :
    Shifted (fun moved after => moved.pending = true ∧ moved.Trails span after)
      (requester.startOver sequence now) (late.startOver sequence (now + span)) := by
  unfold startOver
  simp only [trails.restart pending, Nat.add_le_add_iff_right]
  split
  · exact (Shifted.after now _).bind fun restart => .pure
      ⟨pending, { trails with position := rfl, restart := fun _ => restart }⟩
  · exact .pure ⟨pending, trails⟩

theorem shifted_emitDue (pending : requester.pending = true) :
    Shifted (fun polled after => after.1 = polled.1 ∧ polled.2.Trails span after.2)
      (requester.emitDue sequence now ptu) (late.emitDue sequence (now + span) ptu) := by
  unfold emitDue emit
  simp only [trails.position, trails.nextByte pending, Nat.add_le_add_iff_right]
  split
  · exact .pure ⟨rfl, trails⟩
  · split
    · exact (Shifted.after now ptu).bind fun next => .pure
        ⟨rfl, { trails with position := rfl, nextByte := fun _ => next }⟩
    · exact .pure ⟨rfl, trails⟩

theorem shifted_poll :
    Shifted (fun polled after => after.1 = polled.1 ∧ polled.2.Trails span after.2)
      (requester.poll sequence now ptu) (late.poll sequence (now + span) ptu) := by
  unfold poll
  rw [trails.pending]
  split
  · rename_i pending
    exact (shifted_startOver trails sequence now pending).bind fun moved =>
      shifted_emitDue moved.2 sequence now ptu moved.1
  · exact .pure ⟨rfl, trails⟩

end Requester

end Handshake

open Handshake

namespace Node

/-- The second node is the first one a span later. -/
structure Trails (span : Nat) (node late : Node) : Prop where
  config : late.config = node.config
  mode : late.mode = node.mode
  timeBase : node.timeBase.Trails span late.timeBase
  deadline : late.deadline = node.deadline.map (· + span)
  enterListener : node.enterListener.Trails span late.enterListener
  exitListener : node.exitListener.Trails span late.exitListener
  enterRequest : node.enterRequest.Trails span late.enterRequest
  exitRequest : node.exitRequest.Trails span late.exitRequest

section Duties

variable {span : Nat} {node late : Node} (now : Nat)

theorem shifted_start (config : Config) :
    Shifted (Trails span) (start config now) (start config (now + span)) := by
  refine (TimeBase.shifted_start config.station now).bind fun timeBase => .pure ?_
  exact
    { config := rfl
      mode := rfl
      timeBase
      deadline := rfl
      enterListener := ⟨rfl, rfl, fun moved => absurd rfl moved⟩
      exitListener := ⟨rfl, rfl, fun moved => absurd rfl moved⟩
      enterRequest := Requester.trails_cancel {} {}
      exitRequest := Requester.trails_cancel {} {} }

variable (trails : node.Trails span late)
include trails

theorem Trails.address : late.address = node.address := congrArg Config.address trails.config

theorem Trails.station : late.station = node.station := congrArg Config.station trails.config

theorem Trails.timing : late.timing = node.timing := congrArg Config.timing trails.config

theorem Trails.status : late.status = node.status := by
  rw [Node.status, Node.status, trails.mode, trails.timeBase.counter, trails.timeBase.master]

theorem Trails.expired : late.expired (now + span) = node.expired now := by
  rw [Node.expired, Node.expired, trails.deadline]
  cases node.deadline with
  | none => rfl
  | some deadline => simp only [Option.map_some, Option.any_some, Nat.add_le_add_iff_right]

theorem Trails.delivery (frame : Frame) : late.delivery frame = node.delivery frame := by
  rw [Node.delivery, Node.delivery, drains, drains, trails.config, trails.mode]

/-- Both are in a mode, or neither is. -/
theorem Trails.by_mode (mode : Mode) {inside insideToo outside outsideToo : Reaction Node}
    (held : Shifted (Trails span) inside insideToo)
    (other : Shifted (Trails span) outside outsideToo) :
    Shifted (Trails span) (if node.mode = mode then inside else outside)
      (if late.mode = mode then insideToo else outsideToo) := by
  rw [trails.mode]
  split
  · exact held
  · exact other

theorem shifted_setMode (mode : Mode) :
    Shifted (Trails span) (node.setMode mode) (late.setMode mode) := by
  refine ⟨{ trails with mode := rfl }, rfl, ?_⟩
  unfold setMode
  rw [trails.mode]

theorem shifted_setDeadline (length : Nat) :
    Shifted (Trails span) (node.setDeadline now length)
      (late.setDeadline (now + span) length) :=
  (Shifted.after now length).bind fun later => .pure
    { trails with deadline := congrArg some later }

theorem shifted_reopenElection :
    Shifted (Trails span) (node.reopenElection now) (late.reopenElection (now + span)) := by
  unfold reopenElection
  rw [trails.station]
  exact (TimeBase.shifted_reopen _ now trails.timeBase).bind fun timeBase => .pure
    { trails with timeBase, deadline := rfl }

theorem Trails.clearHandshakes : node.clearHandshakes.Trails span late.clearHandshakes :=
  { trails with
    enterListener := trails.enterListener.reset
    exitListener := trails.exitListener.reset
    exitRequest := Requester.trails_cancel _ _ }

theorem shifted_enterPreOperational :
    Shifted (Trails span) (node.enterPreOperational now)
      (late.enterPreOperational (now + span)) :=
  (shifted_setMode trails _).bind fun trails =>
    (shifted_reopenElection now trails).bind fun trails => .pure trails.clearHandshakes

theorem shifted_enterOperational :
    Shifted (Trails span) (node.enterOperational now)
      (late.enterOperational (now + span)) := by
  refine (shifted_setMode trails _).bind fun trails => ?_
  rw [trails.timing]
  exact shifted_setDeadline now trails _

theorem shifted_enterSystemConfiguration :
    Shifted (Trails span) (node.enterSystemConfiguration now)
      (late.enterSystemConfiguration (now + span)) :=
  (shifted_setMode trails _).bind fun trails =>
    (shifted_setDeadline now trails _).bind fun trails => .pure
      { trails with
        enterRequest := Requester.trails_cancel _ _
        exitListener := trails.exitListener.reset }

theorem shifted_transmitControl (frame : Frame) :
    Shifted Eq (node.transmitControl frame) (late.transmitControl frame) := by
  refine ⟨rfl, rfl, ?_⟩
  unfold transmitControl
  rw [trails.config]

theorem shifted_syncSeen :
    Shifted (Trails span) (node.syncSeen now) (late.syncSeen (now + span)) := by
  unfold syncSeen
  rw [trails.mode, trails.deadline, trails.timing]
  cases node.mode <;> cases node.deadline <;>
    first | exact shifted_setDeadline now trails _ | exact .pure trails

theorem shifted_hearSync (frame : Frame) :
    Shifted (Trails span) (node.hearSync now frame) (late.hearSync (now + span) frame) := by
  refine trails.by_mode _ (.pure trails) ?_
  split
  · exact .pure trails
  · unfold followSync
    rw [trails.timeBase.accepts, trails.station]
    split
    · exact (TimeBase.shifted_hear _ now trails.timeBase _ _).bind fun timeBase =>
        shifted_syncSeen now { trails with timeBase }
    · exact .pure trails

theorem shifted_enterCompleted (source : UInt8) :
    Shifted (Trails span) (node.enterCompleted now source)
      (late.enterCompleted (now + span) source) := by
  have asked : Trails span
      (if source = node.address then { node with enterRequest := node.enterRequest.cancel }
      else node)
      (if source = late.address then { late with enterRequest := late.enterRequest.cancel }
      else late) := by
    rw [trails.address]
    split
    · exact { trails with enterRequest := Requester.trails_cancel _ _ }
    · exact trails
  exact asked.by_mode _ (shifted_setDeadline now asked _)
    (shifted_enterSystemConfiguration now asked)

theorem shifted_hearEnterByte (source byte : UInt8) :
    Shifted (Trails span) (node.hearEnterByte now source byte)
      (late.hearEnterByte (now + span) source byte) := by
  refine (Listener.shifted_hear trails.enterListener _ now _ _).bind fun {heard after} same => ?_
  have trails : Trails span { node with enterListener := heard.2 }
      { late with enterListener := after.2 } := { trails with enterListener := same.2 }
  unfold afterEnterByte
  rw [same.1]
  split
  · exact shifted_enterCompleted now trails source
  · exact .pure trails

theorem shifted_hearExitByte (source byte : UInt8) :
    Shifted (Trails span) (node.hearExitByte now source byte)
      (late.hearExitByte (now + span) source byte) := by
  refine trails.by_mode _ ?_ (.pure trails)
  refine (Listener.shifted_hear trails.exitListener _ now _ _).bind fun {heard after} same => ?_
  have trails : Trails span { node with exitListener := heard.2 }
      { late with exitListener := after.2 } := { trails with exitListener := same.2 }
  unfold afterExitByte
  rw [same.1]
  split
  · exact shifted_enterPreOperational now trails
  · exact .pure trails

theorem shifted_obey (kind : ControlKind) (frame : Frame) :
    Shifted (Trails span) (node.obey now kind frame) (late.obey (now + span) kind frame) := by
  unfold obey
  split
  · exact shifted_hearSync now trails frame
  · exact shifted_hearEnterByte now trails _ _
  · exact shifted_hearExitByte now trails _ _
  · exact .pure trails
  · exact .pure trails

theorem shifted_receive (frame : Frame) :
    Shifted (Trails span) (node.receive now frame) (late.receive (now + span) frame) := by
  unfold receive
  rw [trails.address, trails.delivery]
  split
  · exact .pure trails
  · refine Shifted.after_notify _ ?_
    split
    · exact .pure trails
    · exact shifted_obey now trails _ frame

theorem shifted_runSync :
    Shifted (Trails span) (node.runSync now) (late.runSync (now + span)) := by
  unfold runSync
  rw [trails.station]
  refine (TimeBase.shifted_poll _ now trails.timeBase).bind fun {polled after} same => ?_
  have trails : Trails span { node with timeBase := polled.2 } { late with timeBase := after.2 } :=
    { trails with timeBase := same.2 }
  rw [same.1]
  cases polled.1 with
  | none => exact .pure trails
  | some frame =>
    exact (shifted_transmitControl trails frame).bind fun _ => shifted_syncSeen now trails

theorem shifted_runEnterRequest :
    Shifted (Trails span) (node.runEnterRequest now) (late.runEnterRequest (now + span)) := by
  unfold runEnterRequest
  rw [trails.timing]
  refine (Requester.shifted_poll trails.enterRequest _ now _).bind fun {polled after} same => ?_
  have trails : Trails span { node with enterRequest := polled.2 }
      { late with enterRequest := after.2 } := { trails with enterRequest := same.2 }
  rw [same.1]
  cases polled.1 with
  | none => exact .pure trails
  | some byte =>
    unfold sendEnterByte
    rw [trails.address]
    exact (shifted_transmitControl trails _).bind fun _ => shifted_hearEnterByte now trails _ byte

theorem shifted_concludeExit :
    Shifted (Trails span) (node.concludeExit now) (late.concludeExit (now + span)) := by
  have left : Trails span { node with exitRequest := node.exitRequest.cancel }
      { late with exitRequest := late.exitRequest.cancel } :=
    { trails with exitRequest := Requester.trails_cancel _ _ }
  unfold concludeExit
  rw [trails.exitRequest.finished]
  split
  · exact left.by_mode _ (shifted_enterPreOperational now left) (.pure left)
  · exact .pure trails

theorem shifted_runExitRequest :
    Shifted (Trails span) (node.runExitRequest now) (late.runExitRequest (now + span)) := by
  unfold runExitRequest
  rw [trails.timing]
  refine (Requester.shifted_poll trails.exitRequest _ now _).bind fun {polled after} same => ?_
  have trails : Trails span { node with exitRequest := polled.2 }
      { late with exitRequest := after.2 } := { trails with exitRequest := same.2 }
  rw [same.1]
  cases polled.1 with
  | none => exact .pure trails
  | some byte =>
    unfold sendExitByte
    rw [trails.address]
    exact (shifted_transmitControl trails _).bind fun _ =>
      (shifted_hearExitByte now trails _ byte).bind fun trails => shifted_concludeExit now trails

theorem shifted_judgeMaster :
    Shifted (Trails span) (node.judgeMaster now) (late.judgeMaster (now + span)) := by
  unfold judgeMaster
  rw [trails.timeBase.master, trails.station]
  split
  · refine (TimeBase.shifted_lost _ now trails.timeBase).bind ?_
    rintro lost _ rfl
    unfold promoteUnless
    rw [trails.expired]
    split
    · exact shifted_reopenElection now trails
    · split
      · exact shifted_enterOperational now trails
      · exact .pure trails
  · exact .pure trails

theorem shifted_watchSyncs :
    Shifted (Trails span) (node.watchSyncs now) (late.watchSyncs (now + span)) := by
  unfold watchSyncs
  rw [trails.expired]
  split
  · exact shifted_enterPreOperational now trails
  · exact shifted_runEnterRequest now trails

theorem shifted_runSystemConfiguration :
    Shifted (Trails span) (node.runSystemConfiguration now)
      (late.runSystemConfiguration (now + span)) := by
  unfold runSystemConfiguration
  rw [trails.expired]
  split
  · exact shifted_enterPreOperational now trails
  · exact (shifted_runEnterRequest now trails).bind fun trails => shifted_runExitRequest now trails

theorem shifted_runTimers :
    Shifted (Trails span) (node.runTimers now) (late.runTimers (now + span)) := by
  unfold runTimers
  rw [trails.mode]
  split
  · exact .pure trails
  · exact (shifted_runSync now trails).bind fun trails =>
      (shifted_judgeMaster now trails).bind fun trails => shifted_runEnterRequest now trails
  · exact (shifted_runSync now trails).bind fun trails => shifted_watchSyncs now trails
  · exact shifted_runSystemConfiguration now trails

theorem shifted_wake :
    Shifted (Trails span) (node.wake now) (late.wake (now + span)) :=
  trails.by_mode _ (shifted_enterPreOperational now trails) (.pure trails)

theorem shifted_tick (received : Option Frame) :
    Shifted (Trails span) (node.tick now received) (late.tick (now + span) received) := by
  refine (shifted_wake now trails).bind fun trails => ?_
  cases received with
  | none => exact shifted_runTimers now trails
  | some frame =>
    exact (shifted_receive now trails frame).bind fun trails => shifted_runTimers now trails

theorem shifted_requestEnter :
    Shifted (Trails span) (node.requestEnter now) (late.requestEnter (now + span)) :=
  (Requester.shifted_request now _ _).bind fun enterRequest => .pure { trails with enterRequest }

theorem shifted_requestExit :
    Shifted (Trails span) (node.requestExit now) (late.requestExit (now + span)) :=
  trails.by_mode _ ((Requester.shifted_request now _ _).bind fun exitRequest =>
    .pure { trails with exitRequest }) (.pure trails)

end Duties

/-- The same input a span later. -/
def Input.later (span : Nat) : Input → Input
  | tick now received => .tick (now + span) received
  | requestEnter now => .requestEnter (now + span)
  | requestExit now => .requestExit (now + span)

section Lives

variable {span : Nat} {node late : Node} (trails : node.Trails span late)
include trails

/-- Two nodes a span apart do the same about an input and stay a span apart. -/
theorem shifted_react (input : Input) :
    Shifted (Trails span) (node.react input) (late.react (input.later span)) := by
  cases input with
  | tick now received => exact shifted_tick now trails received
  | requestEnter now => exact shifted_requestEnter now trails
  | requestExit now => exact shifted_requestExit now trails

theorem shifted_run (inputs : List Input) :
    Shifted (Trails span) (node.run inputs) (late.run (inputs.map (Input.later span))) := by
  induction inputs generalizing node late with
  | nil => exact .pure trails
  | cons input rest ih => exact (shifted_react trails input).bind fun trails => ih trails

end Lives

/-- What two lives show of themselves is the same: what they transmit and notify, and their mode,
counter and master at the end. -/
structure SameShow (first second : Reaction Node) : Prop where
  outbox : second.outbox = first.outbox
  status : second.value.status = first.value.status

theorem SameShow.symm {first second : Reaction Node} (same : SameShow first second) :
    SameShow second first :=
  ⟨same.outbox.symm, same.status.symm⟩

theorem SameShow.of_shifted {span : Nat} {first second : Reaction Node}
    (shifted : Shifted (Trails span) first second) : SameShow first second :=
  ⟨shifted.outbox, shifted.value.status⟩

theorem shifted_life (config : Config) (origin span : Nat) (inputs : List Input) :
    Shifted (Trails span) (start config origin >>= fun node => node.run inputs)
      (start config (origin + span) >>= fun node => node.run (inputs.map (Input.later span))) :=
  (shifted_start origin config).bind fun trails => shifted_run trails inputs

/-- The second input is the first one, shifted forth or back in time. -/
inductive Input.Shifts (shift : Int) : Input → Input → Prop
  | tick {now other : Nat} (apart : (other : Int) = now + shift) (received : Option Frame) :
      Shifts shift (.tick now received) (.tick other received)
  | requestEnter {now other : Nat} (apart : (other : Int) = now + shift) :
      Shifts shift (.requestEnter now) (.requestEnter other)
  | requestExit {now other : Nat} (apart : (other : Int) = now + shift) :
      Shifts shift (.requestExit now) (.requestExit other)

namespace Input.Shifts

theorem symm {shift : Int} {input other : Input} (shifts : Shifts shift input other) :
    Shifts (-shift) other input := by
  cases shifts with
  | tick apart received => exact .tick (by omega) received
  | requestEnter apart => exact .requestEnter (by omega)
  | requestExit apart => exact .requestExit (by omega)

/-- A shift forth is told by a span. -/
theorem eq_later {span : Nat} {input other : Input} (shifts : Shifts span input other) :
    other = input.later span := by
  cases shifts with
  | tick apart received => exact congrArg (Input.tick · received) (by omega)
  | requestEnter apart => exact congrArg Input.requestEnter (by omega)
  | requestExit apart => exact congrArg Input.requestExit (by omega)

theorem eq_map_later {span : Nat} {inputs others : List Input}
    (shifts : List.Forall₂ (Shifts span) inputs others) :
    others = inputs.map (Input.later span) := by
  induction shifts with
  | nil => rfl
  | cons first _ ih => rw [List.map_cons, ← ih, first.eq_later]

end Input.Shifts

/-- A shift forth changes nothing, now or at the next input. -/
theorem sameShow_later (config : Config) {origin other span : Nat} {inputs others : List Input}
    (begun : (other : Int) = origin + span)
    (shifts : List.Forall₂ (Input.Shifts span) inputs others) :
    let first := start config origin >>= fun node => node.run inputs
    let second := start config other >>= fun node => node.run others
    SameShow first second ∧ ∀ next alternative, Input.Shifts span next alternative →
      SameShow (first.value.react next) (second.value.react alternative) := by
  intro first second
  have start : other = origin + span := by omega
  have shifted := shifted_life config origin span inputs
  rw [← Input.Shifts.eq_map_later shifts, ← start] at shifted
  refine ⟨.of_shifted shifted, fun next alternative shifts => ?_⟩
  rw [shifts.eq_later]
  exact .of_shifted (shifted_react shifted.value next)

end Node

/-- The origin of time makes no difference. Two lives of a node that begin a shift apart, forth or
back, and go through the same inputs that shift apart, transmit the same frames, make the same
notifications and show the same mode, counter and master after any number of inputs, and again in
their reactions to the next one. -/
theorem shifted_life_is_the_same (config : Config) (origin other : Nat) (shift : Int)
    (inputs others : List Node.Input) (begun : (other : Int) = origin + shift)
    (shifts : List.Forall₂ (Node.Input.Shifts shift) inputs others) :
    let first := Node.start config origin >>= fun node => node.run inputs
    let second := Node.start config other >>= fun node => node.run others
    Node.SameShow first second ∧ ∀ next alternative,
      Node.Input.Shifts shift next alternative →
        Node.SameShow (first.value.react next) (second.value.react alternative) := by
  intro first second
  obtain ⟨span, rfl | rfl⟩ := Int.eq_nat_or_neg shift
  · exact Node.sameShow_later config begun shifts
  · -- A shift back is a shift forth read from the other life.
    have back : List.Forall₂ (Node.Input.Shifts span) others inputs := by
      refine shifts.flip.imp fun input other shifts => ?_
      simpa using shifts.symm
    have forth : (origin : Int) = other + span := by omega
    obtain ⟨same, next⟩ := Node.sameShow_later config forth back
    refine ⟨same.symm, fun input alternative shifts => (next alternative input ?_).symm⟩
    simpa using shifts.symm

/-- A candidate that is started five milliseconds earlier claims mastership five milliseconds
earlier, and yields and calls for System Configuration as it does otherwise. -/
theorem ten_lives_earlier :
    let ten := Config.candidate 10 (by decide)
    let first := Node.start ten 5000 >>= fun node => node.run
      [.tick 5000 none, .tick 12813 none, .requestEnter 13000, .tick 21198 (some (Frame.sync 7 5))]
    let second := Node.start ten 0 >>= fun node => node.run
      [.tick 0 none, .tick 7813 none, .requestEnter 8000, .tick 16198 (some (Frame.sync 7 5))]
    Node.SameShow first second ∧
      Node.SameShow (first.value.react (.tick 29583 none)) (second.value.react (.tick 24583 none)) ∧
      first.transmit ≠ [] ∧ (first.value.tick 29583 none).transmit ≠ [] := by
  intro ten first second
  obtain ⟨same, next⟩ := shifted_life_is_the_same ten 5000 0 (-5000)
    [.tick 5000 none, .tick 12813 none, .requestEnter 13000, .tick 21198 (some (Frame.sync 7 5))]
    [.tick 0 none, .tick 7813 none, .requestEnter 8000, .tick 16198 (some (Frame.sync 7 5))]
    (by decide)
    (.cons (.tick (by decide) _) (.cons (.tick (by decide) _) (.cons (.requestEnter (by decide))
      (.cons (.tick (by decide) _) .nil))))
  exact ⟨same, next _ _ (.tick (by decide) _), by decide +kernel, by decide +kernel⟩

end VehicleBus
