import VehicleBus.Proofs.Node.Deference
import VehicleBus.Proofs.Node.Departure

/-!
The graph of the modes. Whatever a node announces in the course of a run is a path through it
that begins with the node switched off, and the first tick takes the first edge.

One tick takes two edges at most. A mode that was entered while its frame was handled has
nothing to decide in the same instant: deadlines lie ahead, the listeners begin afresh, and no
request is left that could lead on. What remains is a node that is promoted in its timers and
then completes the enter sequence itself.
-/
namespace VehicleBus

open Handshake

/-- The modes that a mode leads to. -/
def Mode.exits : Mode → List Mode
  | .powerOff => [.preOperational]
  | .preOperational => [.operational, .systemConfiguration]
  | .operational => [.preOperational, .systemConfiguration]
  | .systemConfiguration => [.preOperational]

/-- An edge of the graph. -/
def Mode.LeadsTo (before after : Mode) : Prop := after ∈ before.exits

instance (before after : Mode) : Decidable (before.LeadsTo after) :=
  inferInstanceAs (Decidable (_ ∈ _))

/-- Nothing leads back to where a node begins. -/
theorem Mode.not_leadsTo_powerOff (before : Mode) : ¬ before.LeadsTo .powerOff := by
  cases before <;> decide

/-- A path never comes back to where a node begins. -/
theorem Mode.on_of_path {before : Mode} {path : List Mode}
    (chain : (before :: path).IsChain Mode.LeadsTo) : .powerOff ∉ path := by
  induction path generalizing before with
  | nil => exact List.not_mem_nil
  | cons next rest ih =>
    obtain ⟨edge, chain⟩ := List.isChain_cons_cons.mp chain
    rw [List.mem_cons, not_or]
    constructor
    · rintro rfl
      exact before.not_leadsTo_powerOff edge
    · exact ih chain

/-- A byte takes a listener one place further at most. -/
theorem Handshake.Listener.position_hear_le (listener : Listener) (sequence : Sequence)
    (now : Nat) (source byte : UInt8) :
    (listener.hear sequence now source byte).value.2.position ≤ listener.position + 1 := by
  have judged (heard : Listener) (gaveUp : Bool) (behind : heard.position ≤ listener.position) :
      (heard.judge sequence gaveUp now source byte).2.position ≤ listener.position + 1 := by
    unfold judge advance startOver
    split
    · split
      · exact Nat.zero_le _
      · exact Nat.succ_le_succ behind
    · split
      · split
        · exact Nat.succ_le_succ (Nat.zero_le _)
        · exact Nat.zero_le _
      · exact Nat.le_succ_of_le behind
  rw [hear, Reaction.value_bind]
  apply judged
  split
  · exact Nat.zero_le _
  · exact Nat.le_refl _

namespace Node

/-- What is announced is a path from the mode before to the mode after. -/
def Travels : Law := fun before _ events after =>
  (before.mode :: modes events).IsChain Mode.LeadsTo ∧
    (modes events).getLastD before.mode = after.mode

theorem travels_silently {before after : Node} {sent : List Frame} {events : List Notification}
    (untold : modes events = []) (mode : after.mode = before.mode) :
    Travels before sent events after := by
  unfold Travels
  rw [untold]
  exact ⟨List.isChain_singleton _, mode.symm⟩

theorem travels_edge {before after : Node} {sent : List Frame} {events : List Notification}
    (edge : before.mode.LeadsTo after.mode) (told : modes events = [after.mode]) :
    Travels before sent events after := by
  unfold Travels
  rw [told]
  exact ⟨List.isChain_pair.mpr edge, rfl⟩

/-- Every stage takes one edge of the graph or none. -/
theorem travels_stages (now : Nat) : StageLaw now Travels where
  silent _ _ _ mode _ := travels_silently rfl mode
  chain := by
    rintro first between last sent moreSent told moreTold ⟨chain, reached⟩ ⟨more, end_reached⟩
    rw [← reached] at more end_reached
    refine ⟨?_, ?_⟩
    · rw [modes_append]
      exact isChain_join _ _ _ chain more
    · rw [modes_append, getLastD_join]
      exact end_reached
  message _ _ := travels_silently rfl rfl
  byte _ _ _ _ := travels_silently rfl rfl
  leave node other := by
    refine travels_edge ?_ (by simp [other]; rfl)
    show node.mode.LeadsTo .preOperational
    cases mode : node.mode <;> first | decide | exact absurd mode other
  lose node _ _ _ := travels_silently (by simp) rfl
  promote node mode _ _ := by
    refine travels_edge ?_ (by simp [mode]; rfl)
    show node.mode.LeadsTo .operational
    rw [mode]
    decide
  configure node synchronizes := by
    refine travels_edge ?_ (by simp [synchronizes.not_configuring]; rfl)
    show node.mode.LeadsTo .systemConfiguration
    rcases synchronizes with mode | mode
    all_goals
      rw [mode]
      decide
  follow _ _ _ _ _ _ := travels_silently (by simp) rfl
  beat _ _ _ := travels_silently (by simp) rfl

section Timers

variable {node : Node} {now : Nat}

/-- The timers take two edges only for a promotion and the node's own enter sequence. -/
theorem modes_runTimers (node : Node) (now : Nat) :
    modes (node.runTimers now).events = [] ∨
      (∃ mode, modes (node.runTimers now).events = [mode]) ∨
      modes (node.runTimers now).events = [.operational, .systemConfiguration] := by
  unfold runTimers
  split
  · exact .inl rfl
  · rw [runPreOperational, Reaction.events_bind, Reaction.events_bind, modes_append, modes_append,
      modes_runSync, List.nil_append]
    rcases judgeMaster_announces (node.runSync now).value now with none | promoted
    · rcases runEnterRequest_announces ((node.runSync now).value.judgeMaster now).value now with
        silent | ⟨-, entered⟩
      · exact .inl (by rw [none, silent]; rfl)
      · exact .inr (.inl ⟨_, by rw [none, entered]; rfl⟩)
    · rcases runEnterRequest_announces ((node.runSync now).value.judgeMaster now).value now with
        silent | ⟨-, entered⟩
      · exact .inr (.inl ⟨_, by rw [promoted, silent]; rfl⟩)
      · exact .inr (.inr (by rw [promoted, entered]; rfl))
  · rw [runOperational, Reaction.events_bind, modes_append, modes_runSync, List.nil_append,
      watchSyncs]
    split
    · rw [modes_enterPreOperational]
      split
      · exact .inl rfl
      · exact .inr (.inl ⟨_, rfl⟩)
    · rcases runEnterRequest_announces (node.runSync now).value now with silent | ⟨-, entered⟩
      · exact .inl silent
      · exact .inr (.inl ⟨_, entered⟩)
  · rename_i configuring
    unfold runSystemConfiguration
    split
    · rw [modes_enterPreOperational]
      split
      · exact .inl rfl
      · exact .inr (.inl ⟨_, rfl⟩)
    · have stays : modes (node.runEnterRequest now).events = [] :=
        (runEnterRequest_announces node now).resolve_right fun entered => entered.1 configuring
      rw [runRequests, Reaction.events_bind, modes_append, stays, List.nil_append]
      rcases runExitRequest_announces (node.runEnterRequest now).value now with silent | left
      · exact .inl silent
      · exact .inr (.inl ⟨_, left⟩)

/-- PreOperational has just begun: no deadline has come, and the enter sequence is two bytes away
from its end. -/
structure Fresh (node : Node) (now : Nat) : Prop where
  mode : node.mode = .preOperational
  running : node.expired now = false
  early : node.enterListener.position ≤ 1

namespace Fresh

theorem enterPreOperational (parting : Node) (now : Nat) :
    (parting.enterPreOperational now).value.Fresh now := ⟨rfl, rfl, Nat.zero_le 1⟩

/-- A sync that counts starts the wait for promotion, which is not over at once. -/
theorem syncSeen (fresh : node.Fresh now) (base : TimeBase) :
    (Node.syncSeen { node with timeBase := base } now).value.Fresh now := by
  have positive : 0 < node.timing.ptu := Timing.ptu_pos _ _
  have patience : node.timing.ptu ≤ node.timing.slaveTimeout := Timing.ptu_le_slaveTimeout _ _
  have ahead : ¬ now + node.timing.slaveTimeout ≤ now := by omega
  have running := fresh.running
  obtain ⟨deadline, seen⟩ := value_syncSeen { node with timeBase := base } now
  refine ⟨by rw [seen]; exact fresh.mode, ?_, by rw [seen]; exact fresh.early⟩
  unfold Node.syncSeen
  simp only [fresh.mode]
  cases set : node.deadline with
  | none => exact decide_eq_false ahead
  | some deadline =>
    rw [expired, set] at running
    exact running

theorem runSync (fresh : node.Fresh now) : (node.runSync now).value.Fresh now := by
  cases due : (node.timeBase.isDue node.station now).value with
  | false =>
    rw [(runSync_of_not_due node now due).2]
    exact fresh
  | true =>
    rw [(runSync_of_due node now due).2.2]
    exact fresh.syncSeen _

/-- Whoever is not promoted stays as he is, or loses his master. -/
theorem judgeMaster (fresh : node.Fresh now) :
    modes (node.judgeMaster now).events = [] ∧ (node.judgeMaster now).value.Fresh now := by
  have quiet := node.timeBase.lost_quiet node.station now
  have running : ¬ node.expired now = true := by simp [fresh.running]
  unfold Node.judgeMaster
  split
  · rw [Reaction.events_bind, Reaction.value_bind, quiet.untold, List.nil_append, promoteUnless]
    split
    · exact ⟨by simp, fresh.mode, rfl, fresh.early⟩
    · exact ⟨rfl, fresh⟩
  · exact ⟨rfl, fresh⟩

/-- A mode that has just begun is not left in the timers. -/
theorem runTimers (fresh : node.Fresh now) : modes (node.runTimers now).events = [] := by
  obtain ⟨unjudged, judged⟩ := fresh.runSync.judgeMaster
  have incomplete (source byte : UInt8) :
      (((node.runSync now).value.judgeMaster now).value.enterListener.hear .enter now source
        byte).value.1 ≠ .complete := by
    intro complete
    have third := (Listener.third_of_complete complete).1
    have early := judged.early
    omega
  simp only [Node.runTimers, fresh.mode]
  rw [runPreOperational, Reaction.events_bind, Reaction.events_bind, modes_append, modes_append,
    modes_runSync, unjudged, List.nil_append, List.nil_append]
  generalize ((node.runSync now).value.judgeMaster now).value = asking at *
  have quiet := asking.enterRequest.poll_quiet .enter now asking.timing.ptu
  rw [runEnterRequest, Reaction.events_bind, modes_append, quiet.untold, modes_nil, List.nil_append]
  rcases (asking.enterRequest.poll .enter now asking.timing.ptu).value with ⟨none | byte, request⟩
  · rfl
  · rw [sendEnterByte, Reaction.events_bind, modes_append, modes_transmitControl, List.nil_append,
      modes_hearEnterByte, if_neg fun entered => incomplete _ byte entered.1]

/-- Nor is it left for the first frame. -/
theorem receive (parting : Node) (now : Nat) (frame : Frame) :
    let node := (parting.enterPreOperational now).value
    modes (node.receive now frame).events = [] ∧ (node.receive now frame).value.Fresh now := by
  intro node
  have fresh : node.Fresh now := enterPreOperational parting now
  have incomplete (source byte : UInt8) :
      (node.enterListener.hear .enter now source byte).value.1 ≠ .complete :=
    incomplete_of_fresh .enter node.enterListener source byte rfl
  unfold Node.receive
  split
  · exact ⟨rfl, fresh⟩
  · rw [Reaction.events_bind, Reaction.value_bind, Reaction.events_notify, modes_append,
      modes_delivery, List.nil_append]
    cases frame.id.control? with
    | none => exact ⟨rfl, fresh⟩
    | some kind =>
      dsimp only
      unfold obey
      split
      · refine ⟨modes_hearSync node now frame, ?_⟩
        rw [hearSync, if_neg (by rw [fresh.mode]; decide)]
        split
        · exact fresh
        · rename_i counter _
          have accepted : node.timeBase.accepts frame.id.source = true := rfl
          rw [value_followSync_of_accepts node now _ counter accepted]
          exact fresh.syncSeen _
      · rename_i byte _
        rw [modes_hearEnterByte, if_neg fun entered => incomplete _ byte entered.1,
          value_hearEnterByte_of_incomplete node now _ byte (incomplete _ byte)]
        exact ⟨rfl, fresh.mode, fresh.running, Listener.position_hear_le node.enterListener _ _ _ _⟩
      · rw [hearExitByte, if_neg (by rw [fresh.mode]; decide)]
        exact ⟨rfl, fresh⟩
      · exact ⟨rfl, fresh⟩
      · exact ⟨rfl, fresh⟩

end Fresh

end Timers

section Reception

variable {node : Node} {now : Nat}

/-- What reception does to the mode: nothing, or it enters one that has nothing to decide at
once. -/
inductive Arrives (node : Node) (now : Nat) (received : Reaction Node) : Prop
  | stays (untold : modes received.events = [])
  | configured (told : modes received.events = [.systemConfiguration])
      (settled : received.value.Configured now)
  | left (told : modes received.events = [.preOperational]) (fresh : received.value.Fresh now)

theorem arrives_hearEnterByte (source byte : UInt8) (withdrawn : node.Withdrawn) :
    node.Arrives now (node.hearEnterByte now source byte) := by
  have told := modes_hearEnterByte node now source byte
  split at told
  · rename_i entered
    obtain ⟨request, listener, value, -, served⟩ :=
      value_hearEnterByte_of_complete node now source byte entered.1
    refine .configured told ?_
    rw [value]
    exact ⟨rfl, rfl, (served entered.2).1, withdrawn entered.2⟩
  · exact .stays told

theorem arrives_hearExitByte (source byte : UInt8) :
    node.Arrives now (node.hearExitByte now source byte) := by
  have told := modes_hearExitByte node now source byte
  split at told
  · rename_i left
    refine .left told ?_
    rw [value_hearExitByte_of_complete node now source byte left.1 left.2]
    exact .enterPreOperational _ now
  · exact .stays told

/-- A copy for the application may be told before. -/
theorem Arrives.after_delivery (frame : Frame) {received : Reaction Node}
    (arrives : node.Arrives now received) :
    node.Arrives now (do
      Reaction.notify (node.delivery frame)
      received) := by
  have same : modes (do Reaction.notify (node.delivery frame); received : Reaction Node).events =
      modes received.events := by
    rw [Reaction.events_bind, modes_append, Reaction.events_notify, modes_delivery, List.nil_append]
  cases arrives with
  | stays untold => exact .stays (same.trans untold)
  | configured told settled => exact .configured (same.trans told) settled
  | left told fresh => exact .left (same.trans told) fresh

theorem arrives_receive? (now : Nat) (frame : Option Frame) (withdrawn : node.Withdrawn) :
    node.Arrives now (node.receive? now frame) := by
  cases frame with
  | none => exact .stays rfl
  | some frame =>
    rw [receive?, receive]
    split
    · exact .stays rfl
    · apply Arrives.after_delivery
      cases frame.id.control? with
      | none => exact .stays rfl
      | some kind =>
        dsimp only
        unfold obey
        split
        · exact .stays (modes_hearSync node now frame)
        · exact arrives_hearEnterByte _ _ withdrawn
        · exact arrives_hearExitByte _ _
        · exact .stays rfl
        · exact .stays rfl

end Reception

section Tick

variable {node : Node}

/-- The first tick takes the first edge and no other. -/
theorem modes_tick_of_off (off : node.mode = .powerOff) (now : Nat) (frame : Option Frame) :
    modes (node.tick now frame).events = [.preOperational] := by
  have woken : node.wake now = node.enterPreOperational now := by rw [wake, if_pos off]
  have received : modes ((node.enterPreOperational now).value.receive? now frame).events = [] ∧
      ((node.enterPreOperational now).value.receive? now frame).value.Fresh now := by
    cases frame with
    | none => exact ⟨rfl, .enterPreOperational node now⟩
    | some frame => exact Fresh.receive node now frame
  rw [tick, Reaction.events_bind, Reaction.events_bind, woken, modes_append, modes_append,
    received.1, received.2.runTimers, modes_enterPreOperational, off]
  rfl

/-- Every other tick takes two edges at most: where its frame leads to another mode, the timers
stay there. -/
theorem modes_tick_of_woken (on : node.mode ≠ .powerOff) (withdrawn : node.Withdrawn) (now : Nat)
    (frame : Option Frame) :
    modes (node.tick now frame).events = [] ∨
      (∃ mode, modes (node.tick now frame).events = [mode]) ∨
      modes (node.tick now frame).events = [.operational, .systemConfiguration] := by
  rw [(node.tick_of_on now frame on).2, Reaction.events_bind, modes_append]
  cases arrives_receive? now frame withdrawn with
  | stays untold =>
    rw [untold, List.nil_append]
    exact modes_runTimers _ now
  | configured told settled =>
    rw [told, settled.runTimers]
    exact .inr (.inl ⟨_, rfl⟩)
  | left told fresh =>
    rw [told, fresh.runTimers]
    exact .inr (.inl ⟨_, rfl⟩)

/-- A path that ends where a node begins goes nowhere. -/
theorem Travels.off {before after : Node} {sent : List Frame} {events : List Notification}
    (travels : Travels before sent events after) (off : after.mode = .powerOff) :
    before.mode = .powerOff ∧ modes events = [] := by
  obtain ⟨chain, reached⟩ := travels
  have never := Mode.on_of_path chain
  rw [off] at reached
  cases told : modes events with
  | nil =>
    rw [told] at reached
    exact ⟨reached, rfl⟩
  | cons first rest =>
    have last : rest.getLastD first ∈ first :: rest := List.getLastD_mem_cons
    rw [told, List.getLastD_cons] at reached
    rw [reached, ← told] at last
    exact absurd last never

/-- A node is off until its first tick, and never again. -/
theorem off_run_iff (node : Node) (inputs : List Input) :
    (node.run inputs).value.mode = .powerOff ↔
      node.mode = .powerOff ∧ ∀ now frame, .tick now frame ∉ inputs := by
  have wakes (node : Node) (now : Nat) (frame : Option Frame) :
      (node.tick now frame).value.mode ≠ .powerOff := by
    intro off
    obtain ⟨before, untold⟩ := ((travels_stages now).tick node frame).off off
    rw [modes_tick_of_off before] at untold
    cases untold
  induction inputs generalizing node with
  | nil => simp [run]
  | cons input rest ih =>
    rw [run, Reaction.value_bind]
    refine (ih (node.react input).value).trans ?_
    cases input with
    | tick now frame =>
      constructor
      · exact fun later => absurd later.1 (wakes node now frame)
      · exact fun never => absurd List.mem_cons_self (never.2 now frame)
    | requestEnter now => simp [react, requestEnter]
    | requestExit now =>
      have mode : (node.react (.requestExit now)).value.mode = node.mode := by
        unfold react requestExit
        dsimp only
        split <;> rfl
      simp [mode]

end Tick

end Node

/-- Over every run of a node, the modes that it announces are a path through the graph, from
PowerOff to the present mode, and PowerOff is what it is in until its first tick and never again.
Whatever comes next, a tick announces PreOperational alone if it is the first one, and otherwise
nothing, one mode, or that the node became Operational and went on to System Configuration. -/
theorem mode_changes_follow_the_graph (config : Config) (origin : Nat)
    (inputs : List Node.Input) :
    let life := Node.start config origin >>= fun node => node.run inputs
    let node := life.value
    (.powerOff :: modes life.events).IsChain Mode.LeadsTo ∧
      (modes life.events).getLastD .powerOff = node.mode ∧
      .powerOff ∉ modes life.events ∧
      (node.mode = .powerOff ↔ ∀ now frame, .tick now frame ∉ inputs) ∧
      ∀ now frame,
        let announced := modes (node.tick now frame).events
        if node.mode = .powerOff then announced = [.preOperational]
        else announced = [] ∨ (∃ mode, announced = [mode]) ∨
          announced = [.operational, .systemConfiguration] := by
  intro life node
  have path := Node.run_obeys Node.travels_stages (Node.start config origin).value inputs
  have withdrawn : node.Withdrawn := by
    have begun : (Node.start config origin).value.Withdrawn := fun _ => rfl
    have after := begun.follow (Node.fitting_steps _ inputs)
    rwa [Node.follow_steps] at after
  have off := Node.off_run_iff (Node.start config origin).value inputs
  refine ⟨path.1, path.2, Mode.on_of_path path.1, off.trans (and_iff_right rfl), ?_⟩
  intro now frame announced
  split
  · rename_i first
    exact Node.modes_tick_of_off first now frame
  · rename_i on
    exact Node.modes_tick_of_woken on withdrawn now frame

/-- A master that is asked early sends its G in the tick that promotes it. -/
example :
    let node := (Node.start (Config.candidate 10 (by decide)) 0).value
    let asked := (node.run [.requestEnter 0, .tick 0 none, .tick 7813 none]).value
    modes (asked.tick 16198 none).events = [.operational, .systemConfiguration] := by
  decide +kernel

end VehicleBus
