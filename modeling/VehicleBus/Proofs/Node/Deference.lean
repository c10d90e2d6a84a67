import Mathlib.Data.List.Chain
import VehicleBus.Proofs.Node.Emissions

/-!
Deference to lower addresses. While a master is known, the next one has a lower address,
whichever of the two ways it comes by: a sync that was accepted, or a sync of the node's
own. A node that has handled a sync therefore keeps to the source of it or to a lower
address until the election opens again, and does not beat before that unless its own
address is the lower one.

The election may open in the middle of a tick. What protects the syncs of the same tick
is the period: an election that opens begins a fresh one, and no sync is due in the
instant in which a period begins.
-/
namespace VehicleBus

/-- The masters that notifications announce, in order. -/
def masters : List Notification → List (Option UInt8) :=
  List.filterMap fun
    | .masterChanged master => some master
    | _ => none

/-- A known master is followed by none or by a lower address. -/
def Yields : Option UInt8 → Option UInt8 → Prop
  | some holder, some heir => heir < holder
  | _, _ => True

@[simp] theorem masters_append (first second : List Notification) :
    masters (first ++ second) = masters first ++ masters second :=
  List.filterMap_append

theorem getLastD_join {α : Type} (start : α) (first second : List α) :
    (first ++ second).getLastD start = second.getLastD (first.getLastD start) := by
  induction first generalizing start with
  | nil => rfl
  | cons item rest ih => rw [List.cons_append, List.getLastD_cons, List.getLastD_cons, ih]

/-- Two chains make one where the second begins with the end of the first. -/
theorem isChain_join {α : Type} {relation : α → α → Prop} (start : α) (first second : List α)
    (left : (start :: first).IsChain relation)
    (right : (first.getLastD start :: second).IsChain relation) :
    (start :: (first ++ second)).IsChain relation := by
  induction first generalizing start with
  | nil => exact right
  | cons item rest ih =>
    obtain ⟨related, chain⟩ := List.isChain_cons_cons.mp left
    rw [List.getLastD_cons] at right
    exact List.isChain_cons_cons.mpr ⟨related, ih item chain right⟩

/-- Notifications lead from one master to another, every known one yielding to the next. -/
structure Descent (before : Option UInt8) (events : List Notification) (after : Option UInt8) :
    Prop where
  yields : (before :: masters events).IsChain Yields
  last : (masters events).getLastD before = after

namespace Descent

theorem still (master : Option UInt8) (events : List Notification) (silent : masters events = []) :
    Descent master events master := by
  constructor
  · rw [silent]
    exact List.isChain_singleton master
  · rw [silent]
    rfl

theorem step (before after : Option UInt8) (yields : Yields before after)
    (events : List Notification) (told : masters events = [after]) :
    Descent before events after := by
  constructor
  · rw [told]
    exact List.isChain_pair.mpr yields
  · rw [told]
    rfl

theorem append {before between after : Option UInt8} {first second : List Notification}
    (start : Descent before first between) (rest : Descent between second after) :
    Descent before (first ++ second) after := by
  obtain ⟨yields, last⟩ := start
  obtain ⟨moreYields, moreLast⟩ := rest
  rw [← last] at moreYields moreLast
  constructor
  · rw [masters_append]
    exact isChain_join before _ _ yields moreYields
  · rw [masters_append, getLastD_join]
    exact moreLast

end Descent

/-- A chain of known masters stays at or below any address that its first one is at or
below. -/
theorem low_of_chain (source : UInt8) (heirs : List (Option UInt8)) (holder : UInt8)
    (low : holder ≤ source) (yields : (some holder :: heirs).IsChain Yields)
    (kept : none ∉ heirs) :
    (∃ master, heirs.getLastD (some holder) = some master ∧ master ≤ source) ∧
      ∀ master, some master ∈ heirs → master ≤ source := by
  induction heirs generalizing holder with
  | nil =>
    constructor
    · exact ⟨holder, rfl, low⟩
    · intro master announced
      cases announced
  | cons next rest ih =>
    obtain ⟨lower, chain⟩ := List.isChain_cons_cons.mp yields
    rw [List.mem_cons, not_or] at kept
    cases next with
    | none => exact absurd rfl kept.1
    | some heir =>
      have heirLow : heir ≤ source := UInt8.le_trans (UInt8.le_of_lt lower) low
      obtain ⟨held, others⟩ := ih heir heirLow chain kept.2
      rw [List.getLastD_cons]
      constructor
      · exact held
      · intro master announced
        cases announced with
        | head => exact heirLow
        | tail _ further => exact others master further

namespace TimeBase

theorem masters_setMaster (base : TimeBase) (master : Option UInt8) :
    masters (base.setMaster master).events = if base.master = master then [] else [master] := by
  unfold setMaster
  split <;> rfl

theorem masters_setCounter (base : TimeBase) (counter : Nat) :
    masters (base.setCounter counter).events = [] := by
  unfold setCounter
  split <;> rfl

/-- Announcing a master is a descent if the one before yields to it, or is the same. -/
theorem descent_setMaster (base : TimeBase) (master : Option UInt8)
    (yields : base.master ≠ master → Yields base.master master) :
    Descent base.master (base.setMaster master).events master := by
  have told := masters_setMaster base master
  by_cases same : base.master = master
  · rw [if_pos same] at told
    have still := Descent.still base.master _ told
    rwa [same] at still ⊢
  · rw [if_neg same] at told
    exact .step _ _ (yields same) _ told

theorem descent_follow (base : TimeBase) (station : Station) (now : Nat) (source : UInt8)
    (counter : Nat) (accepted : base.accepts source = true) :
    Descent base.master (base.follow station now source counter).events (some source) := by
  have yields : base.master ≠ some source → Yields base.master (some source) := by
    intro changed
    cases held : base.master with
    | none => trivial
    | some holder =>
      have lower : source ≤ holder := by simpa [accepts, held] using accepted
      have other : source ≠ holder := by
        intro same
        rw [held, same] at changed
        exact changed rfl
      exact UInt8.lt_of_le_of_ne lower other
  have master := descent_setMaster base (some source) yields
  have count := Descent.still (some source) _
    (masters_setCounter (base.setMaster (some source)).value (counter % syncCounterModulo))
  simpa [follow] using master.append count

/-- No sync is due while a lower address is master. -/
theorem le_of_isDue (base : TimeBase) (station : Station) (now : Nat) (holder : UInt8)
    (held : base.master = some holder) (due : (base.isDue station now).value = true) :
    station.address ≤ holder := by
  by_cases own : base.isMaster station = true
  · have same : holder = station.address := by simpa [isMaster, held] using own
    rw [same]
    exact UInt8.le_refl _
  · by_cases claim : base.mayClaim station = true
    · simp only [mayClaim, held, Bool.and_eq_true] at claim
      exact UInt8.le_of_lt (of_decide_eq_true claim.2)
    · simp [isDue, own, claim] at due

theorem descent_beat (base : TimeBase) (station : Station) (now : Nat)
    (due : (base.isDue station now).value = true) :
    Descent base.master (base.beat station now).events (some station.address) := by
  have yields : base.master ≠ some station.address →
      Yields base.master (some station.address) := by
    intro changed
    cases held : base.master with
    | none => trivial
    | some holder =>
      have other : station.address ≠ holder := by
        intro same
        rw [held, same] at changed
        exact changed rfl
      exact UInt8.lt_of_le_of_ne (base.le_of_isDue station now holder held due) other
  have master := descent_setMaster base (some station.address) yields
  have count := Descent.still (some station.address) _
    (masters_setCounter (base.setMaster (some station.address)).value
      ((base.counter + 1) % syncCounterModulo))
  simpa [beat] using master.append count

end TimeBase

namespace Node

/-- The masters of a reaction descend. -/
def Yielding : Law := fun before _ events after =>
  Descent before.timeBase.master events after.timeBase.master

theorem yielding_reopenElection (node : Node) (now : Nat) :
    Obeys Yielding node (node.reopenElection now) := by
  have descent := node.timeBase.descent_setMaster none fun _ => by
    cases node.timeBase.master <;> trivial
  simpa [Obeys, Yielding] using descent

theorem masters_setMode (node : Node) (mode : Mode) : masters (node.setMode mode).events = [] := by
  unfold setMode
  split <;> rfl

theorem yielding_stages (now : Nat) : StageLaw now Yielding where
  silent before after _ _ timeBase := by
    unfold Yielding
    rw [timeBase]
    exact .still _ _ rfl
  chain first second := first.append second
  message _ _ := .still _ _ rfl
  byte _ _ _ _ := .still _ _ rfl
  leave node _ := by
    have mode := Descent.still node.timeBase.master _ (masters_setMode node .preOperational)
    have election := yielding_reopenElection (node.setMode .preOperational).value now
    simpa [Obeys, Yielding, enterPreOperational, clearHandshakes] using mode.append election
  lose node _ _ _ := yielding_reopenElection node now
  promote node _ _ _ := .still _ _ (by simp [enterOperational, masters_setMode])
  configure node _ := .still _ _ (by simp [enterSystemConfiguration, masters_setMode])
  follow node source counter _ _ accepted :=
    node.timeBase.descent_follow node.station now source counter accepted
  beat node _ due := node.timeBase.descent_beat node.station now due

/-- What happens before the timers of a tick either begins a period or leaves it running,
and then no election opened. -/
def Renews (now : Nat) : Law := fun before _ events after =>
  after.config = before.config ∧
    (after.timeBase.due = now + after.timing.ptu ∨
      (none ∉ masters events ∧ after.timeBase.due = before.timeBase.due))

theorem renews_stages (now : Nat) : StageLaw now (Renews now) where
  silent before after config _ timeBase := by
    refine ⟨config, .inr ⟨List.not_mem_nil, ?_⟩⟩
    rw [timeBase]
  chain := by
    rintro first between last sent moreSent told moreTold ⟨config, start⟩ ⟨moreConfig, rest⟩
    refine ⟨moreConfig.trans config, ?_⟩
    have timing : last.timing = between.timing := congrArg Config.timing moreConfig
    obtain fresh | ⟨moreKept, later⟩ := rest
    · exact .inl fresh
    · obtain fresh | ⟨kept, due⟩ := start
      · left
        rw [later, fresh, timing]
      · right
        constructor
        · simp [kept, moreKept]
        · rw [later, due]
  message _ _ := ⟨rfl, .inr ⟨List.not_mem_nil, rfl⟩⟩
  byte _ _ _ _ := ⟨rfl, .inr ⟨List.not_mem_nil, rfl⟩⟩
  leave _ _ := ⟨rfl, .inl rfl⟩
  lose _ _ _ _ := ⟨rfl, .inl rfl⟩
  promote node _ _ _ := ⟨rfl, .inr ⟨by simp [enterOperational, masters_setMode], rfl⟩⟩
  configure node _ := ⟨rfl, .inr ⟨by simp [enterSystemConfiguration, masters_setMode], rfl⟩⟩
  follow _ _ _ _ _ _ := ⟨rfl, .inl rfl⟩
  beat _ _ _ := ⟨rfl, .inl rfl⟩

/-- The node holds a master that is no higher than an address. -/
def Heeds (node : Node) (source : UInt8) : Prop :=
  ∃ master, node.timeBase.master = some master ∧ master ≤ source

theorem Heeds.of_descent {before after : Node} {source : UInt8} {events : List Notification}
    (heeds : before.Heeds source)
    (descent : Descent before.timeBase.master events after.timeBase.master)
    (kept : none ∉ masters events) :
    after.Heeds source ∧ ∀ master, some master ∈ masters events → master ≤ source := by
  obtain ⟨yields, last⟩ := descent
  obtain ⟨holder, held, low⟩ := heeds
  rw [held] at yields last
  unfold Heeds
  rw [← last]
  exact low_of_chain source (masters events) holder low yields kept

/-- A node that heeds another address has a sync to send only if its own is lower. -/
theorem Heeds.lt_of_isDue {node : Node} {source : UInt8} {now : Nat} (heeds : node.Heeds source)
    (foreign : source ≠ node.address)
    (due : (node.timeBase.isDue node.station now).value = true) : node.address < source := by
  obtain ⟨holder, held, low⟩ := heeds
  have lower : node.address ≤ holder :=
    node.timeBase.le_of_isDue node.station now holder held due
  exact UInt8.lt_of_le_of_ne (UInt8.le_trans lower low) foreign.symm

/-- A sync that counts makes its source the master, and another is of a higher address
than the master. -/
theorem heeds_receive (node : Node) (now : Nat) (frame : Frame) (counter : Nat)
    (mode : node.Synchronizes) (sync : frame.IsSync) (counted : frame.syncCounter? = some counter)
    (foreign : frame.id.source ≠ node.address) :
    (node.receive now frame).value.Heeds frame.id.source := by
  rw [value_receive_sync node now frame counter mode sync counted foreign]
  by_cases accepted : node.timeBase.accepts frame.id.source = true
  · obtain ⟨deadline, followed⟩ :=
      value_followSync_of_counts node now frame.id.source counter accepted
    rw [followed]
    exact ⟨_, rfl, UInt8.le_refl _⟩
  · rw [value_followSync_of_ignores node now _ _ accepted]
    cases held : node.timeBase.master with
    | none => simp [TimeBase.accepts, held] at accepted
    | some holder =>
      have lower : holder < frame.id.source := by simpa [TimeBase.accepts, held] using accepted
      exact ⟨holder, held, UInt8.le_of_lt lower⟩

/-- The election may open before the timers of a tick, but no sync is due then. So a node that has
one to send heeds whom it heeded. -/
theorem Heeds.of_reception {node : Node} {source : UInt8} {now : Nat} {received : Option Frame}
    (heeds : node.Heeds source) :
    let ready := (node.wake now >>= fun woken => woken.receive? now received).value
    (ready.timeBase.isDue ready.station now).value = true →
      ready.address = node.address ∧ ready.Heeds source := by
  intro ready due
  obtain ⟨config, fresh | ⟨kept, _⟩⟩ := (renews_stages now).reception node received
  · rw [not_due_of_fresh ready now fresh] at due
    cases due
  · have descent := (yielding_stages now).reception node received
    exact ⟨congrArg Config.address config, (heeds.of_descent descent kept).1⟩

/-- A node that heeds another address beats only below it, whatever comes next. -/
theorem Heeds.lt_of_react {node : Node} {source : UInt8} (heeds : node.Heeds source)
    (foreign : source ≠ node.address) (input : Input) (frame : Frame)
    (sent : frame ∈ (node.react input).transmit) (sync : frame.IsSync) :
    node.address < source := by
  cases input with
  | requestEnter now => cases sent
  | requestExit now =>
    unfold react requestExit at sent
    dsimp only at sent
    split at sent <;> cases sent
  | tick now received =>
    rw [react, transmit_tick] at sent
    have due := isDue_of_runTimers _ now frame sent sync
    obtain ⟨address, still⟩ := heeds.of_reception due
    rw [← address] at foreign ⊢
    exact still.lt_of_isDue foreign due

/-- The same over a run in which no election opened. -/
theorem Heeds.lt_of_run {node : Node} {source : UInt8} (heeds : node.Heeds source)
    (foreign : source ≠ node.address) (inputs : List Input)
    (kept : none ∉ masters (node.run inputs).events) (frame : Frame)
    (sent : frame ∈ (node.run inputs).transmit) (sync : frame.IsSync) :
    node.address < source := by
  induction inputs generalizing node with
  | nil => cases sent
  | cons input rest ih =>
    rw [run, Reaction.events_bind, masters_append, List.mem_append, not_or] at kept
    rw [run, Reaction.transmit_bind, List.mem_append] at sent
    cases sent with
    | inl atOnce => exact heeds.lt_of_react foreign input frame atOnce sync
    | inr later =>
      have descent := react_obeys yielding_stages node input
      have config := react_obeys configured_stages node input
      have address : (node.react input).value.address = node.address :=
        congrArg Config.address config
      rw [← address] at foreign ⊢
      exact ih (heeds.of_descent descent kept.1).1 foreign kept.2 later

/-- What a node does once it has handled the frame of a tick: the timers of that tick,
and then whatever comes. -/
def resume (node : Node) (now : Nat) (later : List Input) : Reaction Node := do
  let node ← node.runTimers now
  node.run later

theorem yielding_resume (node : Node) (now : Nat) (later : List Input) :
    Obeys Yielding node (node.resume now later) :=
  Obeys.bind (yielding_stages now) ((yielding_stages now).runTimers node)
    (run_obeys yielding_stages _ later)

theorem config_resume (node : Node) (now : Nat) (later : List Input) :
    (node.resume now later).value.config = node.config :=
  Obeys.bind (configured_stages now) ((configured_stages now).runTimers node)
    (run_obeys configured_stages _ later)

theorem Heeds.lt_of_resume {node : Node} {source : UInt8} (heeds : node.Heeds source)
    (foreign : source ≠ node.address) (now : Nat) (later : List Input)
    (kept : none ∉ masters (node.resume now later).events) (frame : Frame)
    (sent : frame ∈ (node.resume now later).transmit) (sync : frame.IsSync) :
    node.address < source := by
  rw [resume, Reaction.events_bind, masters_append, List.mem_append, not_or] at kept
  rw [resume, Reaction.transmit_bind, List.mem_append] at sent
  cases sent with
  | inl atOnce => exact heeds.lt_of_isDue foreign (isDue_of_runTimers node now frame atOnce sync)
  | inr later =>
    have descent := (yielding_stages now).runTimers node
    have config := (configured_stages now).runTimers node
    have address : (node.runTimers now).value.address = node.address :=
      congrArg Config.address config
    have still := (heeds.of_descent descent kept.1).1
    rw [← address] at foreign ⊢
    exact still.lt_of_run foreign _ kept.2 frame later sync

/-- A run goes through a tick with a frame in three parts. -/
theorem run_tick (node : Node) (now : Nat) (frame : Frame) (later : List Input) :
    node.run (.tick now (some frame) :: later) = (do
      let woken ← node.wake now
      let handled ← woken.receive now frame
      handled.resume now later) := by
  simp only [run, react, tick, receive?, resume, bind_assoc]

end Node

/-- Over every run of a node, a known master is followed by none or by a lower address.
Once a sync of another node was handled, the node has a master that is no higher than the
source of it, as long as no election opens; until one does, and in the very tick in which
one does, the node sends syncs only if its own address is lower than the source. What comes
after the sync is the rest of a run that goes on with the tick of the sync. -/
theorem masters_descend (config : Config) (origin : Nat) (inputs : List Node.Input) :
    let life := Node.start config origin >>= fun node => node.run inputs
    (none :: masters life.events).IsChain Yields ∧
      (masters life.events).getLastD none = life.value.timeBase.master ∧
      ∀ (now : Nat) (frame : Frame) (counter : Nat),
        let woken := (life.value.wake now).value
        let handled := (woken.receive now frame).value
        woken.Synchronizes → frame.IsSync → frame.syncCounter? = some counter →
        frame.id.source ≠ config.address →
          handled.Heeds frame.id.source ∧
          (∀ sent ∈ (handled.runTimers now).transmit, sent.IsSync →
            config.address < frame.id.source) ∧
          ∀ later : List Node.Input,
            let rest := handled.resume now later
            let whole := Node.start config origin >>= fun node =>
              node.run (inputs ++ .tick now (some frame) :: later)
            whole.value = rest.value ∧
            (none ∉ masters rest.events →
              rest.value.Heeds frame.id.source ∧
              (∀ master, some master ∈ masters rest.events → master ≤ frame.id.source) ∧
              (∀ sent ∈ rest.transmit, sent.IsSync → config.address < frame.id.source) ∧
              ∀ next : Node.Input, ∀ sent ∈ (rest.value.react next).transmit, sent.IsSync →
                config.address < frame.id.source) := by
  intro life
  have descent : Descent none life.events life.value.timeBase.master :=
    Node.run_obeys Node.yielding_stages (Node.start config origin).value inputs
  refine ⟨descent.yields, descent.last, ?_⟩
  intro now frame counter woken handled mode sync counted foreign
  have configLife : life.value.config = config :=
    Node.config_run (Node.start config origin).value inputs
  have configWoken : woken.config = config :=
    ((Node.configured_stages now).wake life.value).trans configLife
  have on := Node.on_wake life.value now
  have configHandled : handled.config = config :=
    ((Node.configured_stages now).receive woken frame on).trans configWoken
  have addressWoken : woken.address = config.address := congrArg Config.address configWoken
  have addressHandled : handled.address = config.address := congrArg Config.address configHandled
  have heeds : handled.Heeds frame.id.source :=
    Node.heeds_receive woken now frame counter mode sync counted (by rwa [addressWoken])
  rw [← addressHandled] at foreign ⊢
  refine ⟨heeds, ?_, ?_⟩
  · intro sent transmitted syncSent
    exact heeds.lt_of_isDue foreign
      (Node.isDue_of_runTimers handled now sent transmitted syncSent)
  · intro later rest whole
    have reached : whole.value = rest.value := by
      show ((Node.start config origin).value.run _).value = _
      rw [Node.run_append, Reaction.value_bind, Node.run_tick]
      rfl
    refine ⟨reached, ?_⟩
    intro kept
    obtain ⟨still, low⟩ := heeds.of_descent (Node.yielding_resume handled now later) kept
    refine ⟨still, low, ?_, ?_⟩
    · exact heeds.lt_of_resume foreign now later kept
    · intro next sent transmitted syncSent
      have address : rest.value.address = handled.address :=
        congrArg Config.address (Node.config_resume handled now later)
      rw [← address] at foreign ⊢
      exact still.lt_of_react foreign next sent transmitted syncSent

/-- A candidate at 12 that hears a sync of 10 keeps to it, and is kept from sending its
own. -/
theorem heeds_ten :
    let node := (Node.start (Config.candidate 12 (by decide)) 0).value
    let woken := (node.wake 1000).value
    let handled := (woken.receive 1000 (Frame.sync 10 5)).value
    let rest := handled.resume 1000 [.tick 2000 none]
    woken.Synchronizes ∧ rest.value.Heeds 10 ∧ ∀ sent ∈ rest.transmit, ¬ sent.IsSync := by
  intro node woken handled rest
  have mode : woken.Synchronizes := by decide
  have kept : none ∉ masters rest.events := by decide +kernel
  obtain ⟨_, _, heard⟩ := masters_descend (Config.candidate 12 (by decide)) 0 []
  obtain ⟨_, _, held⟩ := heard 1000 (Frame.sync 10 5) 5 mode (Frame.isSync_sync 10 5)
    (Frame.syncCounter?_sync 10 5) (by decide)
  obtain ⟨_, still⟩ := held [.tick 2000 none]
  obtain ⟨heeds, _, low, _⟩ := still kept
  refine ⟨mode, heeds, ?_⟩
  intro sent transmitted sync
  have below : (12 : UInt8) < 10 := low sent transmitted sync
  exact absurd below (by decide)

end VehicleBus
