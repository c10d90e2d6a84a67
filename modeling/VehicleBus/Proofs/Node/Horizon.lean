import VehicleBus.Proofs.Node.Mastery

/-!
How far a node looks ahead. Every instant that it computes lies a span after the present or
after an instant that it keeps from before: the latest sync, or the latest byte of a handshake.
What it keeps in this way is never later than the latest instant it was given, and no span is
longer than the stay in System Configuration. So a node whose instants leave that much room
before the end of the clock computes no instant outside it, whatever it hears and in whatever
order the instants come.
-/
namespace VehicleBus

namespace Config

variable (config : Config)

theorem ptu_le_configurationTimeout : config.timing.ptu ≤ Node.configurationTimeout :=
  Nat.le_trans config.ptu_le (by decide)

theorem slaveTimeout_le_configurationTimeout :
    config.timing.slaveTimeout ≤ Node.configurationTimeout := by
  have ptu := config.ptu_le
  have silence := config.slaveTimeout_le
  have room : 3 * 333334 ≤ Node.configurationTimeout := by decide
  omega

/-- Eight periods of a third of a second at most. -/
theorem watchdog_le_configurationTimeout :
    config.timing.watchdog ≤ Node.configurationTimeout := by
  have ptu := config.ptu_le
  have room : 333334 * Timing.watchdogPtus ≤ Node.configurationTimeout := by decide
  exact Nat.le_trans (Nat.mul_le_mul_right _ ptu) room

theorem preemptLead_le_configurationTimeout :
    config.timing.preemptLead ≤ Node.configurationTimeout :=
  Nat.le_trans (Nat.div_le_self _ _) config.ptu_le_configurationTimeout

end Config

/-- A reaction computes no instant beyond the longest span after the latest of the instants
known so far. -/
def Reaction.Foresees {α : Type} (reaction : Reaction α) (latest : Nat) : Prop :=
  reaction.horizon ≤ latest + Node.configurationTimeout

namespace Reaction.Foresees

variable {α β : Type} {latest : Nat}

theorem pure (value : α) : (Pure.pure value : Reaction α).Foresees latest := Nat.zero_le _

theorem after {start span : Nat} (known : start ≤ latest)
    (short : span ≤ Node.configurationTimeout) : (Reaction.after start span).Foresees latest :=
  Nat.add_le_add known short

theorem bind {first : Reaction α} {second : α → Reaction β} (start : first.Foresees latest)
    (rest : (second first.value).Foresees latest) : (first >>= second).Foresees latest :=
  Nat.max_le.mpr ⟨start, rest⟩

/-- What nothing is added to an instant for does not look ahead at all. -/
theorem of_zero {reaction : Reaction α} (none : reaction.horizon = 0) :
    reaction.Foresees latest := by
  simp [Foresees, none]

end Reaction.Foresees

namespace TimeBase

variable (base : TimeBase) (config : Config) {now latest : Nat} (known : now ≤ latest)

section Present

include known

theorem beginPeriod_foresees : (base.beginPeriod config.station now).Foresees latest :=
  .bind (.after known config.ptu_le_configurationTimeout) (.pure _)

theorem reopen_foresees : (base.reopen config.station now).Foresees latest :=
  .bind (.of_zero rfl) (beginPeriod_foresees _ config known)

theorem follow_foresees (source : UInt8) (counter : Nat) :
    (base.follow config.station now source counter).Foresees latest :=
  .bind (.of_zero rfl) (.bind (.of_zero rfl) (beginPeriod_foresees _ config known))

theorem beat_foresees : (base.beat config.station now).Foresees latest :=
  .bind (.of_zero rfl) (.bind (.of_zero rfl) (beginPeriod_foresees _ config known))

theorem poll_foresees : (base.poll config.station now).Foresees latest := by
  refine .bind ?_ ?_
  · unfold isDue
    split
    · exact .pure _
    · split
      · exact .bind (.after known config.preemptLead_le_configurationTimeout) (.pure _)
      · exact .pure _
  · unfold beatIf
    split
    · exact .bind (beat_foresees base config known) (.pure _)
    · exact .pure _

end Present

/-- The latest sync is an instant that a node may look back to long after it. -/
theorem lost_foresees (now : Nat) (synced : base.lastSync ≤ latest) :
    (base.lost config.station now).Foresees latest := by
  unfold lost
  split
  · exact .pure _
  · exact .bind (.after synced config.slaveTimeout_le_configurationTimeout) (.pure _)

end TimeBase

namespace Handshake

theorem Listener.hear_foresees (listener : Listener) (sequence : Sequence) {latest : Nat}
    (now : Nat) (source byte : UInt8) (dated : listener.lastByte ≤ latest) :
    (listener.hear sequence now source byte).Foresees latest := by
  refine .bind ?_ (.pure _)
  unfold stalled
  split
  · exact .pure _
  · split
    · exact .bind (.after dated (by decide)) (.pure _)
    · exact .pure _

/-- A listener dates its latest byte by the present, or as before. -/
theorem Listener.lastByte_judge_le (listener : Listener) (sequence : Sequence) (gaveUp : Bool)
    {now latest : Nat} (source byte : UInt8) (known : now ≤ latest)
    (dated : listener.lastByte ≤ latest) :
    (listener.judge sequence gaveUp now source byte).2.lastByte ≤ latest := by
  unfold judge
  split
  · unfold advance
    split <;> exact known
  · split
    · unfold startOver
      split
      · exact known
      · exact dated
    · exact dated

theorem Listener.lastByte_hear_le (listener : Listener) (sequence : Sequence) {now latest : Nat}
    (source byte : UInt8) (known : now ≤ latest) (dated : listener.lastByte ≤ latest) :
    (listener.hear sequence now source byte).value.2.lastByte ≤ latest := by
  rw [hear, Reaction.value_bind, Reaction.value_pure]
  split
  · exact listener.reset.lastByte_judge_le sequence _ source byte known dated
  · exact listener.lastByte_judge_le sequence _ source byte known dated

variable {now latest : Nat} (known : now ≤ latest)
include known

theorem Requester.request_foresees (requester : Requester) :
    (requester.request now).Foresees latest :=
  .bind (.after known (by decide)) (.pure _)

theorem Requester.poll_foresees (requester : Requester) (sequence : Sequence) (config : Config) :
    (requester.poll sequence now config.timing.ptu).Foresees latest := by
  unfold poll
  split
  · refine .bind ?_ ?_
    · unfold startOver
      split
      · exact .bind (.after known (by decide)) (.pure _)
      · exact .pure _
    · unfold emitDue
      split
      · exact .pure _
      · split
        · exact .bind (.after known config.ptu_le_configurationTimeout) (.pure _)
        · exact .pure _
  · exact .pure _

end Handshake

namespace Node

/-- The instants that a node keeps to look back to: none is later than the latest it was
given. -/
structure Dated (node : Node) (latest : Nat) : Prop where
  synced : node.timeBase.lastSync ≤ latest
  entering : node.enterListener.lastByte ≤ latest
  exiting : node.exitListener.lastByte ≤ latest

/-- A reaction looks no further ahead than the longest span, and what the node keeps after it
is dated again. -/
structure Timely (latest : Nat) (reaction : Reaction Node) : Prop where
  foresees : reaction.Foresees latest
  dated : reaction.value.Dated latest

namespace Timely

variable {latest now : Nat} {node : Node}

theorem pure (dated : node.Dated latest) : Timely latest (pure node) := ⟨.pure node, dated⟩

/-- A part that yields something else than the node itself may come first. -/
theorem after {α : Type} {first : Reaction α} {second : α → Reaction Node}
    (foresees : first.Foresees latest) (rest : Timely latest (second first.value)) :
    Timely latest (first >>= second) :=
  ⟨.bind foresees rest.foresees, rest.dated⟩

theorem bind {first : Reaction Node} {second : Node → Reaction Node} (start : Timely latest first)
    (rest : first.value.Dated latest → Timely latest (second first.value)) :
    Timely latest (first >>= second) :=
  after start.foresees (rest start.dated)

section Present

variable (known : now ≤ latest) (dated : node.Dated latest)
include known dated

theorem setDeadline {span : Nat} (short : span ≤ configurationTimeout) :
    Timely latest (node.setDeadline now span) :=
  ⟨.bind (.after known short) (.pure _), ⟨dated.synced, dated.entering, dated.exiting⟩⟩

theorem reopenElection : Timely latest (node.reopenElection now) :=
  after (node.timeBase.reopen_foresees node.config known)
    (pure ⟨known, dated.entering, dated.exiting⟩)

theorem enterPreOperational : Timely latest (node.enterPreOperational now) := by
  refine after (.of_zero rfl) (bind (reopenElection known ?_) fun opened => pure ?_)
  · exact ⟨dated.synced, dated.entering, dated.exiting⟩
  · exact ⟨opened.synced, opened.entering, opened.exiting⟩

theorem enterOperational : Timely latest (node.enterOperational now) :=
  have switched : Node.Dated { node with mode := .operational } latest :=
    ⟨dated.synced, dated.entering, dated.exiting⟩
  after (.of_zero rfl)
    (setDeadline known switched node.config.watchdog_le_configurationTimeout)

theorem enterSystemConfiguration : Timely latest (node.enterSystemConfiguration now) := by
  refine after (.of_zero rfl) (bind (setDeadline known ?_ (Nat.le_refl _)) fun set => pure ?_)
  · exact ⟨dated.synced, dated.entering, dated.exiting⟩
  · exact ⟨set.synced, set.entering, set.exiting⟩

theorem syncSeen : Timely latest (node.syncSeen now) := by
  unfold Node.syncSeen
  split
  · exact setDeadline known dated node.config.slaveTimeout_le_configurationTimeout
  · exact setDeadline known dated node.config.watchdog_le_configurationTimeout
  · exact pure dated

theorem wake : Timely latest (node.wake now) := by
  unfold Node.wake
  split
  · exact enterPreOperational known dated
  · exact pure dated

theorem followSync (source : UInt8) (counter : Nat) :
    Timely latest (node.followSync now source counter) := by
  unfold Node.followSync
  split
  · rename_i accepted
    rw [TimeBase.hear, if_pos accepted]
    exact after (node.timeBase.follow_foresees node.config known source counter)
      (syncSeen known ⟨known, dated.entering, dated.exiting⟩)
  · exact pure dated

theorem hearSync (frame : Frame) : Timely latest (node.hearSync now frame) := by
  unfold Node.hearSync
  split
  · exact pure dated
  · split
    · exact pure dated
    · exact followSync known dated _ _

theorem enterCompleted (source : UInt8) : Timely latest (node.enterCompleted now source) := by
  unfold Node.enterCompleted
  generalize settled : (if source = node.address then
    { node with enterRequest := node.enterRequest.cancel } else node) = after
  have kept : after.Dated latest := by
    rw [← settled]
    split
    · exact ⟨dated.synced, dated.entering, dated.exiting⟩
    · exact dated
  dsimp only
  split
  · exact setDeadline known kept (Nat.le_refl _)
  · exact enterSystemConfiguration known kept

theorem hearEnterByte (source byte : UInt8) :
    Timely latest (node.hearEnterByte now source byte) := by
  have heard : Node.Dated { node with
      enterListener := (node.enterListener.hear .enter now source byte).value.2 } latest :=
    ⟨dated.synced,
      node.enterListener.lastByte_hear_le .enter source byte known dated.entering,
      dated.exiting⟩
  refine after (node.enterListener.hear_foresees .enter now source byte dated.entering) ?_
  unfold afterEnterByte
  split
  · exact enterCompleted known heard source
  · exact pure heard

theorem hearExitByte (source byte : UInt8) :
    Timely latest (node.hearExitByte now source byte) := by
  have heard : Node.Dated { node with
      exitListener := (node.exitListener.hear .exit now source byte).value.2 } latest :=
    ⟨dated.synced, dated.entering,
      node.exitListener.lastByte_hear_le .exit source byte known dated.exiting⟩
  unfold Node.hearExitByte
  split
  · refine after (node.exitListener.hear_foresees .exit now source byte dated.exiting) ?_
    unfold afterExitByte
    split
    · exact enterPreOperational known heard
    · exact pure heard
  · exact pure dated

theorem receive (frame : Frame) : Timely latest (node.receive now frame) := by
  unfold Node.receive
  split
  · exact pure dated
  · refine after (.of_zero rfl) ?_
    split
    · exact pure dated
    · unfold obey
      split
      · exact hearSync known dated frame
      · exact hearEnterByte known dated _ _
      · exact hearExitByte known dated _ _
      · exact pure dated
      · exact pure dated

theorem receive? (frame : Option Frame) : Timely latest (node.receive? now frame) := by
  cases frame with
  | none => exact pure dated
  | some frame => exact receive known dated frame

theorem runSync : Timely latest (node.runSync now) := by
  refine after (node.timeBase.poll_foresees node.config known) ?_
  have polled : Node.Dated { node with
      timeBase := (node.timeBase.poll node.station now).value.2 } latest := by
    refine ⟨?_, dated.entering, dated.exiting⟩
    simp only [TimeBase.poll, TimeBase.beatIf, Reaction.value_bind]
    split
    · simpa using known
    · exact dated.synced
  unfold sendSync
  split
  · exact pure polled
  · exact after (.of_zero rfl) (syncSeen known polled)

theorem judgeMaster : Timely latest (node.judgeMaster now) := by
  unfold Node.judgeMaster
  split
  · refine after (node.timeBase.lost_foresees node.config now dated.synced) ?_
    unfold promoteUnless
    split
    · exact reopenElection known dated
    · split
      · exact enterOperational known dated
      · exact pure dated
  · exact pure dated

theorem runEnterRequest : Timely latest (node.runEnterRequest now) := by
  refine after (node.enterRequest.poll_foresees known .enter node.config) ?_
  have polled : Node.Dated { node with
      enterRequest := (node.enterRequest.poll .enter now node.timing.ptu).value.2 } latest :=
    ⟨dated.synced, dated.entering, dated.exiting⟩
  unfold sendEnterByte
  split
  · exact pure polled
  · exact after (.of_zero rfl) (hearEnterByte known polled _ _)

theorem concludeExit : Timely latest (node.concludeExit now) := by
  have withdrawn : Node.Dated { node with exitRequest := node.exitRequest.cancel } latest :=
    ⟨dated.synced, dated.entering, dated.exiting⟩
  unfold Node.concludeExit
  split
  · dsimp only
    split
    · exact enterPreOperational known withdrawn
    · exact pure withdrawn
  · exact pure dated

theorem runExitRequest : Timely latest (node.runExitRequest now) := by
  refine after (node.exitRequest.poll_foresees known .exit node.config) ?_
  have polled : Node.Dated { node with
      exitRequest := (node.exitRequest.poll .exit now node.timing.ptu).value.2 } latest :=
    ⟨dated.synced, dated.entering, dated.exiting⟩
  unfold sendExitByte
  split
  · exact pure polled
  · exact after (.of_zero rfl)
      (bind (hearExitByte known polled _ _) fun heard => concludeExit known heard)

theorem runTimers : Timely latest (node.runTimers now) := by
  unfold Node.runTimers
  split
  · exact pure dated
  · refine bind (runSync known dated) fun beaten => ?_
    exact bind (judgeMaster known beaten) fun judged => runEnterRequest known judged
  · refine bind (runSync known dated) fun beaten => ?_
    unfold watchSyncs
    split
    · exact enterPreOperational known beaten
    · exact runEnterRequest known beaten
  · unfold runSystemConfiguration
    split
    · exact enterPreOperational known dated
    · exact bind (runEnterRequest known dated) fun sent => runExitRequest known sent

theorem requestExit : Timely latest (node.requestExit now) := by
  unfold Node.requestExit
  split
  · exact after (node.exitRequest.request_foresees known)
      (pure ⟨dated.synced, dated.entering, dated.exiting⟩)
  · exact pure dated

end Present

/-- Every input at a known instant is answered in time. -/
theorem react (input : Input) (known : input.instant ≤ latest) (dated : node.Dated latest) :
    Timely latest (node.react input) := by
  cases input with
  | tick now frame =>
    exact bind (wake known dated) fun woken =>
      bind (receive? known woken frame) fun received => runTimers known received
  | requestEnter now =>
    exact after (node.enterRequest.request_foresees known)
      (pure ⟨dated.synced, dated.entering, dated.exiting⟩)
  | requestExit now => exact requestExit known dated

/-- So is every run. -/
theorem run (inputs : List Input) (known : ∀ input ∈ inputs, input.instant ≤ latest)
    (dated : node.Dated latest) : Timely latest (node.run inputs) := by
  induction inputs generalizing node with
  | nil => exact pure dated
  | cons input rest ih =>
    exact bind (react input (known input List.mem_cons_self) dated) fun reacted =>
      ih (fun later member => known later (List.mem_cons_of_mem _ member)) reacted

theorem start (config : Config) (known : now ≤ latest) : Timely latest (Node.start config now) :=
  after (.bind (.after known config.ptu_le_configurationTimeout) (.pure _))
    (pure ⟨known, Nat.zero_le _, Nat.zero_le _⟩)

end Timely

end Node

open Node

/-- A node whose instants all leave room for the longest span before the end of the clock
overflows it neither when it starts nor in any reaction of any run. -/
theorem clock_suffices (config : Config) (origin : Nat) (inputs : List Node.Input)
    (room : ∀ instant ∈ origin :: inputs.map Node.Input.instant,
      instant + configurationTimeout < Clock.limit) :
    (Node.start config origin >>= fun node => node.run inputs).InRange := by
  -- The last instant that leaves the room stands for the latest one that is given.
  have fits : Clock.limit - 1 - configurationTimeout + configurationTimeout < Clock.limit := by
    decide
  have known (instant : Nat) (member : instant ∈ origin :: inputs.map Node.Input.instant) :
      instant ≤ Clock.limit - 1 - configurationTimeout := by
    have short := room instant member
    omega
  have started := Timely.start config (known origin List.mem_cons_self)
  have ran := Timely.run inputs
    (fun input member => known _ (List.mem_cons_of_mem _ (List.mem_map_of_mem member)))
    started.dated
  have all : (Node.start config origin >>= fun node => node.run inputs).Foresees
      (Clock.limit - 1 - configurationTimeout) := .bind started.foresees ran.foresees
  exact Nat.lt_of_le_of_lt all fits

/-- The room is used up: a node that starts as late as that and is led into System Configuration
at once stays there until the last instant of the clock. -/
theorem ten_looks_at_the_last_instant :
    let last := Clock.limit - 1 - configurationTimeout
    let letters : List Node.Input :=
      [67, 70, 71].map fun byte => .tick last (some (Frame.enterConfig 7 byte))
    let ran := Node.start (Config.candidate 10 (by decide)) last >>= fun node => node.run letters
    (∀ instant ∈ last :: letters.map Node.Input.instant,
        instant + configurationTimeout < Clock.limit) ∧
      ran.InRange ∧ ran.value.deadline = some (Clock.limit - 1) := by
  have room :
      let last := Clock.limit - 1 - configurationTimeout
      let letters : List Node.Input :=
        [67, 70, 71].map fun byte => .tick last (some (Frame.enterConfig 7 byte))
      ∀ instant ∈ last :: letters.map Node.Input.instant,
        instant + configurationTimeout < Clock.limit := by
    decide
  exact ⟨room, clock_suffices (Config.candidate 10 (by decide)) _ _ room, by decide +kernel⟩

/-- One microsecond later the same deadline lies outside the clock. -/
example :
    let late := Clock.limit - configurationTimeout
    let letters : List Node.Input :=
      [67, 70, 71].map fun byte => .tick late (some (Frame.enterConfig 7 byte))
    ¬ (Node.start (Config.candidate 10 (by decide)) late >>= fun node =>
      node.run letters).InRange := by
  decide +kernel

end VehicleBus
