import VehicleBus.Proofs.Node.Exits
import VehicleBus.Proofs.Node.Mastery

/-!
The watchdog of Operational, told by what feeds it: the entry into the mode and the syncs
that counted since. A tick gives Operational up exactly when the latest of these lies a watch
back, unless its frame leads to System Configuration first. What does not count does not feed
the watchdog, so a sync of a higher address than the master's changes nothing.
-/
namespace VehicleBus.Node

/-- The instants at which the watchdog was fed since Operational was entered last, the oldest
first: by the entry itself, and by the syncs that the node accepted or sent. -/
def watch (node : Node) (steps : List Step) : List Nat :=
  node.memory (fun after => decide (after.mode = .operational))
    (fun before step =>
      if before.Syncs step ∨ before.mode ≠ .operational then [step.now] else []) [] steps

/-- In Operational there is a master, and the deadline lies a watch after the latest of the
instants at which the watchdog was fed. -/
def Watched (node : Node) (fed : List Nat) : Prop :=
  node.mode = .operational → node.timeBase.master.isSome = true ∧
    ∃ latest ∈ fed.getLast?, node.deadline = some (latest + node.timing.watchdog)

namespace Watched

variable {node : Node} {fed : List Nat}

theorem perform (watched : node.Watched fed) (step : Step) (fits : node.Fits step) :
    (node.perform step).value.Watched
      (if decide ((node.perform step).value.mode = .operational) then
        fed ++ if node.Syncs step ∨ node.mode ≠ .operational then [step.now] else []
      else []) := by
  have timing : (node.perform step).value.timing = node.timing :=
    congrArg Config.timing (config_perform node step fits)
  intro watching
  rw [if_pos (decide_eq_true watching), timing]
  cases moves_perform node step fits with
  | rests unsynced _ mode timeBase deadline =>
    have before := mode.symm.trans watching
    rw [if_neg (not_or.mpr ⟨unsynced, not_not_intro before⟩), List.append_nil, timeBase, deadline]
    exact watched before
  | syncs synced _ fed =>
    rw [if_pos (.inl synced)]
    exact ⟨fed.held, step.now, List.getLast?_concat, fed.watched (fed.mode.symm.trans watching)⟩
  | opens _ _ _ mode => exact nomatch mode.symm.trans watching
  | promotes _ _ waiting held mode timeBase deadline =>
    rw [if_pos (.inr (by rw [waiting]; decide)), timeBase]
    exact ⟨held, step.now, List.getLast?_concat, deadline⟩
  | configures _ _ mode => exact nomatch mode.symm.trans watching

theorem follow (watched : node.Watched []) {steps : List Step} (fitting : node.Fitting steps) :
    (node.follow steps).value.Watched (node.watch steps) :=
  memory_induction _ _ (fun _ _ step fits watched => watched.perform step fits) watched fitting

theorem expired_iff (watched : node.Watched fed) (mode : node.mode = .operational) (now : Nat) :
    node.expired now = true ↔ ∃ latest ∈ fed.getLast?, latest + node.timing.watchdog ≤ now := by
  obtain ⟨-, latest, last, due⟩ := watched mode
  rw [Option.mem_def] at last
  simp [expired, due, last]

end Watched

/-- A tick in which Operational was given up: the news is the last that it tells, nothing was
transmitted, and application frames stay in their queue from then on. -/
structure Lapses (ticked : Reaction Node) : Prop where
  mode : ticked.value.mode = .preOperational
  vacant : ticked.value.timeBase.master = none
  holds : ticked.value.drains = false
  mute : ticked.transmit = []
  last : ∃ before, ticked.events =
    before ++ [.modeChanged .preOperational, .masterChanged none]

section Tick

variable {node : Node} {now : Nat} {frame : Option Frame}

/-- A frame that does not complete the enter sequence leaves Operational as it is. -/
theorem mode_ready_of_incomplete (mode : node.mode = .operational)
    (incomplete : ¬ node.Completing ⟨now, .receive frame⟩) :
    (node.ready now frame).mode = .operational := by
  have on : node.mode ≠ .powerOff := Synchronizes.on (.inr mode)
  rw [(node.tick_of_on now frame on).1]
  cases moves_perform node ⟨now, .receive frame⟩ on with
  | rests _ _ same => exact same.trans mode
  | syncs _ _ fed => exact fed.mode.trans mode
  | opens _ _ origin => exact absurd mode (origin.resolve_left (by simp))
  | promotes _ _ waiting => exact nomatch mode.symm.trans waiting
  | configures _ complete => exact absurd complete incomplete

/-- A frame that completes the enter sequence decides the tick: System Configuration has just
begun, and nobody has asked to leave it yet. -/
theorem mode_tick_of_complete (mode : node.mode = .operational) (withdrawn : node.Withdrawn)
    (complete : node.Completing ⟨now, .receive frame⟩) :
    (node.tick now frame).value.mode = .systemConfiguration := by
  have on : node.mode ≠ .powerOff := Synchronizes.on (.inr mode)
  have idle := withdrawn (by rw [mode]; decide)
  have unasked : (node.receive? now frame).value.exitRequest.pending = false :=
    idle_perform ⟨now, .receive frame⟩ on idle (by simp)
  rw [(node.tick_of_on now frame on).2, Reaction.value_bind]
  have moves := moves_perform node ⟨now, .receive frame⟩ on
  rw [perform] at moves
  generalize (node.receive? now frame).value = entered at *
  cases moves with
  | configures _ _ configuring _ deadline =>
    have ahead : now < now + configurationTimeout := Nat.lt_add_of_pos_right (by decide)
    have running := entered.not_expired_of_lt now deadline ahead
    have awake := on_of_configuring configuring
    have still : (entered.runEnterRequest now).value.exitRequest.pending = false :=
      idle_perform ⟨now, .sendEnterByte⟩ awake unasked (by simp)
    have timers : (entered.runTimers now).value = (entered.runEnterRequest now).value := by
      simp [runTimers, configuring, runSystemConfiguration, running, runRequests,
        Guarded.runExitRequest_of_unasked _ now still]
    rw [timers]
    exact mode_runEnterRequest_of_configuring entered now configuring
  | rests _ incomplete => exact absurd complete incomplete
  | syncs _ incomplete => exact absurd complete incomplete
  | opens _ incomplete => exact absurd complete incomplete
  | promotes _ incomplete => exact absurd complete incomplete

/-- The poll of a node whose watch is over sent nothing. -/
theorem unsent_of_expired (node : Node) (now : Nat) (mode : node.mode = .operational)
    (expired : (node.runSync now).value.expired now = true) : (node.runSync now).transmit = [] := by
  cases due : (node.timeBase.isDue node.station now).value with
  | false => exact (runSync_of_not_due node now due).1.unsent
  | true =>
    have positive : 0 < node.timing.watchdog := Nat.mul_pos (Timing.ptu_pos _ _) (by decide)
    have fed :=
      node.fed_syncSeen now (node.timeBase.beat node.station now).value (.inr mode) rfl rfl
    have running := not_expired_of_lt _ now (fed.watched mode) (Nat.lt_add_of_pos_right positive)
    rw [(runSync_of_due node now due).2.2, running] at expired
    cases expired

theorem lapses_of_expired (mode : (node.ready now frame).mode = .operational)
    (held : (node.follow (polling now frame)).value.timeBase.master.isSome = true)
    (expired : (node.follow (polling now frame)).value.expired now = true) :
    Lapses (node.tick now frame) := by
  have unsent := unsent_of_expired (node.ready now frame) now mode expired
  have watching : (node.follow (polling now frame)).value.mode = .operational := by
    rw [value_follow_polling, mode_runSync, mode]
  have told : ((node.follow (polling now frame)).value.enterPreOperational now).events =
      [.modeChanged .preOperational, .masterChanged none] := by
    obtain ⟨master, present⟩ := Option.isSome_iff_exists.mp held
    simp [enterPreOperational, setMode, watching, TimeBase.setMaster, present]
  have tick := node.tick_of_operational now frame mode
  have mute : (node.follow (polling now frame)).transmit = [] := by
    simpa [polling, follow, perform, ready] using unsent
  generalize node.follow (polling now frame) = beaten at *
  have left : node.tick now frame =
      (beaten >>= fun beaten => beaten.enterPreOperational now) := by
    rw [tick]
    exact Reaction.bind_congr_value (by rw [watchSyncs, if_pos expired])
  rw [left]
  refine ⟨rfl, rfl, rfl, ?_, beaten.events, ?_⟩
  · rw [Reaction.transmit_bind, mute]
    rfl
  · rw [Reaction.events_bind, told]

/-- As long as the watch runs Operational is left for System Configuration at most. -/
theorem mode_tick_of_running (mode : (node.ready now frame).mode = .operational)
    (running : ¬ (node.follow (polling now frame)).value.expired now = true) :
    (node.tick now frame).value.mode ≠ .preOperational := by
  have watching : (node.follow (polling now frame)).value.mode = .operational := by
    rw [value_follow_polling, mode_runSync, mode]
  rw [node.tick_of_operational now frame mode, Reaction.value_bind, watchSyncs, if_neg running]
  generalize (node.follow (polling now frame)).value = beaten at *
  cases moves_sendEnterByte beaten now with
  | rests _ _ same => rw [same, watching]; decide
  | syncs _ _ fed => rw [fed.mode, watching]; decide
  | opens _ _ origin => exact absurd watching (origin.resolve_left (by simp))
  | promotes _ _ _ _ promoted => rw [promoted]; decide
  | configures _ _ configured => rw [configured]; decide

/-- A tick that reaches its timers in Operational gives it up exactly if the watch is over. -/
theorem Watched.decides {fed : List Nat} (mode : (node.ready now frame).mode = .operational)
    (watched : (node.follow (polling now frame)).value.Watched fed) :
    fed ≠ [] ∧
      ((node.tick now frame).value.mode = .preOperational ↔
        ∃ latest ∈ fed.getLast?, latest + node.timing.watchdog ≤ now) ∧
      ((node.tick now frame).value.mode = .preOperational → Lapses (node.tick now frame)) := by
  have watching : (node.follow (polling now frame)).value.mode = .operational := by
    rw [value_follow_polling, mode_runSync, mode]
  have timing : (node.follow (polling now frame)).value.timing = node.timing :=
    congrArg Config.timing (node.config_follow _ (node.fitting_polling now frame (.inr mode)))
  obtain ⟨held, latest, last, -⟩ := watched watching
  have lapses (expired) := lapses_of_expired mode held expired
  have fell : (node.tick now frame).value.mode = .preOperational ↔
      (node.follow (polling now frame)).value.expired now = true := by
    refine ⟨fun lapsed => ?_, fun expired => (lapses expired).mode⟩
    exact Classical.byContradiction fun running => mode_tick_of_running mode running lapsed
  refine ⟨List.ne_nil_of_mem (List.mem_of_getLast? last), ?_, fun lapsed => lapses (fell.mp lapsed)⟩
  rw [fell, watched.expired_iff watching now, timing]

/-- A sync that does not count is a frame that did not come, but for its copy. -/
theorem value_tick_of_ignored {ignored : Frame} (mode : node.mode = .operational)
    (sync : ignored.IsSync) (refused : ¬ node.timeBase.accepts ignored.id.source = true) :
    (node.tick now (some ignored)).value = (node.tick now none).value := by
  have on : node.mode ≠ .powerOff := Synchronizes.on (.inr mode)
  have same : (node.receive? now (some ignored)).value = node := by
    rw [receive?, receive]
    split
    · rfl
    · rw [Reaction.value_bind, sync]
      show (node.hearSync now ignored).value = node
      rw [hearSync, if_neg (by rw [mode]; decide)]
      split
      · rfl
      · exact value_followSync_of_ignores node now _ _ refused
  rw [(node.tick_of_on now _ on).2, (node.tick_of_on now _ on).2, Reaction.value_bind,
    Reaction.value_bind, same]
  rfl

end Tick

end VehicleBus.Node

namespace VehicleBus

open Node

/-- Over every run of a node, a tick that begins in Operational gives it up exactly if its frame
does not complete the enter sequence and the watchdog was not fed for a watch, by the tick
itself or before. -/
theorem watchdog_follows_its_feed (config : Config) (origin : Nat) (inputs : List Node.Input)
    (now : Nat) (frame : Option Frame) :
    let start := (Node.start config origin).value
    let node := (start.run inputs).value
    let polled := start.steps inputs ++ polling now frame
    let fed := start.watch polled
    let completed := ∃ byte ∈ node.handled ⟨now, .receive frame⟩,
      Completes (start.marks (start.steps inputs)) byte
    node.mode = .operational →
      (¬ completed → polled <+: start.steps (inputs ++ [.tick now frame]) ∧ fed ≠ []) ∧
      ((node.tick now frame).value.mode = .preOperational ↔
        ¬ completed ∧ ∃ latest ∈ fed.getLast?, latest + node.timing.watchdog ≤ now) ∧
      ((node.tick now frame).value.mode = .preOperational → Lapses (node.tick now frame)) ∧
      ∀ ignored : Frame, ignored.IsSync → ¬ node.timeBase.accepts ignored.id.source = true →
        (node.tick now (some ignored)).value = (node.tick now none).value := by
  intro start node polled fed completed mode
  have fitting : start.Fitting (start.steps inputs) := start.fitting_steps inputs
  have reached : (start.follow (start.steps inputs)).value = node := by rw [follow_steps]
  have tracks : node.Tracks (start.marks (start.steps inputs)).reverse := by
    have begun : start.Tracks [] := Handshake.Listener.follows_start .enter _ rfl
    simpa [reached] using begun.follow fitting.sound
  have withdrawn : node.Withdrawn := by
    have begun : start.Withdrawn := fun _ => rfl
    simpa [reached] using begun.follow fitting
  have completing : node.Completing ⟨now, .receive frame⟩ ↔ completed := tracks.completing_iff _
  by_cases complete : completed
  · have configured := mode_tick_of_complete mode withdrawn (completing.mpr complete)
    have stays : (node.tick now frame).value.mode ≠ .preOperational := by
      rw [configured]
      decide
    exact ⟨fun incomplete => absurd complete incomplete,
      iff_of_false stays fun lapsed => lapsed.1 complete, fun lapsed => absurd lapsed stays,
      fun ignored sync refused => value_tick_of_ignored mode sync refused⟩
  · have watching := mode_ready_of_incomplete mode (mt completing.mp complete)
    have beaten : (start.follow polled).value = (node.follow (polling now frame)).value :=
      start.value_follow_steps_append inputs _
    have watched : (node.follow (polling now frame)).value.Watched fed := by
      have begun : start.Watched [] := nofun
      have both : start.Fitting polled := by
        rw [fitting_append, reached]
        exact ⟨fitting, node.fitting_polling now frame (.inr watching)⟩
      rw [← beaten]
      exact begun.follow both
    obtain ⟨once, fell, lapses⟩ := watched.decides watching
    have first : polled <+: start.steps (inputs ++ [.tick now frame]) := by
      rw [start.steps_concat inputs, node.inputSteps_of_operational now frame watching]
      exact ⟨_, List.append_assoc _ _ _⟩
    refine ⟨fun _ => ⟨first, once⟩, ?_, lapses,
      fun ignored sync refused => value_tick_of_ignored mode sync refused⟩
    rw [fell, and_iff_right complete]

/-- A node that follows 10 gives Operational up a watch after its last sync, to the instant. The
sync of 11 in between does not count. -/
theorem twelve_gives_ten_up :
    let start := (Node.start (Config.candidate 12 (by decide)) 0).value
    let inputs : List Node.Input :=
      [.tick 1000 (some (Frame.sync 10 5)), .tick 8000 (some (Frame.sync 10 6)), .tick 9385 none,
        .tick 20000 (some (Frame.sync 10 7)), .tick 60000 (some (Frame.sync 11 8))]
    let node := (start.run inputs).value
    node.mode = .operational ∧ (node.tick 82503 none).value.mode ≠ .preOperational ∧
      Lapses (node.tick 82504 none) := by
  have run :
      let start := (Node.start (Config.candidate 12 (by decide)) 0).value
      let inputs : List Node.Input :=
        [.tick 1000 (some (Frame.sync 10 5)), .tick 8000 (some (Frame.sync 10 6)), .tick 9385 none,
          .tick 20000 (some (Frame.sync 10 7)), .tick 60000 (some (Frame.sync 11 8))]
      let node := (start.run inputs).value
      node.mode = .operational ∧ node.timing.watchdog = 62504 ∧
        node.handled ⟨82504, .receive none⟩ = [] ∧
        start.watch (start.steps inputs ++ polling 82503 none) = [9385, 20000] ∧
        start.watch (start.steps inputs ++ polling 82504 none) = [9385, 20000] := by
    decide +kernel
  obtain ⟨mode, watch, unheard, before, past⟩ := run
  obtain ⟨-, early, -⟩ :=
    watchdog_follows_its_feed (Config.candidate 12 (by decide)) 0 _ 82503 none mode
  obtain ⟨-, late, lapses, -⟩ :=
    watchdog_follows_its_feed (Config.candidate 12 (by decide)) 0 _ 82504 none mode
  rw [before, watch] at early
  rw [past, watch, unheard] at late
  refine ⟨mode, fun lapsed => ?_, lapses (late.mpr ⟨?_, 20000, rfl, by decide⟩)⟩
  · obtain ⟨-, latest, last, elapsed⟩ := early.mp lapsed
    cases last
    exact absurd elapsed (by decide)
  · rintro ⟨_, none, -⟩
    cases none

end VehicleBus
