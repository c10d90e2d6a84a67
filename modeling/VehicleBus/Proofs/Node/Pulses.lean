import VehicleBus.Proofs.Node.Discipline

/-!
The sync counter of a node, told by its pulses: the syncs that it accepts, which bring a counter
with them, and the syncs that it sends, which advance the counter by one. The latest counter that
came in and the number of own syncs since give the counter at every moment, in ten bits. Nothing
else has a part in it: no mode, no election, no sync that does not count.

A sync that goes out carries the counter that it leaves behind, and reads back as that.
-/
namespace VehicleBus

/-- What moves the sync counter. -/
inductive Pulse where
  /-- A sync of another node, with the counter that it carries. -/
  | accepted (counter : Nat)
  /-- A sync of the node's own. -/
  | own
  deriving DecidableEq, Repr

/-- The counter that came from another node with a pulse. -/
def Pulse.counter? : Pulse → Option Nat
  | accepted counter => some counter
  | own => none

/-- The counter of the latest accepted sync among pulses, the oldest of which stands first; zero
if there is none. -/
def latestAccepted (pulses : List Pulse) : Nat := (pulses.filterMap Pulse.counter?).getLastD 0

/-- The number of own syncs since then. -/
def ownSince (pulses : List Pulse) : Nat := (pulses.reverse.takeWhile (· = .own)).length

section Reading

variable (pulses : List Pulse)

theorem latestAccepted_concat_accepted (counter : Nat) :
    latestAccepted (pulses ++ [.accepted counter]) = counter := by
  simp [latestAccepted, Pulse.counter?]

theorem latestAccepted_concat_own : latestAccepted (pulses ++ [.own]) = latestAccepted pulses := by
  simp [latestAccepted, Pulse.counter?]

theorem ownSince_concat_accepted (counter : Nat) :
    ownSince (pulses ++ [.accepted counter]) = 0 := by
  simp [ownSince]

theorem ownSince_concat_own : ownSince (pulses ++ [.own]) = ownSince pulses + 1 := by
  simp [ownSince]

end Reading

namespace Node

/-- The pulses of a step: of the sync that it accepts, and of the sync that it sends. -/
def stepPulses (node : Node) (step : Step) : List Pulse :=
  ((node.taken step).filter (node.Accepts ·)).filterMap (·.syncCounter?.map .accepted) ++
    ((node.perform step).transmit.filter (·.IsSync)).map fun _ => .own

/-- The pulses of a list of steps, the oldest first. -/
def pulses (node : Node) (steps : List Step) : List Pulse :=
  node.memory (fun _ => true) stepPulses [] steps

section Steps

variable {node : Node} {step : Step}

/-- Only the duty to send syncs sends one. -/
theorem beat_of_sync {frame : Frame} (sent : frame ∈ (node.perform step).transmit)
    (sync : frame.IsSync) : step.duty = .beat := by
  obtain ⟨now, duty⟩ := step
  cases duty with
  | beat => rfl
  | sendEnterByte => exact absurd sync (not_isSync_of_runEnterRequest node now frame sent)
  | sendExitByte => exact absurd sync (not_isSync_of_runExitRequest node now frame sent)
  | wake => simp [perform] at sent
  | receive received => simp [perform] at sent
  | judge => simp [perform] at sent
  | abandon => cases sent
  | requestEnter => cases sent
  | requestExit =>
    unfold perform requestExit at sent
    dsimp only at sent
    split at sent <;> cases sent

/-- A step of another duty has no pulse but that of the sync it accepts. -/
theorem stepPulses_of_other (node : Node) (other : step.duty ≠ .beat) :
    node.stepPulses step =
      ((node.taken step).filter (node.Accepts ·)).filterMap (·.syncCounter?.map .accepted) := by
  have silent : (node.perform step).transmit.filter (·.IsSync) = [] :=
    List.filter_eq_nil_iff.mpr fun frame sent sync =>
      other (beat_of_sync sent (of_decide_eq_true sync))
  rw [stepPulses, silent, List.map_nil, List.append_nil]

/-- The counter is what the pulses say. -/
def Counts (node : Node) (pulses : List Pulse) : Prop :=
  node.timeBase.counter = (latestAccepted pulses + ownSince pulses) % syncCounterModulo

namespace Counts

variable {pulses : List Pulse}

/-- A sync that is due is a pulse of the node's own, and advances the counter. -/
theorem beat (counts : node.Counts pulses) (now : Nat) :
    (node.runSync now).value.Counts (pulses ++ node.stepPulses ⟨now, .beat⟩) := by
  cases due : (node.timeBase.isDue node.station now).value with
  | false =>
    obtain ⟨quiet, same⟩ := runSync_of_not_due node now due
    have none : node.stepPulses ⟨now, .beat⟩ = [] := by
      simp [stepPulses, taken, perform, quiet.unsent]
    rw [none, List.append_nil, same]
    exact counts
  | true =>
    obtain ⟨deadline, beaten⟩ := value_runSync_of_due node now due
    have one : node.stepPulses ⟨now, .beat⟩ = [.own] := by
      simp [stepPulses, taken, perform, (runSync_of_due node now due).1, Frame.isSync_sync]
    rw [one, beaten]
    unfold Counts at counts ⊢
    rw [latestAccepted_concat_own, ownSince_concat_own]
    show (node.timeBase.counter + 1) % syncCounterModulo = _
    rw [counts, Nat.mod_add_mod, Nat.add_assoc]

/-- Every other step leaves the counter alone or takes that of the sync it accepts over. -/
theorem perform (counts : node.Counts pulses) (fits : node.Fits step) :
    (node.perform step).value.Counts (pulses ++ node.stepPulses step) := by
  by_cases beats : step.duty = .beat
  · obtain ⟨now, duty⟩ := step
    cases beats
    exact counts.beat now
  · have told := node.stepPulses_of_other beats
    cases derives_perform node step fits with
    | coasts unheard coasting =>
      have none : (node.taken step).filter (node.Accepts ·) = [] :=
        List.filter_eq_nil_iff.mpr fun frame taken accepted =>
          unheard frame taken (of_decide_eq_true accepted)
      rw [told, none, List.filterMap_nil, List.append_nil]
      exact coasting.2.trans counts
    | follows frame taken accepted _ counter =>
      have one : node.stepPulses step =
          [.accepted (node.perform step).value.timeBase.counter] := by
        rw [told, taken]
        simp [accepted, counter]
      have fits : (node.perform step).value.timeBase.counter < syncCounterModulo :=
        frame.syncCounter?_lt _ counter
      unfold Counts
      rw [one, latestAccepted_concat_accepted, ownSince_concat_accepted, Nat.add_zero,
        Nat.mod_eq_of_lt fits]
    | claims _ _ sent => exact absurd (beat_of_sync sent (Frame.isSync_sync _ _)) beats

theorem follow (counts : node.Counts []) {steps : List Step} (fitting : node.Fitting steps) :
    (node.follow steps).value.Counts (node.pulses steps) :=
  memory_induction _ _ (fun _ _ _ fits counts => counts.perform fits) counts fitting

end Counts

/-- What goes out as a sync is one of the node's own, and carries the counter after it. -/
theorem carries_counter {frame : Frame} (sent : frame ∈ (node.perform step).transmit)
    (sync : step.duty = .beat ∨ frame.IsSync) :
    frame.id.control? = some .sync ∧ frame.id.source = node.address ∧
      frame.syncCounter? = some (node.perform step).value.timeBase.counter := by
  have beats : step.duty = .beat := sync.elim id (beat_of_sync sent)
  obtain ⟨now, duty⟩ := step
  cases beats
  change frame ∈ (node.runSync now).transmit at sent
  cases due : (node.timeBase.isDue node.station now).value with
  | false =>
    rw [(runSync_of_not_due node now due).1.unsent] at sent
    cases sent
  | true =>
    obtain ⟨deadline, beaten⟩ := value_runSync_of_due node now due
    rw [(runSync_of_due node now due).1, List.mem_singleton] at sent
    have after : (node.perform ⟨now, .beat⟩).value.timeBase.counter =
        (node.timeBase.counter + 1) % syncCounterModulo := by
      rw [perform, beaten]
      rfl
    rw [sent, after]
    refine ⟨Frame.isSync_sync node.address _, Identifier.source_ofControl .sync node.address, ?_⟩
    rw [Frame.syncCounter?_sync, TimeBase.value_beat, Nat.mod_mod]

end Steps

section Ticks

variable (node : Node) (now : Nat) (frame : Option Frame)

/-- Once its sync is out, a tick leaves the counter alone. -/
theorem counter_runTimers (mode : node.Synchronizes) :
    (node.runTimers now).value.timeBase.counter = (node.runSync now).value.timeBase.counter := by
  unfold runTimers
  obtain mode | mode := mode
  · simp only [mode, runPreOperational, Reaction.value_bind]
    rw [timeBase_runEnterRequest, (coasts_judgeMaster _ now).2]
  · simp only [mode, runOperational, Reaction.value_bind, watchSyncs]
    split
    · exact (coasts_enterPreOperational _ now).2
    · rw [timeBase_runEnterRequest]

/-- A sync in what a tick transmits carries the counter that the tick ends with. -/
theorem carries_counter_of_tick {sent : Frame} (transmitted : sent ∈ (node.tick now frame).transmit)
    (sync : sent.IsSync) :
    sent.syncCounter? = some (node.tick now frame).value.timeBase.counter := by
  have timed : sent ∈ ((node.ready now frame).runTimers now).transmit :=
    transmit_tick node now frame ▸ transmitted
  have mode := synchronizes_of_sync timed sync
  obtain ⟨asking, silent | alone | both⟩ :=
    transmit_runTimers_of_outside (node.ready now frame) now mode.not_configuring
  · rw [silent] at timed
    cases timed
  all_goals
    have beaten : sent ∈ ((node.ready now frame).perform ⟨now, .beat⟩).transmit := by
      first
      | exact alone ▸ timed
      | exact (List.mem_append.mp (both ▸ timed)).resolve_right fun asked =>
          not_isSync_of_runEnterRequest asking now sent asked sync
    exact (carries_counter beaten (.inr sync)).2.2.trans
      (congrArg some (counter_runTimers _ now mode).symm)

end Ticks

end Node

/-- Over every run of a node, the counter before and after each step is the one of the latest
accepted sync, advanced by one for each sync that the node sent since, in ten bits. Every frame
that the duty to send syncs transmits, and every sync frame whatever transmits it, reads back as a
sync of the node with the counter right after the step; and that is the counter its tick ends
with. -/
theorem counter_follows_the_pulses (config : Config) (origin : Nat) (inputs : List Node.Input) :
    let node := (Node.start config origin).value
    node.follow (node.steps inputs) = node.run inputs ∧
      (∀ earlier later, node.steps inputs = earlier ++ later →
        (node.follow earlier).value.timeBase.counter =
          (latestAccepted (node.pulses earlier) + ownSince (node.pulses earlier)) % 1024) ∧
      (∀ earlier step later, node.steps inputs = earlier ++ step :: later →
        let before := (node.follow earlier).value
        ∀ sent ∈ (before.perform step).transmit, step.duty = .beat ∨ sent.IsSync →
          sent.id.control? = some .sync ∧ sent.id.source = config.address ∧
            sent.syncCounter? = some (before.perform step).value.timeBase.counter) ∧
      ∀ now frame, ∀ sent ∈ ((node.run inputs).value.tick now frame).transmit, sent.IsSync →
        sent.syncCounter? =
          some ((node.run inputs).value.tick now frame).value.timeBase.counter := by
  intro node
  have fitting := Node.fitting_steps node inputs
  refine ⟨Node.follow_steps node inputs, ?_, ?_, ?_⟩
  · intro earlier later split
    rw [split, Node.fitting_append] at fitting
    have start : node.Counts [] := rfl
    exact start.follow fitting.1
  · intro earlier step later split before sent transmitted sync
    rw [split, Node.fitting_append] at fitting
    obtain ⟨kind, source, counter⟩ := Node.carries_counter transmitted sync
    have address : before.address = config.address :=
      congrArg Config.address (Node.config_follow node earlier fitting.1)
    exact ⟨kind, source.trans address, counter⟩
  · intro now frame sent transmitted sync
    exact Node.carries_counter_of_tick _ now frame transmitted sync

/-- A candidate that follows a weaker master at the last of the ten bits and takes over from it
begins at zero again, and says so. -/
theorem ten_wraps_the_counter :
    let node := (Node.start (Config.candidate 10 (by decide)) 0).value
    let inputs : List Node.Input := [.tick 0 none, .tick 5 (some (Frame.sync 12 1023))]
    let steps := node.steps (inputs ++ [.tick 6256 none])
    node.pulses steps = [.accepted 1023, .own] ∧
      (node.follow steps).value.timeBase.counter = (1023 + 1) % 1024 ∧
      (Frame.sync 10 0).syncCounter? =
        some ((node.run inputs).value.tick 6256 none).value.timeBase.counter := by
  have law := counter_follows_the_pulses (Config.candidate 10 (by decide)) 0
  have counted := (law [.tick 0 none, .tick 5 (some (Frame.sync 12 1023)), .tick 6256 none]).2.1 _
    [] (List.append_nil _).symm
  have carried := (law [.tick 0 none, .tick 5 (some (Frame.sync 12 1023))]).2.2.2 6256 none
    (Frame.sync 10 0)
  refine ⟨by decide +kernel, counted.trans (by decide +kernel), carried ?_ ?_⟩
  · decide +kernel
  · exact Frame.isSync_sync 10 0

end VehicleBus
