import VehicleBus.Proofs.Node.Moves

/-!
Promotion and loss of the master in PreOperational, told by the syncs that counted since the
node had no master last. The first of them decides when the node is promoted, the latest one
when it gives a foreign master up; where both have come, the loss goes first. The node itself
keeps an instant and a deadline for the two, in different places, and sets them at different
moments; neither is consulted here.
-/
namespace VehicleBus.Node

/-- The instants of the syncs that a node accepted or sent in the course of steps since it had
no master last, the oldest first. -/
def reign (node : Node) (steps : List Step) : List Nat :=
  node.memory (fun after => after.timeBase.master.isSome)
    (fun before step => if before.Syncs step then [step.now] else []) [] steps

/-- The time base and the deadline of a node agree with the syncs of a reign. -/
structure Reigns (node : Node) (syncs : List Nat) : Prop where
  vacant : node.timeBase.master = none →
    syncs = [] ∧ (node.mode = .preOperational → node.deadline = none)
  held : node.timeBase.master.isSome = true → ∃ first, syncs.head? = some first ∧
    syncs.getLast? = some node.timeBase.lastSync ∧
    (node.mode = .preOperational → node.deadline = some (first + node.timing.slaveTimeout))

namespace Reigns

variable {node after : Node} {syncs : List Nat} {now : Nat}

theorem start (config : Config) (origin : Nat) : (Node.start config origin).value.Reigns [] :=
  ⟨fun _ => ⟨rfl, fun _ => rfl⟩, nofun⟩

/-- Without a master there is nothing to remember. -/
theorem of_vacant (vacant : after.timeBase.master = none)
    (unset : after.mode = .preOperational → after.deadline = none) : after.Reigns [] :=
  ⟨fun _ => ⟨rfl, unset⟩, fun held => by simp [vacant] at held⟩

/-- Where the time base stays, a change of the mode leads out of PreOperational, if there is
one, and the deadline belongs to the new mode. -/
theorem unsynced (reigns : node.Reigns syncs) (config : after.config = node.config)
    (timeBase : after.timeBase = node.timeBase)
    (deadline : after.mode = .preOperational →
      node.mode = .preOperational ∧ after.deadline = node.deadline) :
    after.Reigns (if after.timeBase.master.isSome then syncs ++ [] else []) := by
  have timing : after.timing = node.timing := congrArg Config.timing config
  cases master : after.timeBase.master with
  | none =>
    refine of_vacant master fun mode => ?_
    obtain ⟨waiting, kept⟩ := deadline mode
    rw [timeBase] at master
    rw [kept, (reigns.vacant master).2 waiting]
  | some address =>
    rw [Option.isSome_some, if_pos rfl, List.append_nil]
    have before : node.timeBase.master.isSome = true := by rw [← timeBase, master]; rfl
    obtain ⟨first, head, latest, due⟩ := reigns.held before
    refine ⟨fun vacant => by simp [master] at vacant, fun _ => ⟨first, head, ?_, fun mode => ?_⟩⟩
    · rw [timeBase, latest]
    · obtain ⟨waiting, kept⟩ := deadline mode
      rw [kept, timing, due waiting]

/-- A sync is the latest one from then on, and the first one if there was no master. -/
theorem synced (reigns : node.Reigns syncs) (config : after.config = node.config)
    (fed : node.Fed now after) :
    after.Reigns (if after.timeBase.master.isSome then syncs ++ [now] else []) := by
  have timing : after.timing = node.timing := congrArg Config.timing config
  rw [if_pos fed.held]
  refine ⟨fun vacant => ?_, fun _ => ?_⟩
  · have held := fed.held
    simp [vacant] at held
  · have latest : (syncs ++ [now]).getLast? = some after.timeBase.lastSync := by
      rw [List.getLast?_concat, fed.latest]
    cases master : node.timeBase.master with
    | none =>
      obtain ⟨rfl, unset⟩ := reigns.vacant master
      refine ⟨now, rfl, latest, fun mode => ?_⟩
      have waiting : node.mode = .preOperational := fed.mode.symm.trans mode
      rw [fed.waiting waiting, unset waiting, timing]
      rfl
    | some address =>
      obtain ⟨first, head, -, due⟩ := reigns.held (by rw [master]; rfl)
      refine ⟨first, by simp [head], latest, fun mode => ?_⟩
      have waiting : node.mode = .preOperational := fed.mode.symm.trans mode
      rw [fed.waiting waiting, due waiting, timing]
      rfl

theorem perform (reigns : node.Reigns syncs) (step : Step) (fits : node.Fits step) :
    (node.perform step).value.Reigns
      (if (node.perform step).value.timeBase.master.isSome
        then syncs ++ if node.Syncs step then [step.now] else [] else []) := by
  have config := config_perform node step fits
  cases moves_perform node step fits with
  | rests unsynced _ mode timeBase deadline =>
    rw [if_neg unsynced]
    exact reigns.unsynced config timeBase fun waiting => ⟨mode.symm.trans waiting, deadline⟩
  | syncs synced _ fed =>
    rw [if_pos synced]
    exact reigns.synced config fed
  | opens unsynced _ _ mode vacant unset =>
    rw [vacant, Option.isSome_none, if_neg Bool.false_ne_true]
    exact of_vacant vacant fun _ => unset
  | promotes unsynced _ _ _ mode timeBase _ =>
    rw [if_neg unsynced]
    exact reigns.unsynced config timeBase fun waiting => by rw [mode] at waiting; cases waiting
  | configures unsynced _ mode timeBase _ =>
    rw [if_neg unsynced]
    exact reigns.unsynced config timeBase fun waiting => by rw [mode] at waiting; cases waiting

theorem follow (reigns : node.Reigns []) {steps : List Step} (fitting : node.Fitting steps) :
    (node.follow steps).value.Reigns (node.reign steps) :=
  memory_induction _ _ (fun _ _ step fits reigns => reigns.perform step fits) reigns fitting

end Reigns

/-- A foreign master was not heard for a slave timeout, told by the syncs that counted. -/
def Forsaken (node : Node) (syncs : List Nat) (now : Nat) : Prop :=
  (∃ master ∈ node.timeBase.master, master ≠ node.address) ∧
    ∃ latest ∈ syncs.getLast?, latest + node.timing.slaveTimeout ≤ now

/-- There is a master, and the first sync that counted lies a slave timeout back. -/
def Established (node : Node) (syncs : List Nat) (now : Nat) : Prop :=
  node.timeBase.master.isSome = true ∧
    ∃ first ∈ syncs.head?, first + node.timing.slaveTimeout ≤ now

/-- What becomes of the master and of the mode in a tick that judges them: the node as the
poll of the time base left it, the syncs that counted by then, the tick, and the syncs that
count for the next one. -/
structure Decides (beaten : Node) (syncs : List Nat) (now : Nat) (ticked : Reaction Node)
    (next : List Nat) : Prop where
  known : beaten.timeBase.master.isSome = true ↔ syncs ≠ []
  /-- The wait for promotion begins anew with the next sync. -/
  lost : beaten.Forsaken syncs now → ticked.value.timeBase.master = none ∧
    .masterChanged none ∈ ticked.events ∧ .modeChanged .operational ∉ ticked.events ∧ next = []
  kept : ¬ beaten.Forsaken syncs now →
    (.modeChanged .operational ∈ ticked.events ↔ beaten.Established syncs now)

section Judgement

variable {node : Node} {syncs : List Nat} {now : Nat}

theorem Reigns.known (reigns : node.Reigns syncs) :
    node.timeBase.master.isSome = true ↔ syncs ≠ [] := by
  cases master : node.timeBase.master with
  | none => simp [(reigns.vacant master).1]
  | some address =>
    obtain ⟨first, head, -⟩ := reigns.held (by rw [master]; rfl)
    refine iff_of_true rfl fun empty => ?_
    rw [empty] at head
    cases head

theorem Reigns.lost_iff (reigns : node.Reigns syncs)
    (held : node.timeBase.master.isSome = true) (now : Nat) :
    (node.timeBase.lost node.station now).value = true ↔ node.Forsaken syncs now := by
  obtain ⟨_, -, latest, -⟩ := reigns.held held
  obtain ⟨master, present⟩ := Option.isSome_iff_exists.mp held
  unfold TimeBase.lost Forsaken
  rw [latest, present]
  split
  · rename_i own
    have same : master = node.address := by simpa [TimeBase.isMaster, present] using own
    simp [same]
  · rename_i foreign
    have other : master ≠ node.address := by simpa [TimeBase.isMaster, present] using foreign
    refine decide_eq_true_iff.trans ?_
    simp [other]

theorem Reigns.expired_iff (reigns : node.Reigns syncs)
    (held : node.timeBase.master.isSome = true) (mode : node.mode = .preOperational) :
    node.expired now = true ↔ node.Established syncs now := by
  obtain ⟨first, head, -, due⟩ := reigns.held held
  simp [expired, due mode, Established, held, head]

/-- What becomes of a node that judges its master. -/
theorem Reigns.judges (reigns : node.Reigns syncs) (mode : node.mode = .preOperational)
    (now : Nat) :
    (node.Forsaken syncs now → (node.judgeMaster now).value.timeBase.master = none ∧
      .masterChanged none ∈ (node.judgeMaster now).events ∧
      .operational ∉ modes (node.judgeMaster now).events) ∧
    (¬ node.Forsaken syncs now →
      (.operational ∈ modes (node.judgeMaster now).events ↔ node.Established syncs now)) := by
  have quiet := node.timeBase.lost_quiet node.station now
  cases held : node.timeBase.master.isSome with
  | false =>
    refine ⟨fun forsaken => ?_, fun _ => ?_⟩
    · obtain ⟨⟨master, present, -⟩, -⟩ := forsaken
      rw [Option.mem_def] at present
      simp [present] at held
    · simp [judgeMaster, held, Established]
  | true =>
    have lost := reigns.lost_iff held now
    have events : (node.judgeMaster now).events =
        (node.promoteUnless now (node.timeBase.lost node.station now).value).events := by
      rw [judgeMaster, if_pos held, Reaction.events_bind, quiet.untold, List.nil_append]
    refine ⟨fun forsaken => ?_, fun kept => ?_⟩
    · rw [lost.mpr forsaken] at events
      have told : (node.judgeMaster now).events = [.masterChanged none] := by
        obtain ⟨master, present⟩ := Option.isSome_iff_exists.mp held
        rw [events]
        simp [promoteUnless, TimeBase.setMaster, present]
      refine ⟨?_, ?_, ?_⟩
      · rw [judgeMaster, if_pos held, Reaction.value_bind, lost.mpr forsaken]
        rfl
      · rw [told]
        exact List.mem_singleton_self _
      · rw [told]
        exact List.not_mem_nil
    · have stays : (node.timeBase.lost node.station now).value = false :=
        Bool.eq_false_iff.mpr (mt lost.mp kept)
      rw [events, stays, promoteUnless, if_neg Bool.false_ne_true, ← reigns.expired_iff held mode]
      split
      · rename_i expired
        simp [expired, mode]
      · rename_i waiting
        simp [waiting]

/-- A tick that reaches its timers in PreOperational is decided by the syncs. -/
theorem Reigns.decides {frame : Option Frame} {next : List Nat}
    (mode : (node.ready now frame).mode = .preOperational)
    (reigns : (node.follow (polling now frame)).value.Reigns syncs)
    (ends : (node.tick now frame).value.Reigns next) :
    (node.follow (polling now frame)).value.Decides syncs now (node.tick now frame) next := by
  have waiting : (node.follow (polling now frame)).value.mode = .preOperational := by
    rw [value_follow_polling, mode_runSync, mode]
  obtain ⟨lost, kept⟩ := reigns.judges waiting now
  have tick := node.tick_of_preOperational now frame mode
  have before := not_operational_of_unjudged node (polling now frame) (by simp [polling])
  generalize node.follow (polling now frame) = beaten at *
  have base : (node.tick now frame).value.timeBase =
      (beaten.value.judgeMaster now).value.timeBase := by
    rw [tick, Reaction.value_bind, Reaction.value_bind, timeBase_runEnterRequest]
  have told : (node.tick now frame).events = beaten.events ++
      ((beaten.value.judgeMaster now).events ++
        ((beaten.value.judgeMaster now).value.runEnterRequest now).events) := by
    rw [tick, Reaction.events_bind, Reaction.events_bind]
  have promoted : .modeChanged .operational ∈ (node.tick now frame).events ↔
      .operational ∈ modes (beaten.value.judgeMaster now).events := by
    have after : .operational ∉
        modes ((beaten.value.judgeMaster now).value.runEnterRequest now).events := by
      intro asked
      cases modes_runEnterRequest _ now _ asked
    rw [← mem_modes_iff, told, modes_append, modes_append]
    simp [before, after]
  refine ⟨reigns.known, fun forsaken => ?_, fun held => promoted.trans (kept held)⟩
  obtain ⟨vacant, opened, unpromoted⟩ := lost forsaken
  have left : (node.tick now frame).value.timeBase.master = none := by rw [base, vacant]
  refine ⟨left, ?_, mt promoted.mp unpromoted, (ends.vacant left).1⟩
  rw [told]
  exact List.mem_append_right _ (List.mem_append_left _ opened)

end Judgement

end VehicleBus.Node

namespace VehicleBus

open Node

/-- Over every run of a node, a tick that reaches its timers in PreOperational gives a foreign
master up exactly when the latest sync that counted lies a slave timeout back, and promotes
the node otherwise exactly when the first one does. No other tick leads to Operational. -/
theorem promotion_and_loss_follow_the_syncs (config : Config) (origin : Nat)
    (inputs : List Node.Input) (now : Nat) (frame : Option Frame) :
    let start := (Node.start config origin).value
    let node := (start.run inputs).value
    let polled := start.steps inputs ++ polling now frame
    let ended := start.steps (inputs ++ [.tick now frame])
    (.modeChanged .operational ∈ (node.tick now frame).events →
      (node.ready now frame).mode = .preOperational) ∧
    ((node.ready now frame).mode = .preOperational →
      polled <+: ended ∧
      (start.follow polled).value.Decides (start.reign polled) now (node.tick now frame)
        (start.reign ended)) := by
  intro start node polled ended
  constructor
  · intro told
    rw [← mem_modes_iff] at told
    refine Classical.byContradiction fun mode => ?_
    have unjudged := node.unjudged_inputSteps now frame mode
    refine not_operational_of_unjudged node _ unjudged ?_
    rw [node.follow_inputSteps]
    exact told
  · intro mode
    have begun : start.Reigns [] := Reigns.start config origin
    have fitting : start.Fitting ended := start.fitting_steps (inputs ++ [.tick now frame])
    have ends := begun.follow fitting
    have split : ended = start.steps inputs ++ node.inputSteps (.tick now frame) :=
      start.steps_concat inputs _
    have last : (start.follow ended).value = (node.tick now frame).value := by
      rw [split, value_follow_steps_append, follow_inputSteps]
      rfl
    rw [node.inputSteps_of_preOperational now frame mode, ← List.append_assoc] at split
    refine ⟨⟨_, split.symm⟩, ?_⟩
    rw [split, fitting_append] at fitting
    have reigns := begun.follow fitting.1
    have beaten : (start.follow polled).value = (node.follow (polling now frame)).value :=
      start.value_follow_steps_append inputs _
    rw [last] at ends
    rw [beaten] at reigns ⊢
    exact reigns.decides mode ends

/-- A node that hears one sync of 10 gives it up in the instant in which it would be promoted,
and is promoted then if a second one came in between. -/
theorem twelve_waits_for_ten :
    let start := (Node.start (Config.candidate 12 (by decide)) 0).value
    let once : List Node.Input := [.tick 1000 (some (Frame.sync 10 5))]
    let twice := once ++ [.tick 8000 (some (Frame.sync 10 6))]
    .masterChanged none ∈ ((start.run once).value.tick 9385 none).events ∧
      .modeChanged .operational ∉ ((start.run once).value.tick 9385 none).events ∧
      .modeChanged .operational ∈ ((start.run twice).value.tick 9385 none).events := by
  intro start once twice
  have loses (beaten : Node) (master : beaten.timeBase.master = some 10)
      (address : beaten.address = 12) (timeout : beaten.timing.slaveTimeout = 8385) :
      beaten.Forsaken [1000] 9385 :=
    ⟨⟨10, master, by rw [address]; decide⟩, 1000, rfl, by simp [timeout]⟩
  have holds (beaten : Node) (master : beaten.timeBase.master = some 10)
      (timeout : beaten.timing.slaveTimeout = 8385) :
      ¬ beaten.Forsaken [1000, 8000] 9385 ∧ beaten.Established [1000, 8000] 9385 := by
    refine ⟨?_, by rw [master]; rfl, 1000, rfl, by simp [timeout]⟩
    rintro ⟨-, latest, ⟨⟩, late⟩
    rw [timeout] at late
    exact absurd late (by decide)
  have heard :
      let start := (Node.start (Config.candidate 12 (by decide)) 0).value
      let once : List Node.Input := [.tick 1000 (some (Frame.sync 10 5))]
      let twice := once ++ [.tick 8000 (some (Frame.sync 10 6))]
      let first := start.steps once ++ polling 9385 none
      let second := start.steps twice ++ polling 9385 none
      ((start.run once).value.ready 9385 none).mode = .preOperational ∧
        ((start.run twice).value.ready 9385 none).mode = .preOperational ∧
        start.reign first = [1000] ∧ start.reign second = [1000, 8000] ∧
        (start.follow first).value.timeBase.master = some 10 ∧
        (start.follow second).value.timeBase.master = some 10 ∧
        (start.follow first).value.address = 12 ∧
        (start.follow first).value.timing.slaveTimeout = 8385 ∧
        (start.follow second).value.timing.slaveTimeout = 8385 := by
    decide +kernel
  obtain ⟨modeOnce, modeTwice, one, two, masterOnce, masterTwice, address, timeoutOnce,
    timeoutTwice⟩ := heard
  have lone := ((promotion_and_loss_follow_the_syncs (Config.candidate 12 (by decide)) 0 once 9385
    none).2 modeOnce).2
  have kept := ((promotion_and_loss_follow_the_syncs (Config.candidate 12 (by decide)) 0 twice 9385
    none).2 modeTwice).2
  rw [one] at lone
  rw [two] at kept
  obtain ⟨-, told, unpromoted, -⟩ := lone.lost (loses _ masterOnce address timeoutOnce)
  obtain ⟨stays, established⟩ := holds _ masterTwice timeoutTwice
  exact ⟨told, unpromoted, (kept.kept stays).mpr established⟩

end VehicleBus
