import VehicleBus.Proofs.Node.Deference
import VehicleBus.Proofs.Node.Discipline

/-!
How close the syncs of one node may come. Whatever happens after a sync, the period that runs is
over no earlier than a whole period after it: every other period begins later, for what begins one
is a sync that is followed, an election that opens or a sync of the node's own. A node that takes
over sends a lead before the end of the period, so two of its syncs are a period apart, less that
lead at most. A node that is master still waits for the end.

Instants must not go backwards here, since a period could begin before the sync then.
-/
namespace VehicleBus.Node

/-- The period that runs is not over before a whole one has passed since an instant. -/
def Paced (node : Node) (since : Nat) : Prop := since + node.timing.ptu ≤ node.timeBase.due

namespace Paced

variable {node after : Node} {since now : Nat} {sent : List Frame} {events : List Notification}

/-- A period that begins later is over later. -/
theorem renews (paced : node.Paced since) (passed : since ≤ now)
    (renews : Renews now node sent events after) : after.Paced since := by
  obtain ⟨config, fresh | ⟨-, kept⟩⟩ := renews
  · unfold Paced
    omega
  · have timing : after.timing = node.timing := congrArg Config.timing config
    unfold Paced at paced ⊢
    rw [timing, kept]
    exact paced

/-- A sync that is due comes a lead early at most, and that of a master does not. -/
theorem of_due (paced : node.Paced since)
    (due : (node.timeBase.isDue node.station now).value = true) :
    since + node.timing.ptu ≤ now + node.timing.ptu / 5 ∧
      (node.timeBase.master = some node.address → since + node.timing.ptu ≤ now) := by
  unfold Paced at paced
  unfold TimeBase.isDue at due
  split at due
  · have late : node.timeBase.due ≤ now := of_decide_eq_true due
    constructor
    · omega
    · intro own
      omega
  · rename_i foreign
    split at due
    · have late : node.timeBase.due ≤ now + node.timing.ptu / 5 := of_decide_eq_true due
      constructor
      · omega
      · intro own
        simp [TimeBase.isMaster, own] at foreign
    · cases due

theorem react (paced : node.Paced since) (input : Input) (passed : since ≤ input.instant) :
    (node.react input).value.Paced since := by
  cases input with
  | tick now frame => exact paced.renews passed ((renews_stages now).tick node frame)
  | requestEnter now => exact paced
  | requestExit now =>
    unfold Node.react requestExit
    dsimp only
    split
    · exact paced
    · exact paced

theorem run (paced : node.Paced since) (inputs : List Input)
    (passed : ∀ input ∈ inputs, since ≤ input.instant) : (node.run inputs).value.Paced since := by
  induction inputs generalizing node with
  | nil => exact paced
  | cons input rest ih =>
    rw [List.forall_mem_cons] at passed
    exact ih (paced.react input passed.1) passed.2

end Paced

section Ticks

variable {node : Node} {now : Nat} {frame : Option Frame}

/-- The sync of a tick begins a period, and nothing that comes after it in the tick brings the end
of that forward. -/
theorem paced_runTimers_of_due (mode : node.Synchronizes)
    (due : (node.timeBase.isDue node.station now).value = true) :
    (node.runTimers now).value.Paced now := by
  have stages := renews_stages now
  have beaten : (node.runSync now).value.Paced now := by
    obtain ⟨deadline, beaten⟩ := value_runSync_of_due node now due
    rw [beaten]
    exact Nat.le_refl _
  have kept := mode_runSync node now
  obtain mode | mode := mode
  · have waiting : (node.runSync now).value.mode = .preOperational := kept.trans mode
    have on := on_judgeMaster (node.runSync now).value now (by rw [waiting]; decide)
    simp only [runTimers, mode]
    have judged := beaten.renews (Nat.le_refl now) (stages.judgeMaster _ waiting)
    exact judged.renews (Nat.le_refl now) (stages.runEnterRequest _ on)
  · have watching : (node.runSync now).value.mode = .operational := kept.trans mode
    simp only [runTimers, mode, runOperational, Reaction.value_bind, watchSyncs]
    split
    · exact beaten.renews (Nat.le_refl now) (stages.leave _ (by rw [watching]; decide))
    · exact beaten.renews (Nat.le_refl now)
        (stages.runEnterRequest _ (by rw [watching]; decide))

/-- A master that sends a sync is master where it is due: whoever lost its office in this tick has
nothing to send. -/
theorem master_of_sync (own : node.timeBase.master = some node.address) {sent : Frame}
    (transmitted : sent ∈ (node.tick now frame).transmit) (sync : sent.IsSync) :
    (node.ready now frame).timeBase.master = some (node.ready now frame).address := by
  have due := (due_of_sync transmitted sync).2
  have heeds : node.Heeds node.address := ⟨node.address, own, UInt8.le_refl _⟩
  obtain ⟨address, master, held, low⟩ := heeds.of_reception due
  have high : (node.ready now frame).address ≤ master :=
    (node.ready now frame).timeBase.le_of_isDue (node.ready now frame).station now master held due
  rw [← address] at low
  have same : master = (node.ready now frame).address := UInt8.le_antisymm low high
  rw [same] at held
  exact held

end Ticks

end VehicleBus.Node

namespace VehicleBus

/-- Over every run of a node whose instants do not go back, two ticks that both send a sync lie a
period less a fifth of it apart at least, whatever comes between them. They lie a whole period apart
if the node is still master when the second one begins, as it is if it remained so. -/
theorem syncs_keep_their_distance (config : Config) (origin : Nat)
    (before between : List Node.Input) (first second : Nat) (frame other : Option Frame)
    (ordered : (first :: (between.map Node.Input.instant ++ [second])).Pairwise (· ≤ ·)) :
    let earlier := (Node.start config origin >>= fun node => node.run before).value
    let later := ((earlier.tick first frame).value.run between).value
    (∃ sent ∈ (earlier.tick first frame).transmit, sent.IsSync) →
    (∃ sent ∈ (later.tick second other).transmit, sent.IsSync) →
      config.timing.ptu - config.timing.ptu / 5 ≤ second - first ∧
        (later.timeBase.master = some config.address → config.timing.ptu ≤ second - first) := by
  rintro earlier later ⟨sent, transmitted, sync⟩ ⟨next, transmittedToo, syncToo⟩
  obtain ⟨passed, -⟩ := List.pairwise_cons.mp ordered
  have reached : first ≤ second := passed second (by simp)
  have config_earlier : earlier.config = config :=
    Node.config_run (Node.start config origin).value before
  have config_ticked : (earlier.tick first frame).value.config = earlier.config :=
    (Node.configured_stages first).tick earlier frame
  have config_later : later.config = config :=
    (Node.config_run _ between).trans (config_ticked.trans config_earlier)
  have config_ready : (later.ready second other).config = config :=
    ((Node.configured_stages second).reception later other).trans config_later
  -- The period that the first sync began, or a later one, runs when the second sync is due.
  have begun : (earlier.tick first frame).value.Paced first := by
    obtain ⟨mode, due⟩ := Node.due_of_sync transmitted sync
    exact Node.paced_runTimers_of_due mode due
  have runs : later.Paced first := begun.run between fun input member =>
    passed input.instant (List.mem_append_left _ (List.mem_map_of_mem member))
  have ready : (later.ready second other).Paced first :=
    runs.renews reached ((Node.renews_stages second).reception later other)
  obtain ⟨apart, whole⟩ := ready.of_due (Node.due_of_sync transmittedToo syncToo).2
  have timing : (later.ready second other).timing = config.timing :=
    congrArg Config.timing config_ready
  rw [timing] at apart whole
  constructor
  · omega
  · intro own
    have address : later.address = config.address := congrArg Config.address config_later
    rw [← address] at own
    have late := whole (Node.master_of_sync own transmittedToo syncToo)
    omega

/-- A candidate that sends its sync, is led into System Configuration and out of it in the same
instant, and takes over as early as it may comes as close as the bound allows. Undisturbed it stays
master and waits a whole period. -/
theorem ten_takes_over_early :
    let config := Config.candidate 10 (by decide)
    let between : List Node.Input :=
      [67, 70, 71].map (fun byte => .tick 7813 (some (Frame.enterConfig 7 byte))) ++
        [79, 80, 82].map (fun byte => .tick 7813 (some (Frame.exitConfig 7 byte)))
    let earlier := (Node.start config 0 >>= fun node => node.run [.tick 0 none]).value
    let led := ((earlier.tick 7813 none).value.run between).value
    let steady := ((earlier.tick 7813 none).value.run []).value
    (∃ sent ∈ (led.tick 14064 none).transmit, sent.IsSync) ∧
      config.timing.ptu - config.timing.ptu / 5 ≤ 14064 - 7813 ∧
      config.timing.ptu - config.timing.ptu / 5 = 14064 - 7813 ∧
      steady.timeBase.master = some config.address ∧
      (∃ sent ∈ (steady.tick 15626 none).transmit, sent.IsSync) ∧
      config.timing.ptu ≤ 15626 - 7813 := by
  intro config between earlier led steady
  have ordered : (7813 :: (between.map Node.Input.instant ++ [14064])).Pairwise (· ≤ ·) := by
    decide +kernel
  have sends : ∃ sent ∈ (earlier.tick 7813 none).transmit, sent.IsSync := by decide +kernel
  have early : ∃ sent ∈ (led.tick 14064 none).transmit, sent.IsSync := by decide +kernel
  have late : ∃ sent ∈ (steady.tick 15626 none).transmit, sent.IsSync := by decide +kernel
  have own : steady.timeBase.master = some config.address := by decide +kernel
  have close := syncs_keep_their_distance config 0 [.tick 0 none] between 7813 14064 none none
    ordered sends early
  have apart := syncs_keep_their_distance config 0 [.tick 0 none] [] 7813 15626 none none
    (by simp) sends late
  exact ⟨early, close.1, by decide +kernel, own, late, apart.2 own⟩

end VehicleBus
