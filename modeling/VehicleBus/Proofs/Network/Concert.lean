import VehicleBus.Proofs.Node.Layers

/-!
Two nodes that come up together, without requests. Whichever options they have, they agree
at the first claim: one of them leads from then on with a sync in every period, the other
one follows, and neither falls back from Operational. If neither is a candidate, both wait
for ever.

The rounds are counted here. A sync goes out every `period` rounds, counted from the first
claim, and arrives in the next round; this is what the bytes of a handshake are measured
against later.
-/
namespace VehicleBus

namespace Node

/-- The node is its own master, with its latest sync at an instant. -/
def Synced (node : Node) (instant : Nat) : Prop :=
  node.timeBase.master = some node.address ∧ node.timeBase.lastSync = instant

variable {node : Node} {since latest first now : Nat} {master source : UInt8}

theorem Waiting.not_synced (waiting : node.Waiting since) (instant : Nat) :
    ¬ node.Synced instant := by
  rintro ⟨own, -⟩
  rw [waiting.undecided] at own
  cases own

theorem Holding.synced_iff (holding : node.Holding master latest first) (instant : Nat) :
    node.Synced instant ↔ master = node.address ∧ latest = instant := by
  unfold Synced
  rw [holding.held, holding.lastSync, Option.some_inj]

/-- What a round without requests means to a node that finds syncs in its inbox. -/
structure Plays (node : Node) (now : Nat) (box : List Frame) : Prop where
  ready : (node.ready now box.head?).Synchronizes
  /-- It does not fall back from Operational. -/
  steady : (node.ready now box.head?).Steady now
  after : (node.tick now box.head?).value.Synchronizes
  /-- What it says about its latest sync is true. -/
  kept : ∀ instant < now, (node.tick now box.head?).value.Synced instant → node.Synced instant
  fresh : (node.tick now box.head?).value.Synced now → (node.tick now box.head?).transmit ≠ []

theorem address_tick (node : Node) (now : Nat) (frame : Option Frame) :
    (node.tick now frame).value.address = node.address :=
  congrArg Config.address ((configured_stages now).tick node frame)

theorem ready_of_synchronizes (mode : node.Synchronizes) (frame : Option Frame) :
    node.ready now frame = (node.receive? now frame).value := by
  rw [ready, wake_of_synchronizes mode]
  rfl

/-- A node that is left with a master plays, if it is true to its latest sync. -/
theorem plays_of_holding {box : List Frame} (ready : (node.ready now box.head?).Synchronizes)
    (after : (node.tick now box.head?).value.Holding master latest first)
    (kept : master = node.address → latest < now → node.Synced latest)
    (fresh : master = node.address → latest = now → (node.tick now box.head?).transmit ≠ []) :
    node.Plays now box where
  ready := ready
  steady := steady_of_held after.held
  after := after.synchronizes
  kept := by
    intro instant past synced
    obtain ⟨own, same⟩ := (after.synced_iff instant).mp synced
    rw [address_tick] at own
    subst same
    exact kept own past
  fresh := by
    intro synced
    obtain ⟨own, same⟩ := (after.synced_iff now).mp synced
    rw [address_tick] at own
    exact fresh own same

/-- A node that is left without a master plays. -/
theorem plays_of_waiting {box : List Frame}
    (mode : (node.ready now box.head?).mode = .preOperational)
    (after : (node.tick now box.head?).value.Waiting since) : node.Plays now box where
  ready := .inl mode
  steady := fun operational => by rw [mode] at operational; cases operational
  after := after.synchronizes
  kept := fun instant _ synced => absurd synced (after.not_synced instant)
  fresh := fun synced => absurd synced (after.not_synced now)

/-- A node that is no candidate sends no sync where another one is master, or none. -/
theorem isDue_eq_of_bystander (plain : node.config.options.syncMaster = false)
    (foreign : node.timeBase.master ≠ some node.address) :
    (node.timeBase.isDue node.station now).value = false := by
  have other : node.timeBase.isMaster node.station = false := by
    simpa [TimeBase.isMaster] using foreign
  have silent : node.timeBase.mayClaim node.station = false := by
    have stands : node.station.candidate = false := plain
    rw [TimeBase.mayClaim, stands, Bool.false_and]
  rw [TimeBase.isDue, other, silent]
  rfl

theorem Waiting.isDue_eq_of_bystander (waiting : node.Waiting since)
    (plain : node.config.options.syncMaster = false) :
    (node.timeBase.isDue node.station now).value = false := by
  refine Node.isDue_eq_of_bystander plain ?_
  rw [waiting.undecided]
  exact nofun

section Rounds

theorem Waiting.play_of_silence (waiting : node.Waiting since)
    (early : (node.timeBase.isDue node.station now).value = false) :
    (node.tick now none).value = node ∧ (node.tick now none).transmit = [] ∧
      node.Plays now [] := by
  have mode := waiting.synchronizes
  obtain ⟨same, unsent⟩ := waiting.runTimers_of_not_due early
  have value : (node.tick now none).value = node := (value_tick mode none).trans same
  have after : (node.tick now none).value.Waiting since := by
    rw [value]
    exact waiting
  have ready : (node.ready now none).mode = .preOperational := by
    rw [ready_of_synchronizes mode]
    exact waiting.mode
  exact ⟨value, (transmit_tick_of_synchronizes mode none).trans unsent,
    plays_of_waiting ready after⟩

theorem Waiting.play_of_claim (waiting : node.Waiting since)
    (due : (node.timeBase.isDue node.station now).value = true) :
    (node.tick now none).value.Holding node.address now now ∧
      (∃ counter, (node.tick now none).transmit = [Frame.sync node.address counter]) ∧
      node.Plays now [] := by
  have mode := waiting.synchronizes
  obtain ⟨holding, -, counter, sent⟩ := waiting.runTimers_of_due due
  have after : (node.tick now none).value.Holding node.address now now := by
    rw [value_tick mode]
    exact holding
  have transmit := (transmit_tick_of_synchronizes mode none).trans sent
  refine ⟨after, ⟨counter, transmit⟩, plays_of_holding ?_ after ?_ ?_⟩
  · rw [ready_of_synchronizes mode]
    exact mode
  · intro _ past
    omega
  · intro _ _
    show (node.tick now none).transmit ≠ []
    rw [transmit]
    exact List.cons_ne_nil _ _

/-- Where a sync of another node is heard, nothing is due. -/
theorem play_of_sync {counter : Nat} (mode : node.Synchronizes) (foreign : source ≠ node.address)
    (heard : (node.receive now (Frame.sync source counter)).value.Holding source now first) :
    (node.tick now (some (Frame.sync source counter))).value.Holding source now first ∧
      (node.tick now (some (Frame.sync source counter))).transmit = [] ∧
      node.Plays now [Frame.sync source counter] := by
  obtain ⟨holding, -, unsent⟩ := heard.runTimers_of_heard
  have after : (node.tick now (some (Frame.sync source counter))).value.Holding source now
      first := by
    rw [value_tick mode]
    exact holding
  refine ⟨after, (transmit_tick_of_synchronizes mode _).trans unsent,
    plays_of_holding ?_ after ?_ ?_⟩
  · rw [List.head?_cons, ready_of_synchronizes mode]
    exact heard.synchronizes
  · exact fun own => absurd own foreign
  · exact fun own => absurd own foreign

section Unheard

variable {box : List Frame} (holding : node.Holding master latest first)
  (unheard : (node.receive? now box.head?).value = node)
include holding unheard

theorem Holding.play_of_silence
    (early : (node.timeBase.isDue node.station now).value = false) (past : latest ≤ now)
    (heard : master = node.address ∨ now < latest + node.timing.slaveTimeout)
    (watched : now < latest + node.timing.watchdog) (old : master = node.address → latest < now) :
    (node.tick now box.head?).value.Holding master latest first ∧
      (node.tick now box.head?).transmit = [] ∧ node.Plays now box := by
  have mode := holding.synchronizes
  obtain ⟨still, -, unsent⟩ := holding.runTimers_of_not_due early past heard watched
  have after : (node.tick now box.head?).value.Holding master latest first := by
    rw [value_tick mode, unheard]
    exact still
  refine ⟨after, ?_, plays_of_holding ?_ after ?_ ?_⟩
  · rw [transmit_tick_of_synchronizes mode, unheard]
    exact unsent
  · rw [ready_of_synchronizes mode, unheard]
    exact mode
  · exact fun own _ => (holding.synced_iff latest).mpr ⟨own, rfl⟩
  · intro own same
    have before := old own
    omega

theorem Holding.play_of_beat
    (due : (node.timeBase.isDue node.station now).value = true) :
    (node.tick now box.head?).value.Holding node.address now first ∧
      (∃ counter, (node.tick now box.head?).transmit = [Frame.sync node.address counter]) ∧
      node.Plays now box := by
  have mode := holding.synchronizes
  obtain ⟨beaten, -, counter, sent⟩ := holding.runTimers_of_due due
  have after : (node.tick now box.head?).value.Holding node.address now first := by
    rw [value_tick mode, unheard]
    exact beaten
  have transmit : (node.tick now box.head?).transmit = [Frame.sync node.address counter] := by
    rw [transmit_tick_of_synchronizes mode, unheard]
    exact sent
  refine ⟨after, ⟨counter, transmit⟩, plays_of_holding ?_ after ?_ ?_⟩
  · rw [ready_of_synchronizes mode, unheard]
    exact mode
  · intro _ past
    omega
  · intro _ _
    rw [transmit]
    exact List.cons_ne_nil _ _

end Unheard

/-- A node that is switched on waits from then on. -/
theorem play_of_waking (now : Nat) (off : node.mode = .powerOff)
    (idle : node.enterRequest.pending = false) :
    (node.tick now none).value.Waiting now ∧ (node.tick now none).transmit = [] ∧
      node.Plays now [] := by
  have waiting := waiting_wake now off idle
  have early := not_due_of_fresh (node.wake now).value now waiting.due
  obtain ⟨same, unsent⟩ := waiting.runTimers_of_not_due early
  have after : (node.tick now none).value.Waiting now := by
    show ((node.wake now).value.runTimers now).value.Waiting now
    rw [same]
    exact waiting
  have ready : (node.ready now none).mode = .preOperational := waiting.mode
  refine ⟨after, ?_, plays_of_waiting ready after⟩
  rw [transmit_tick]
  exact unsent

end Rounds

end Node

/-- Two nodes of one network that come up together. The lead is the one that is elected: a
candidate if there is one, and of two the lower address. -/
structure Duo where
  lead : Config
  tail : Config
  step : Nat
  distinct : lead.address ≠ tail.address
  bitrate : lead.bitrate = tail.bitrate
  frequency : lead.frequency = tail.frequency
  positive : 0 < step
  pace : step ≤ lead.timing.preemptLead
  elected : tail.options.syncMaster = true →
    lead.options.syncMaster = true ∧ lead.address < tail.address

namespace Duo

variable (duo : Duo)

def ptu : Nat := duo.lead.timing.ptu

/-- The number of rounds from one sync to the next. -/
def period : Nat := Clock.ceilDiv duo.ptu duo.step

theorem timing_tail : duo.tail.timing = duo.lead.timing := by
  unfold Config.timing
  rw [duo.bitrate, duo.frequency]

/-- To the tail the lead is another node. -/
theorem foreign {tail : Node} (tails : tail.config = duo.tail) :
    duo.lead.address ≠ tail.address := by
  have address : tail.address = duo.tail.address := congrArg Config.address tails
  rw [address]
  exact duo.distinct

theorem ptu_le_iff (rounds : Nat) : duo.ptu ≤ rounds * duo.step ↔ duo.period ≤ rounds :=
  (Clock.ceilDiv_le_iff _ _ _ duo.positive).symm

theorem lead_lt_ptu : duo.lead.timing.preemptLead < duo.ptu := Timing.preemptLead_lt_ptu _ _

/-- Two rounds are less than a period. -/
theorem two_lt_period : 2 < duo.period := by
  have pace := duo.pace
  have bound := duo.ptu_le_iff 2
  have period : duo.lead.timing.preemptLead = duo.ptu / 5 := rfl
  have positive := duo.positive
  omega

/-- A period in rounds is shorter than the time of a period and one round. -/
theorem period_mul_lt : duo.period * duo.step < duo.ptu + duo.step :=
  Clock.ceilDiv_mul_lt _ _ duo.positive

/-- A span of rounds from one round to another. -/
theorem span_le_iff (sent round : Nat) :
    sent * duo.step + duo.ptu ≤ round * duo.step ↔ sent + duo.period ≤ round := by
  by_cases order : sent ≤ round
  · obtain ⟨rounds, rfl⟩ := Nat.exists_eq_add_of_le order
    have bound := duo.ptu_le_iff rounds
    rw [Nat.add_mul]
    omega
  · have long := duo.two_lt_period
    have less : round * duo.step ≤ sent * duo.step :=
      Nat.mul_le_mul_right _ (Nat.le_of_not_le order)
    have positive := duo.lead_lt_ptu
    omega

/-- A candidate is not late for its claim in the first period. -/
def Patient (round : Nat) : Prop :=
  duo.lead.options.syncMaster = true →
    round * duo.step + duo.lead.timing.preemptLead < duo.ptu + duo.step

/-- Where the two stand at the start of a round, and which syncs are on their way. -/
inductive Phase (round : Nat) (lead tail : Node) (leadBox tailBox : List Frame) : Prop
  | off (zero : round = 0) (leadOff : lead.mode = .powerOff) (tailOff : tail.mode = .powerOff)
      (leadIdle : lead.enterRequest.pending = false) (tailIdle : tail.enterRequest.pending = false)
      (leadEmpty : leadBox = []) (tailEmpty : tailBox = [])
  /-- Nobody sent a sync yet. -/
  | quiet (leadWaits : lead.Waiting 0) (tailWaits : tail.Waiting 0)
      (leadEmpty : leadBox = []) (tailEmpty : tailBox = []) (patient : duo.Patient round)
  /-- All candidates claimed in the round before. -/
  | struck (sent : Nat) (next : round = sent + 1)
      (leads : lead.Holding duo.lead.address (sent * duo.step) (sent * duo.step))
      (tails : tail.Waiting 0 ∧ leadBox = [] ∨
        tail.Holding duo.tail.address (sent * duo.step) (sent * duo.step) ∧
          duo.lead.address < duo.tail.address ∧
          ∃ counter, leadBox = [Frame.sync duo.tail.address counter])
      (reached : ∃ counter, tailBox = [Frame.sync duo.lead.address counter])
  /-- The lead is master of both. -/
  | led (sent heard first tailFirst : Nat) (past : sent < round)
      (punctual : round ≤ sent + duo.period)
      (leads : lead.Holding duo.lead.address (sent * duo.step) first)
      (tails : tail.Holding duo.lead.address (heard * duo.step) tailFirst)
      (leadEmpty : leadBox = [])
      (tailBox : tailBox = [] ∧ heard = sent + 1 ∨
        round = sent + 1 ∧ ∃ counter, tailBox = [Frame.sync duo.lead.address counter])

/-- The phase of two nodes that are the lead and the tail. -/
structure Concert (round : Nat) (lead tail : Node) (leadBox tailBox : List Frame) : Prop where
  leads : lead.config = duo.lead
  tails : tail.config = duo.tail
  phase : duo.Phase round lead tail leadBox tailBox

/-- What a round means to one of the two, with its own inbox and the inbox of the other. -/
structure Turned (round : Nat) (node : Node) (box others : List Frame) : Prop where
  plays : node.Plays (round * duo.step) box
  single : box.tail = []
  syncs : ∀ frame ∈ box.head?, frame.id.control? = some .sync
  /-- A sync goes out a while after the one before. -/
  spaced : others ≠ [] → (node.tick (round * duo.step) box.head?).transmit = []
  /-- After the first period a sync goes out a period after the one before. -/
  grid : (node.tick (round * duo.step) box.head?).transmit ≠ [] → duo.period ≤ round →
    node.Synced ((round - duo.period) * duo.step)

/-- A round of both. -/
structure Together (round : Nat) (lead tail : Node) (leadBox tailBox : List Frame) : Prop where
  leads : duo.Turned round lead leadBox tailBox
  tails : duo.Turned round tail tailBox leadBox
  next : duo.Phase (round + 1) (lead.tick (round * duo.step) leadBox.head?).value
    (tail.tick (round * duo.step) tailBox.head?).value
    (leadBox.tail ++ (tail.tick (round * duo.step) tailBox.head?).transmit)
    (tailBox.tail ++ (lead.tick (round * duo.step) leadBox.head?).transmit)

variable {duo} {round : Nat} {lead tail : Node} {leadBox tailBox : List Frame}

/-- A node that sends nothing has little to show for. -/
theorem turned_of_silence {node : Node} {box others : List Frame}
    (plays : node.Plays (round * duo.step) box) (single : box.tail = [])
    (syncs : ∀ frame ∈ box.head?, frame.id.control? = some .sync)
    (unsent : (node.tick (round * duo.step) box.head?).transmit = []) :
    duo.Turned round node box others where
  plays := plays
  single := single
  syncs := syncs
  spaced _ := unsent
  grid sent := absurd unsent sent

/-- A node with an empty inbox whose neighbour has one too. -/
theorem turned_of_empty {node : Node} (plays : node.Plays (round * duo.step) [])
    (grid : (node.tick (round * duo.step) none).transmit ≠ [] → duo.period ≤ round →
      node.Synced ((round - duo.period) * duo.step)) : duo.Turned round node [] [] where
  plays := plays
  single := rfl
  syncs := nofun
  spaced wrong := absurd rfl wrong
  grid := grid

theorem together_of_off (zero : round = 0) (leadOff : lead.mode = .powerOff)
    (tailOff : tail.mode = .powerOff) (leadIdle : lead.enterRequest.pending = false)
    (tailIdle : tail.enterRequest.pending = false) : duo.Together round lead tail [] [] := by
  subst zero
  obtain ⟨leadWaits, leadUnsent, leadPlays⟩ :=
    Node.play_of_waking (0 * duo.step) leadOff leadIdle
  obtain ⟨tailWaits, tailUnsent, tailPlays⟩ :=
    Node.play_of_waking (0 * duo.step) tailOff tailIdle
  refine ⟨turned_of_silence leadPlays rfl nofun leadUnsent,
    turned_of_silence tailPlays rfl nofun tailUnsent, .quiet ?_ ?_ tailUnsent leadUnsent ?_⟩
  · simpa using leadWaits
  · simpa using tailWaits
  · intro _
    have lead := duo.lead_lt_ptu
    omega

theorem unheard_of_empty (node : Node) (now : Nat) :
    (node.receive? now ([] : List Frame).head?).value = node := rfl

/-- The lead between two of its syncs does nothing about the time base. -/
theorem lead_rests (leads : lead.config = duo.lead) {sent first : Nat}
    (holds : lead.Holding duo.lead.address (sent * duo.step) first)
    (unheard : (lead.receive? (round * duo.step) leadBox.head?).value = lead)
    (past : sent < round) (running : round < sent + duo.period) :
    (lead.tick (round * duo.step) leadBox.head?).value.Holding duo.lead.address
        (sent * duo.step) first ∧
      (lead.tick (round * duo.step) leadBox.head?).transmit = [] ∧
      lead.Plays (round * duo.step) leadBox := by
  have address : lead.address = duo.lead.address := congrArg Config.address leads
  have timing : lead.timing = duo.lead.timing := congrArg Config.timing leads
  have own : lead.Holding lead.address (sent * duo.step) first := by
    rw [address]
    exact holds
  have order : sent * duo.step < round * duo.step :=
    Nat.mul_lt_mul_of_pos_right past duo.positive
  have inTime : round * duo.step < sent * duo.step + duo.ptu := by
    have bound := duo.span_le_iff sent round
    omega
  have early : (lead.timeBase.isDue lead.station (round * duo.step)).value = false := by
    rw [← Bool.not_eq_true, own.isDue_iff_of_own, timing]
    exact Nat.not_le.mpr inTime
  refine holds.play_of_silence unheard early (Nat.le_of_lt order) (.inl address.symm) ?_
    fun _ => order
  rw [timing]
  unfold Timing.watchdog Timing.watchdogPtus
  change _ < _ + duo.ptu * 8
  omega

/-- A sync of the lead goes out a period after the one before. -/
theorem lead_beats (leads : lead.config = duo.lead) {sent first : Nat}
    (holds : lead.Holding duo.lead.address (sent * duo.step) first)
    (due : sent + duo.period ≤ round) :
    (lead.tick (round * duo.step) none).value.Holding duo.lead.address (round * duo.step) first ∧
      (∃ counter, (lead.tick (round * duo.step) none).transmit =
        [Frame.sync duo.lead.address counter]) ∧
      lead.Plays (round * duo.step) [] := by
  have address : lead.address = duo.lead.address := congrArg Config.address leads
  have timing : lead.timing = duo.lead.timing := congrArg Config.timing leads
  rw [← address] at holds ⊢
  have isDue : (lead.timeBase.isDue lead.station (round * duo.step)).value = true := by
    rw [holds.isDue_iff_of_own, timing]
    exact (duo.span_le_iff sent round).mpr due
  exact holds.play_of_beat (unheard_of_empty lead _) isDue

/-- The tail waits for the next sync of the lead, which comes before it is missed. -/
theorem tail_rests (tails : tail.config = duo.tail) {sent first : Nat}
    (holds : tail.Holding duo.lead.address ((sent + 1) * duo.step) first)
    (past : sent < round) (punctual : round ≤ sent + duo.period) :
    (tail.tick (round * duo.step) none).value.Holding duo.lead.address ((sent + 1) * duo.step)
        first ∧
      (tail.tick (round * duo.step) none).transmit = [] ∧ tail.Plays (round * duo.step) [] := by
  have timing : tail.timing = duo.lead.timing :=
    (congrArg Config.timing tails).trans duo.timing_tail
  have address : tail.address = duo.tail.address := congrArg Config.address tails
  have foreign := duo.foreign tails
  have order : (sent + 1) * duo.step ≤ round * duo.step := Nat.mul_le_mul_right _ past
  have inTime : round * duo.step < (sent + 1) * duo.step + duo.ptu := by
    have bound := Nat.mul_le_mul_right duo.step punctual
    have short := duo.period_mul_lt
    rw [Nat.add_mul] at bound
    rw [Nat.succ_mul]
    omega
  have patience : duo.ptu ≤ duo.lead.timing.slaveTimeout := Timing.ptu_le_slaveTimeout _ _
  have watched : round * duo.step < (sent + 1) * duo.step + duo.lead.timing.watchdog := by
    unfold Timing.watchdog Timing.watchdogPtus
    change _ < _ + duo.ptu * 8
    omega
  have early : (tail.timeBase.isDue tail.station (round * duo.step)).value = false := by
    cases candidate : duo.tail.options.syncMaster with
    | true =>
      refine holds.isDue_eq_of_lower _ ?_
      rw [address]
      exact (duo.elected candidate).2
    | false =>
      refine Node.isDue_eq_of_bystander (by rw [tails]; exact candidate) ?_
      rw [holds.held]
      exact fun same => foreign (Option.some.inj same)
  rw [← timing] at watched patience
  exact holds.play_of_silence (unheard_of_empty tail _) early order (.inr (by omega)) watched
    fun own => absurd own foreign

/-- A candidate that waits claims a lead before the end of its first period. -/
theorem claims_iff {node : Node} (waiting : node.Waiting 0)
    (candidate : node.config.options.syncMaster = true)
    (timing : node.timing = duo.lead.timing) :
    (node.timeBase.isDue node.station (round * duo.step)).value = true ↔
      duo.ptu ≤ round * duo.step + duo.lead.timing.preemptLead := by
  rw [waiting.isDue_iff _ candidate, timing, Nat.zero_add]
  rfl

section Phases

variable (leads : lead.config = duo.lead) (tails : tail.config = duo.tail)
include leads tails

/-- All candidates claim in the same round. -/
theorem together_of_claim (leadWaits : lead.Waiting 0) (tailWaits : tail.Waiting 0)
    (patient : duo.Patient round) (candidate : duo.lead.options.syncMaster = true)
    (due : duo.ptu ≤ round * duo.step + duo.lead.timing.preemptLead) :
    duo.Together round lead tail [] [] := by
  have early : round < duo.period := by
    have pace := duo.pace
    have bound := duo.ptu_le_iff round
    have before := patient candidate
    omega
  have none_yet (node : Node) : (node.tick (round * duo.step) none).transmit ≠ [] →
      duo.period ≤ round → node.Synced ((round - duo.period) * duo.step) := by
    intro _ old
    omega
  have leadTiming : lead.timing = duo.lead.timing := congrArg Config.timing leads
  have tailTiming : tail.timing = duo.lead.timing :=
    (congrArg Config.timing tails).trans duo.timing_tail
  have leadDue := (claims_iff leadWaits (by rw [leads]; exact candidate) leadTiming).mpr due
  obtain ⟨leadHolds, ⟨counter, leadSent⟩, leadPlays⟩ := leadWaits.play_of_claim leadDue
  have leadAddress : lead.address = duo.lead.address := congrArg Config.address leads
  rw [leadAddress] at leadHolds leadSent
  cases stands : duo.tail.options.syncMaster with
  | true =>
    have tailDue := (claims_iff tailWaits (by rw [tails]; exact stands) tailTiming).mpr due
    obtain ⟨tailHolds, ⟨tailCounter, tailSent⟩, tailPlays⟩ := tailWaits.play_of_claim tailDue
    have tailAddress : tail.address = duo.tail.address := congrArg Config.address tails
    rw [tailAddress] at tailHolds tailSent
    exact ⟨turned_of_empty leadPlays (none_yet lead), turned_of_empty tailPlays (none_yet tail),
      .struck round rfl leadHolds
        (.inr ⟨tailHolds, (duo.elected stands).2, tailCounter, tailSent⟩) ⟨counter, leadSent⟩⟩
  | false =>
    obtain ⟨same, tailUnsent, tailPlays⟩ :=
      tailWaits.play_of_silence (tailWaits.isDue_eq_of_bystander (by rw [tails]; exact stands))
    refine ⟨turned_of_empty leadPlays (none_yet lead), turned_of_empty tailPlays (none_yet tail),
      .struck round rfl leadHolds (.inl ⟨?_, tailUnsent⟩) ⟨counter, leadSent⟩⟩
    show (tail.tick (round * duo.step) none).value.Waiting 0
    rw [same]
    exact tailWaits

/-- Nobody claims yet. The tail claims with the lead or not at all. -/
theorem together_of_patience (leadWaits : lead.Waiting 0) (tailWaits : tail.Waiting 0)
    (running : duo.lead.options.syncMaster = true →
      round * duo.step + duo.lead.timing.preemptLead < duo.ptu) :
    duo.Together round lead tail [] [] := by
  have early (node : Node) (waiting : node.Waiting 0) (timing : node.timing = duo.lead.timing)
      (led : node.config.options.syncMaster = true → duo.lead.options.syncMaster = true) :
      (node.timeBase.isDue node.station (round * duo.step)).value = false := by
    cases candidate : node.config.options.syncMaster with
    | false => exact waiting.isDue_eq_of_bystander candidate
    | true =>
      rw [← Bool.not_eq_true, claims_iff waiting candidate timing]
      exact Nat.not_le.mpr (running (led candidate))
  obtain ⟨leadSame, leadUnsent, leadPlays⟩ :=
    leadWaits.play_of_silence
      (early lead leadWaits (congrArg Config.timing leads) (by rw [leads]; exact id))
  obtain ⟨tailSame, tailUnsent, tailPlays⟩ :=
    tailWaits.play_of_silence
      (early tail tailWaits ((congrArg Config.timing tails).trans duo.timing_tail)
        (by rw [tails]; exact fun candidate => (duo.elected candidate).1))
  refine ⟨turned_of_silence leadPlays rfl nofun leadUnsent,
    turned_of_silence tailPlays rfl nofun tailUnsent, .quiet ?_ ?_ tailUnsent leadUnsent ?_⟩
  · show (lead.tick (round * duo.step) none).value.Waiting 0
    rw [leadSame]
    exact leadWaits
  · show (tail.tick (round * duo.step) none).value.Waiting 0
    rw [tailSame]
    exact tailWaits
  · intro candidate
    have later : (round + 1) * duo.step = round * duo.step + duo.step := Nat.succ_mul _ _
    have before := running candidate
    omega

theorem together_of_quiet (leadWaits : lead.Waiting 0) (tailWaits : tail.Waiting 0)
    (patient : duo.Patient round) : duo.Together round lead tail [] [] := by
  by_cases due : duo.lead.options.syncMaster = true ∧
      duo.ptu ≤ round * duo.step + duo.lead.timing.preemptLead
  · exact together_of_claim leads tails leadWaits tailWaits patient due.1 due.2
  · exact together_of_patience leads tails leadWaits tailWaits
      fun candidate => Nat.lt_of_not_le fun elapsed => due ⟨candidate, elapsed⟩

theorem together_of_struck (sent : Nat) (next : round = sent + 1)
    (leadHolds : lead.Holding duo.lead.address (sent * duo.step) (sent * duo.step))
    (tailStands : tail.Waiting 0 ∧ leadBox = [] ∨
      tail.Holding duo.tail.address (sent * duo.step) (sent * duo.step) ∧
        duo.lead.address < duo.tail.address ∧
        ∃ counter, leadBox = [Frame.sync duo.tail.address counter])
    (reached : ∃ counter, tailBox = [Frame.sync duo.lead.address counter]) :
    duo.Together round lead tail leadBox tailBox := by
  obtain ⟨counter, rfl⟩ := reached
  have long := duo.two_lt_period
  have foreign := duo.foreign tails
  have sync (source : UInt8) (counter : Nat) :
      ∀ frame ∈ [Frame.sync source counter].head?, frame.id.control? = some .sync := by
    rintro frame ⟨⟩
    exact Frame.isSync_sync source counter
  obtain ⟨unheard, single, syncs⟩ :
      (lead.receive? (round * duo.step) leadBox.head?).value = lead ∧ leadBox.tail = [] ∧
        ∀ frame ∈ leadBox.head?, frame.id.control? = some .sync := by
    obtain ⟨_, rfl⟩ | ⟨_, lower, tailCounter, rfl⟩ := tailStands
    · exact ⟨rfl, rfl, nofun⟩
    · refine ⟨leadHolds.ignore _ tailCounter ?_ lower, rfl, sync _ _⟩
      rw [show lead.address = duo.lead.address from congrArg Config.address leads]
      exact duo.distinct.symm
  obtain ⟨leadStill, leadUnsent, leadPlays⟩ :=
    lead_rests leads leadHolds unheard (by omega) (by omega)
  obtain ⟨tailFirst, tailHeard, tailUnsent, tailPlays⟩ : ∃ tailFirst,
      (tail.tick (round * duo.step) (some (Frame.sync duo.lead.address counter))).value.Holding
          duo.lead.address (round * duo.step) tailFirst ∧
        (tail.tick (round * duo.step) (some (Frame.sync duo.lead.address counter))).transmit = [] ∧
        tail.Plays (round * duo.step) [Frame.sync duo.lead.address counter] := by
    obtain ⟨waiting, _⟩ | ⟨holding, lower, _⟩ := tailStands
    · exact ⟨_, Node.play_of_sync waiting.synchronizes foreign (waiting.hear _ counter foreign)⟩
    · exact ⟨_, Node.play_of_sync holding.synchronizes foreign
        (holding.hear _ counter foreign (UInt8.le_of_lt lower))⟩
  refine ⟨turned_of_silence leadPlays single syncs leadUnsent,
    turned_of_silence tailPlays rfl (sync _ _) tailUnsent,
    .led sent round (sent * duo.step) tailFirst (by omega) (by omega) leadStill tailHeard ?_
      (.inl ⟨?_, next⟩)⟩
  · rw [single, List.nil_append]
    exact tailUnsent
  · exact leadUnsent

/-- The sync of the lead is heard. -/
theorem together_of_heard (sent heard first tailFirst : Nat) (next : round = sent + 1)
    (leadHolds : lead.Holding duo.lead.address (sent * duo.step) first)
    (tailHolds : tail.Holding duo.lead.address (heard * duo.step) tailFirst) (counter : Nat) :
    duo.Together round lead tail [] [Frame.sync duo.lead.address counter] := by
  have long := duo.two_lt_period
  have foreign := duo.foreign tails
  have sync : ∀ frame ∈ [Frame.sync duo.lead.address counter].head?,
      frame.id.control? = some .sync := by
    rintro frame ⟨⟩
    exact Frame.isSync_sync _ counter
  have past : sent < round := by omega
  obtain ⟨leadStill, leadUnsent, leadPlays⟩ :=
    lead_rests leads leadHolds (unheard_of_empty _ _) past (by omega)
  obtain ⟨tailHeard, tailUnsent, tailPlays⟩ :=
    Node.play_of_sync tailHolds.synchronizes foreign
      (tailHolds.hear (round * duo.step) counter foreign (UInt8.le_refl _))
  exact ⟨turned_of_silence leadPlays rfl nofun leadUnsent,
    turned_of_silence tailPlays rfl sync tailUnsent,
    .led sent round first tailFirst (by omega) (by omega) leadStill tailHeard tailUnsent
      (.inl ⟨leadUnsent, next⟩)⟩

/-- No sync is on its way, and the lead sends one if it is due. -/
theorem together_of_led (sent first tailFirst : Nat) (past : sent < round)
    (punctual : round ≤ sent + duo.period)
    (leadHolds : lead.Holding duo.lead.address (sent * duo.step) first)
    (tailHolds : tail.Holding duo.lead.address ((sent + 1) * duo.step) tailFirst) :
    duo.Together round lead tail [] [] := by
  have long := duo.two_lt_period
  obtain ⟨tailStill, tailUnsent, tailPlays⟩ := tail_rests tails tailHolds past punctual
  by_cases due : sent + duo.period ≤ round
  · obtain ⟨beaten, ⟨counter, leadSent⟩, leadPlays⟩ := lead_beats leads leadHolds due
    refine ⟨turned_of_empty leadPlays ?_, turned_of_silence tailPlays rfl nofun tailUnsent,
      .led round (sent + 1) first tailFirst (by omega) (by omega) beaten tailStill tailUnsent
        (.inr ⟨rfl, counter, leadSent⟩)⟩
    intro _ _
    have before : round - duo.period = sent := by omega
    have address : lead.address = duo.lead.address := congrArg Config.address leads
    rw [before]
    exact (leadHolds.synced_iff _).mpr ⟨address.symm, rfl⟩
  · obtain ⟨leadStill, leadUnsent, leadPlays⟩ :=
      lead_rests leads leadHolds (unheard_of_empty _ _) past (by omega)
    exact ⟨turned_of_silence leadPlays rfl nofun leadUnsent,
      turned_of_silence tailPlays rfl nofun tailUnsent,
      .led sent (sent + 1) first tailFirst (by omega) (by omega) leadStill tailStill tailUnsent
        (.inl ⟨leadUnsent, rfl⟩)⟩

end Phases

/-- One round leads from phase to phase. -/
theorem Concert.together (concert : duo.Concert round lead tail leadBox tailBox) :
    duo.Together round lead tail leadBox tailBox := by
  obtain ⟨leads, tails, phase⟩ := concert
  cases phase with
  | off zero leadOff tailOff leadIdle tailIdle leadEmpty tailEmpty =>
    subst leadEmpty tailEmpty
    exact together_of_off zero leadOff tailOff leadIdle tailIdle
  | quiet leadWaits tailWaits leadEmpty tailEmpty patient =>
    subst leadEmpty tailEmpty
    exact together_of_quiet leads tails leadWaits tailWaits patient
  | struck sent next leadHolds tailStands reached =>
    exact together_of_struck leads tails sent next leadHolds tailStands reached
  | led sent heard first tailFirst past punctual leadHolds tailHolds leadEmpty box =>
    subst leadEmpty
    obtain ⟨rfl, rfl⟩ | ⟨next, counter, rfl⟩ := box
    · exact together_of_led leads tails sent first tailFirst past punctual leadHolds tailHolds
    · exact together_of_heard leads tails sent heard first tailFirst next leadHolds tailHolds
        counter

/-- Two nodes in concert, whichever of them leads. -/
def InConcert (duo : Duo) (round : Nat) (one other : Node) (oneBox otherBox : List Frame) : Prop :=
  duo.Concert round one other oneBox otherBox ∨ duo.Concert round other one otherBox oneBox

variable {one other : Node} {oneBox otherBox : List Frame}

theorem Concert.next (concert : duo.Concert round lead tail leadBox tailBox) :
    duo.Concert (round + 1) (lead.tick (round * duo.step) leadBox.head?).value
      (tail.tick (round * duo.step) tailBox.head?).value
      (leadBox.tail ++ (tail.tick (round * duo.step) tailBox.head?).transmit)
      (tailBox.tail ++ (lead.tick (round * duo.step) leadBox.head?).transmit) where
  leads := ((Node.configured_stages _).tick lead _).trans concert.leads
  tails := ((Node.configured_stages _).tick tail _).trans concert.tails
  phase := concert.together.next

theorem InConcert.symm (concert : duo.InConcert round one other oneBox otherBox) :
    duo.InConcert round other one otherBox oneBox := Or.symm concert

theorem InConcert.turned (concert : duo.InConcert round one other oneBox otherBox) :
    duo.Turned round one oneBox otherBox := by
  cases concert with
  | inl leading => exact leading.together.leads
  | inr following => exact following.together.tails

/-- Rounds keep two nodes in concert. -/
theorem InConcert.next (concert : duo.InConcert round one other oneBox otherBox) :
    duo.InConcert (round + 1) (one.tick (round * duo.step) oneBox.head?).value
      (other.tick (round * duo.step) otherBox.head?).value
      (oneBox.tail ++ (other.tick (round * duo.step) otherBox.head?).transmit)
      (otherBox.tail ++ (one.tick (round * duo.step) oneBox.head?).transmit) := by
  cases concert with
  | inl leading => exact .inl leading.next
  | inr following => exact .inr following.next

/-- After the first round both are on. -/
theorem InConcert.synchronizes (concert : duo.InConcert round one other oneBox otherBox)
    (on : 0 < round) : one.Synchronizes := by
  cases concert with
  | inl leading =>
    cases leading.phase with
    | off zero => omega
    | quiet leadWaits => exact leadWaits.synchronizes
    | struck sent next leadHolds => exact leadHolds.synchronizes
    | led sent heard first tailFirst past punctual leadHolds => exact leadHolds.synchronizes
  | inr following =>
    cases following.phase with
    | off zero => omega
    | quiet leadWaits tailWaits => exact tailWaits.synchronizes
    | struck sent next leadHolds tailStands =>
      obtain ⟨waiting, -⟩ | ⟨holding, -⟩ := tailStands
      · exact waiting.synchronizes
      · exact holding.synchronizes
    | led sent heard first tailFirst past punctual leadHolds tailHolds =>
      exact tailHolds.synchronizes

theorem InConcert.timing (concert : duo.InConcert round one other oneBox otherBox) :
    one.timing = duo.lead.timing := by
  cases concert with
  | inl leading => exact congrArg Config.timing leading.leads
  | inr following => exact (congrArg Config.timing following.tails).trans duo.timing_tail

theorem InConcert.distinct (concert : duo.InConcert round one other oneBox otherBox) :
    one.address ≠ other.address := by
  have addresses {lead tail : Node} {leadBox tailBox : List Frame}
      (concert : duo.Concert round lead tail leadBox tailBox) : lead.address ≠ tail.address := by
    have address : lead.address = duo.lead.address := congrArg Config.address concert.leads
    rw [address]
    exact duo.foreign concert.tails
  cases concert with
  | inl leading => exact addresses leading
  | inr following => exact (addresses following).symm

/-- Two nodes of one network are in concert before the first round, whichever they are. -/
theorem exists_inConcert (one other : Config) (step : Nat) (distinct : one.address ≠ other.address)
    (bitrate : one.bitrate = other.bitrate) (frequency : one.frequency = other.frequency)
    (positive : 0 < step) (pace : step ≤ one.timing.preemptLead) :
    ∃ duo : Duo, duo.step = step ∧
      duo.InConcert 0 (Node.start one 0).value (Node.start other 0).value [] [] := by
  by_cases yields : other.options.syncMaster = true ∧
      (one.options.syncMaster = true → other.address < one.address)
  · have timing : other.timing = one.timing := by
      unfold Config.timing
      rw [bitrate, frequency]
    let duo : Duo :=
      { lead := other
        tail := one
        step
        distinct := distinct.symm
        bitrate := bitrate.symm
        frequency := frequency.symm
        positive
        pace := by rw [timing]; exact pace
        elected := fun candidate => ⟨yields.1, yields.2 candidate⟩ }
    exact ⟨duo, rfl, .inr ⟨rfl, rfl, .off rfl rfl rfl rfl rfl rfl rfl⟩⟩
  · have elected (candidate : other.options.syncMaster = true) :
        one.options.syncMaster = true ∧ one.address < other.address := by
      obtain ⟨stands, stronger⟩ := Classical.not_imp.mp fun weaker => yields ⟨candidate, weaker⟩
      have order : one.address ≤ other.address := UInt8.not_lt.mp stronger
      exact ⟨stands, UInt8.lt_of_le_of_ne order distinct⟩
    let duo : Duo :=
      { lead := one
        tail := other
        step
        distinct
        bitrate
        frequency
        positive
        pace
        elected }
    exact ⟨duo, rfl, .inl ⟨rfl, rfl, .off rfl rfl rfl rfl rfl rfl rfl⟩⟩

end Duo

end VehicleBus
