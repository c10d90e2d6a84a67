import VehicleBus.Network
import VehicleBus.Proofs.Node.Stance

/-!
A candidate on the bus whose application asks for nothing, in rounds that are not longer
than the lead of a claim. Between rounds it is early, that is off the bus or still without
its first master, or it holds a master; what a round makes of either depends on the frame
that it finds in its inbox and on whether a sync of its own is due.

All bounds are instants. A deadline is noticed in the first round at or after it, so
every bound on what a round finds is a step later than the deadline.
-/
namespace VehicleBus

/-- A candidate and the instant at which it enters the bus. -/
structure Contender where
  config : Config
  start : Nat
  candidate : config.options.syncMaster = true

namespace Contender

/-- The contender before the first round. -/
def member (contender : Contender) : Member where
  node := (Node.start contender.config contender.start).value
  start := contender.start

def address (contender : Contender) : UInt8 := contender.config.address

def timing (contender : Contender) : Timing := contender.config.timing

variable (contender : Contender)

theorem ptu_pos : 0 < contender.timing.ptu := Timing.ptu_pos _ _

theorem lead_lt_ptu : contender.timing.preemptLead < contender.timing.ptu :=
  Timing.preemptLead_lt_ptu _ _

theorem ptu_le_patience : contender.timing.ptu ≤ contender.timing.slaveTimeout :=
  Timing.ptu_le_slaveTimeout _ _

end Contender

namespace Member

/-- The member is a contender, with no plan but to stay. -/
structure Contends (member : Member) (contender : Contender) : Prop where
  config : member.node.config = contender.config
  start : member.start = contender.start
  stop : member.stop = none
  enterAt : member.enterAt = none
  exitAt : member.exitAt = none

/-- A contender is one before the first round. -/
theorem contends_start (contender : Contender) : contender.member.Contends contender :=
  ⟨rfl, rfl, rfl, rfl, rfl⟩

namespace Contends

variable {member : Member} {contender : Contender} {now : Nat}

theorem address (contends : member.Contends contender) :
    member.node.address = contender.address :=
  congrArg Config.address contends.config

theorem timing (contends : member.Contends contender) : member.node.timing = contender.timing :=
  congrArg Config.timing contends.config

theorem candidate (contends : member.Contends contender) :
    member.node.config.options.syncMaster = true := by
  rw [contends.config]
  exact contender.candidate

theorem live_iff (contends : member.Contends contender) :
    member.live now = true ↔ contender.start ≤ now := by
  simp [live, contends.start, contends.stop]

theorem act_eq (contends : member.Contends contender) : member.act now = member.tick now := by
  simp [act, requestEnter, requestExit, reached, contends.enterAt, contends.exitAt]

theorem turn_of_absent (contends : member.Contends contender) (absent : now < contender.start) :
    member.turn now = pure member := by
  have off : ¬ member.live now = true := by
    rw [contends.live_iff]
    omega
  rw [turn, if_neg off]

/-- In a round of its own a contender handles the oldest frame, if there is one, and ticks. -/
theorem turn_of_live (contends : member.Contends contender) (live : contender.start ≤ now) :
    (member.turn now).value =
        { member with
          node := (member.node.tick now member.inbox.head?).value
          inbox := member.inbox.tail } ∧
      (member.turn now).transmit = (member.node.tick now member.inbox.head?).transmit := by
  rw [turn, if_pos (contends.live_iff.mpr live), contends.act_eq]
  constructor
  · rfl
  · exact List.append_nil _

theorem turn (contends : member.Contends contender) (now : Nat) :
    (member.turn now).value.Contends contender := by
  by_cases live : contender.start ≤ now
  · rw [(contends.turn_of_live live).1]
    have config := (Node.configured_stages now).tick member.node member.inbox.head?
    exact ⟨config.trans contends.config, contends.start, contends.stop, contends.enterAt,
      contends.exitAt⟩
  · rw [contends.turn_of_absent (Nat.lt_of_not_le live)]
    exact contends

/-- For a node that is on, the round is what it makes of the frame, and then its timers. -/
theorem turn_of_synchronizes (contends : member.Contends contender) (live : contender.start ≤ now)
    (mode : member.node.Synchronizes) :
    let ready := (member.node.receive? now member.inbox.head?).value
    (member.turn now).value.node = (ready.runTimers now).value ∧
      (member.turn now).value.inbox = member.inbox.tail ∧
      (member.turn now).transmit = (ready.runTimers now).transmit := by
  obtain ⟨value, transmit⟩ := contends.turn_of_live live
  rw [value, transmit]
  exact ⟨Node.value_tick mode _, rfl, Node.transmit_tick_of_synchronizes mode _⟩

theorem deliver (contends : member.Contends contender) (now : Nat) (frames : List Frame) :
    (member.deliver now frames).Contends contender := by
  unfold Member.deliver
  split
  · exact ⟨contends.config, contends.start, contends.stop, contends.enterAt, contends.exitAt⟩
  · exact contends

theorem inbox_deliver (contends : member.Contends contender) (frames : List Frame) :
    (member.deliver now frames).inbox =
      if contender.start ≤ now then member.inbox ++ frames else member.inbox := by
  unfold Member.deliver
  by_cases live : contender.start ≤ now
  · rw [if_pos (contends.live_iff.mpr live), if_pos live]
  · rw [if_neg fun on => live (contends.live_iff.mp on), if_neg live]

end Contends

end Member

/-- Before its first master: still off the bus, or waiting since its first round. -/
inductive Early (contender : Contender) (step now : Nat) (node : Node) : Prop
  | off (mode : node.mode = .powerOff) (idle : node.enterRequest.pending = false)
    (absent : now < contender.start + step)
  | waiting (since : Nat) (waiting : node.Waiting since) (started : contender.start ≤ since)
    (soon : since < contender.start + step) (past : since < now)
    (patient : now + contender.timing.preemptLead < since + contender.timing.ptu + step)

/-- With a master, its own address or another, whose syncs come on time. -/
structure Holds (contender : Contender) (step now : Nat) (master : UInt8) (latest first : Nat)
    (node : Node) : Prop where
  holding : node.Holding master latest first
  judged : node.mode = .operational ∨
    now < first + contender.timing.slaveTimeout + step
  started : contender.start ≤ first
  soon : first < contender.start + contender.timing.ptu + step
  ordered : first ≤ latest
  past : latest < now
  punctual : now < latest + contender.timing.ptu + step

namespace Member.Contends

variable {member : Member} {contender : Contender} {step now latest first : Nat} {master : UInt8}

/-- Where a round leaves a contender that holds a master after its timers. -/
theorem holds_turn (contends : member.Contends contender) (positive : 0 < step)
    (timers : (member.turn now).value.node.Holding master latest first ∧
      (member.turn now).value.node.Judged first now)
    (started : contender.start ≤ first)
    (soon : first < contender.start + contender.timing.ptu + step) (ordered : first ≤ latest)
    (past : latest ≤ now) (punctual : now < latest + contender.timing.ptu) :
    Holds contender step (now + step) master latest first (member.turn now).value.node := by
  obtain ⟨holding, judged⟩ := timers
  have timing := (contends.turn now).timing
  refine ⟨holding, ?_, started, soon, ordered, by omega, by omega⟩
  cases judged with
  | inl promoted => exact .inl promoted
  | inr early =>
    right
    rw [timing] at early
    omega

end Member.Contends

variable {node : Node} {member : Member} {contender : Contender} {step now latest first : Nat}
  {master : UInt8}

theorem Holds.live (holds : Holds contender step now master latest first node) :
    contender.start ≤ now := by
  have started := holds.started
  have ordered := holds.ordered
  have past := holds.past
  omega

/-- A master that is held for long enough has promoted its node. -/
theorem Holds.promoted (holds : Holds contender step now master latest first node)
    (late : contender.start + 4 * contender.timing.ptu + 2 * step ≤ now) :
    node.mode = .operational ∧ node.timeBase.master = some master := by
  refine ⟨?_, holds.holding.held⟩
  cases holds.judged with
  | inl promoted => exact promoted
  | inr early =>
    have soon := holds.soon
    have patience : contender.timing.slaveTimeout ≤ 3 * contender.timing.ptu :=
      contender.config.slaveTimeout_le
    omega

theorem Early.soon (early : Early contender step now node) :
    now < contender.start + contender.timing.ptu + 2 * step := by
  cases early with
  | off _ _ absent => omega
  | waiting since _ _ soon _ patient => omega

section Turns

variable (contends : member.Contends contender) (positive : 0 < step)
include contends positive

/-- What a sync makes of the node is what the round makes of it: nothing is due then. -/
theorem holds_of_heard {frame : Frame} (live : contender.start ≤ now)
    (mode : member.node.Synchronizes) (inbox : member.inbox = [frame])
    (heard : (member.node.receive now frame).value.Holding master now first)
    (started : contender.start ≤ first)
    (soon : first < contender.start + contender.timing.ptu + step) (ordered : first ≤ now) :
    Holds contender step (now + step) master now first (member.turn now).value.node ∧
      (member.turn now).value.inbox = [] ∧ (member.turn now).transmit = [] := by
  obtain ⟨node, rest, transmit⟩ := contends.turn_of_synchronizes live mode
  rw [inbox] at node rest transmit
  obtain ⟨holding, judged, unsent⟩ := heard.runTimers_of_heard
  have timers : (member.turn now).value.node.Holding master now first ∧
      (member.turn now).value.node.Judged first now := by
    rw [node]
    exact ⟨holding, judged⟩
  have punctual : now < now + contender.timing.ptu := by
    have period := contender.ptu_pos
    omega
  refine ⟨?_, rest, transmit.trans unsent⟩
  exact contends.holds_turn positive timers started soon ordered (Nat.le_refl now) punctual

theorem Holds.hear (holds : Holds contender step now master latest first member.node)
    {source : UInt8} {counter : Nat} (foreign : source ≠ contender.address)
    (low : source ≤ master) (inbox : member.inbox = [Frame.sync source counter]) :
    Holds contender step (now + step) source now first (member.turn now).value.node ∧
      (member.turn now).value.inbox = [] ∧ (member.turn now).transmit = [] := by
  have heard := holds.holding.hear now counter (by rwa [contends.address]) low
  have ordered := holds.ordered
  have past := holds.past
  exact holds_of_heard contends positive holds.live holds.holding.synchronizes inbox heard
    holds.started holds.soon (by omega)

/-- A sync that reaches a contender that was on the bus one round ago decides its first
election. -/
theorem Early.hear (early : Early contender step now member.node)
    (reached : contender.start + step ≤ now)
    {source : UInt8} {counter : Nat} (foreign : source ≠ contender.address)
    (inbox : member.inbox = [Frame.sync source counter])
    (pace : step ≤ contender.timing.preemptLead) :
    Holds contender step (now + step) source now now (member.turn now).value.node ∧
      (member.turn now).value.inbox = [] ∧ (member.turn now).transmit = [] := by
  cases early with
  | off _ _ absent => omega
  | waiting since waiting started soon past patient =>
    have heard := waiting.hear now counter (by rwa [contends.address])
    have lead := contender.lead_lt_ptu
    exact holds_of_heard contends positive (by omega) waiting.synchronizes inbox heard (by omega)
      (by omega) (Nat.le_refl now)

section Unheard

variable (unheard : (member.node.receive? now member.inbox.head?).value = member.node)
include unheard

theorem holds_of_silence (holds : Holds contender step now master latest first member.node)
    (early : (member.node.timeBase.isDue member.node.station now).value = false)
    (punctual : now < latest + contender.timing.ptu) :
    Holds contender step (now + step) master latest first (member.turn now).value.node ∧
      (member.turn now).value.inbox = member.inbox.tail ∧ (member.turn now).transmit = [] := by
  obtain ⟨node, rest, transmit⟩ :=
    contends.turn_of_synchronizes holds.live holds.holding.synchronizes
  rw [unheard] at node transmit
  have past : latest ≤ now := Nat.le_of_lt holds.past
  have patience := contender.ptu_le_patience
  have timing := contends.timing
  have watched : now < latest + member.node.timing.watchdog := by
    rw [timing]
    unfold Timing.watchdog Timing.watchdogPtus
    omega
  have heard : master = member.node.address ∨
      now < latest + member.node.timing.slaveTimeout := by
    right
    rw [timing]
    omega
  obtain ⟨holding, judged, unsent⟩ :=
    holds.holding.runTimers_of_not_due early past heard watched
  have timers : (member.turn now).value.node.Holding master latest first ∧
      (member.turn now).value.node.Judged first now := by
    rw [node]
    exact ⟨holding, judged⟩
  refine ⟨?_, rest, transmit.trans unsent⟩
  exact contends.holds_turn positive timers holds.started holds.soon holds.ordered past punctual

theorem holds_of_beat (holds : Holds contender step now master latest first member.node)
    (due : (member.node.timeBase.isDue member.node.station now).value = true) :
    Holds contender step (now + step) contender.address now first (member.turn now).value.node ∧
      (member.turn now).value.inbox = member.inbox.tail ∧
      ∃ counter, (member.turn now).transmit = [Frame.sync contender.address counter] := by
  obtain ⟨node, rest, transmit⟩ :=
    contends.turn_of_synchronizes holds.live holds.holding.synchronizes
  rw [unheard] at node transmit
  obtain ⟨holding, judged, counter, sent⟩ := holds.holding.runTimers_of_due due
  rw [contends.address] at holding sent
  have timers : (member.turn now).value.node.Holding contender.address now first ∧
      (member.turn now).value.node.Judged first now := by
    rw [node]
    exact ⟨holding, judged⟩
  have period := contender.ptu_pos
  have ordered : first ≤ now := Nat.le_trans holds.ordered (Nat.le_of_lt holds.past)
  refine ⟨?_, rest, counter, transmit.trans sent⟩
  exact contends.holds_turn positive timers holds.started holds.soon ordered (Nat.le_refl now)
    (by omega)

end Unheard

/-- A contender that is master itself sends its next sync when its period is over. -/
theorem Holds.lead (holds : Holds contender step now contender.address latest first member.node)
    (weaker : ∀ frame ∈ member.inbox, ∃ source counter,
      frame = Frame.sync source counter ∧ contender.address < source) :
    (member.turn now).value.inbox = member.inbox.tail ∧
      ((now < latest + contender.timing.ptu ∧
          Holds contender step (now + step) contender.address latest first
            (member.turn now).value.node ∧
          (member.turn now).transmit = []) ∨
        (latest + contender.timing.ptu ≤ now ∧
          Holds contender step (now + step) contender.address now first
            (member.turn now).value.node ∧
          ∃ counter, (member.turn now).transmit = [Frame.sync contender.address counter])) := by
  have unheard : (member.node.receive? now member.inbox.head?).value = member.node := by
    cases inbox : member.inbox with
    | nil => rfl
    | cons frame rest =>
      obtain ⟨source, counter, sync, higher⟩ := weaker frame (by simp [inbox])
      have foreign : source ≠ member.node.address := by
        rw [contends.address]
        exact (UInt8.ne_of_lt higher).symm
      rw [sync]
      exact holds.holding.ignore now counter foreign higher
  have own : member.node.Holding member.node.address latest first := by
    rw [contends.address]
    exact holds.holding
  have iff := own.isDue_iff_of_own now
  rw [contends.timing] at iff
  cases due : (member.node.timeBase.isDue member.node.station now).value with
  | true =>
    obtain ⟨beaten, rest, sent⟩ := holds_of_beat contends positive unheard holds due
    exact ⟨rest, .inr ⟨iff.mp due, beaten, sent⟩⟩
  | false =>
    have running : now < latest + contender.timing.ptu := by
      rw [due] at iff
      simpa using iff
    obtain ⟨still, rest, unsent⟩ := holds_of_silence contends positive unheard holds due running
    exact ⟨rest, .inl ⟨running, still, unsent⟩⟩

/-- A contender takes over from a higher address a lead before the end of its period. -/
theorem Holds.overtake (holds : Holds contender step now master latest first member.node)
    (higher : contender.address < master) (inbox : member.inbox = []) :
    (member.turn now).value.inbox = [] ∧
      ((now + contender.timing.preemptLead < latest + contender.timing.ptu ∧
          Holds contender step (now + step) master latest first (member.turn now).value.node ∧
          (member.turn now).transmit = []) ∨
        (Holds contender step (now + step) contender.address now first
            (member.turn now).value.node ∧
          ∃ counter, (member.turn now).transmit = [Frame.sync contender.address counter])) := by
  have unheard : (member.node.receive? now member.inbox.head?).value = member.node := by
    rw [inbox]
    rfl
  have tail : member.inbox.tail = [] := by rw [inbox, List.tail_nil]
  have iff := holds.holding.isDue_iff_of_higher now (by rwa [contends.address]) contends.candidate
  rw [contends.timing] at iff
  cases due : (member.node.timeBase.isDue member.node.station now).value with
  | true =>
    obtain ⟨beaten, rest, sent⟩ := holds_of_beat contends positive unheard holds due
    exact ⟨rest.trans tail, .inr ⟨beaten, sent⟩⟩
  | false =>
    have running : now + contender.timing.preemptLead < latest + contender.timing.ptu := by
      rw [due] at iff
      simpa using iff
    obtain ⟨still, rest, unsent⟩ :=
      holds_of_silence contends positive unheard holds due (by omega)
    exact ⟨rest.trans tail, .inl ⟨running, still, unsent⟩⟩

/-- A contender leaves the network to a lower address that keeps its period. -/
theorem Holds.obey (holds : Holds contender step now master latest first member.node)
    (lower : master < contender.address) (inbox : member.inbox = [])
    (punctual : now < latest + contender.timing.ptu) :
    Holds contender step (now + step) master latest first (member.turn now).value.node ∧
      (member.turn now).value.inbox = [] ∧ (member.turn now).transmit = [] := by
  have unheard : (member.node.receive? now member.inbox.head?).value = member.node := by
    rw [inbox]
    rfl
  have tail : member.inbox.tail = [] := by rw [inbox, List.tail_nil]
  have early := holds.holding.isDue_eq_of_lower now (by rwa [contends.address])
  obtain ⟨still, rest, unsent⟩ := holds_of_silence contends positive unheard holds early punctual
  exact ⟨still, rest.trans tail, unsent⟩

/-- The first round on the bus opens the election. -/
theorem Early.enter (mode : member.node.mode = .powerOff)
    (idle : member.node.enterRequest.pending = false) (live : contender.start ≤ now)
    (absent : now < contender.start + step) (inbox : member.inbox = []) :
    (member.turn now).value.inbox = [] ∧
      Early contender step (now + step) (member.turn now).value.node ∧
      (member.turn now).transmit = [] := by
  obtain ⟨value, transmit⟩ := contends.turn_of_live live
  rw [inbox] at value transmit
  have woken := Node.waiting_wake now mode idle
  have lead := contender.lead_lt_ptu
  have early := Node.not_due_of_fresh (member.node.wake now).value now woken.due
  obtain ⟨same, unsent⟩ := woken.runTimers_of_not_due early
  have node : (member.turn now).value.node = (member.node.wake now).value := by
    rw [value]
    exact same
  refine ⟨by rw [value]; rfl, ?_, ?_⟩
  · exact .waiting now (by rwa [node]) live absent (by omega) (by omega)
  · rw [transmit, Node.transmit_tick]
    exact unsent

/-- A contender that hears nothing either stays early or makes itself master. -/
theorem Early.turn (early : Early contender step now member.node)
    (pace : step ≤ contender.timing.preemptLead) (inbox : member.inbox = []) :
    (member.turn now).value.inbox = [] ∧
      ((Early contender step (now + step) (member.turn now).value.node ∧
          (member.turn now).transmit = []) ∨
        (Holds contender step (now + step) contender.address now now (member.turn now).value.node ∧
          ∃ counter, (member.turn now).transmit = [Frame.sync contender.address counter])) := by
  cases early with
  | off mode idle absent =>
    by_cases live : contender.start ≤ now
    · obtain ⟨rest, early, unsent⟩ :=
        Early.enter contends positive mode idle live absent inbox
      exact ⟨rest, .inl ⟨early, unsent⟩⟩
    · rw [contends.turn_of_absent (Nat.lt_of_not_le live)]
      exact ⟨inbox, .inl ⟨.off mode idle (by omega), rfl⟩⟩
  | waiting since waiting started soon past patient =>
    have live : contender.start ≤ now := by omega
    have lead := contender.lead_lt_ptu
    obtain ⟨node, rest, transmit⟩ := contends.turn_of_synchronizes live waiting.synchronizes
    rw [inbox] at node rest transmit
    have iff := waiting.isDue_iff now contends.candidate
    rw [contends.timing] at iff
    cases due : (member.node.timeBase.isDue member.node.station now).value with
    | true =>
      obtain ⟨holding, judged, counter, sent⟩ := waiting.runTimers_of_due due
      rw [contends.address] at holding sent
      have timers : (member.turn now).value.node.Holding contender.address now now ∧
          (member.turn now).value.node.Judged now now := by
        rw [node]
        exact ⟨holding, judged⟩
      refine ⟨rest, .inr ⟨?_, counter, transmit.trans sent⟩⟩
      exact contends.holds_turn positive timers live (by omega) (Nat.le_refl now)
        (Nat.le_refl now) (by omega)
    | false =>
      have patience : now + contender.timing.preemptLead < since + contender.timing.ptu := by
        rw [due] at iff
        simpa using iff
      obtain ⟨same, unsent⟩ := waiting.runTimers_of_not_due due
      have still : (member.turn now).value.node.Waiting since := by
        have unchanged : (member.turn now).value.node = member.node := node.trans same
        rw [unchanged]
        exact waiting
      exact ⟨rest, .inl ⟨.waiting since still started soon (by omega) (by omega),
        transmit.trans unsent⟩⟩

end Turns

end VehicleBus
