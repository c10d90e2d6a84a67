import Mathlib.Data.List.Basic
import VehicleBus.Proofs.Network.Contender

/-!
The election of two candidates. Whatever their starts and whoever comes first, the lower
address takes the network over and keeps it, and the higher one follows and falls silent.

The rounds are followed by the phase of the pair, which says who holds what and which
sync is on its way. The lead of a claim is what makes the phases close: it is shorter
than the period and no shorter than a step, so a claim of the lower address goes out
before, or together with, the next sync of the higher one, and never after it.
-/
namespace VehicleBus

/-- Two candidates of one network and the length of its rounds. -/
structure Contest where
  low : Contender
  high : Contender
  step : Nat
  ordered : low.address < high.address
  bitrate : low.config.bitrate = high.config.bitrate
  frequency : low.config.frequency = high.config.frequency
  positive : 0 < step
  pace : step ≤ low.timing.preemptLead

namespace Member

/-- The part of a member in a round of two. -/
def exchange (member other : Member) (now : Nat) : Member :=
  (member.turn now).value.deliver now (other.turn now).transmit

variable {member other : Member} {contender : Contender} {now : Nat}

theorem node_exchange : (member.exchange other now).node = (member.turn now).value.node := by
  unfold exchange deliver
  split <;> rfl

theorem Contends.exchange (contends : member.Contends contender) (other : Member) (now : Nat) :
    (member.exchange other now).Contends contender :=
  (contends.turn now).deliver now _

theorem Contends.inbox_exchange_of_live (contends : member.Contends contender)
    (live : contender.start ≤ now) :
    (member.exchange other now).inbox =
      (member.turn now).value.inbox ++ (other.turn now).transmit := by
  rw [Member.exchange, (contends.turn now).inbox_deliver, if_pos live]

theorem Contends.inbox_exchange_of_absent (contends : member.Contends contender)
    (absent : now < contender.start) :
    (member.exchange other now).inbox = (member.turn now).value.inbox := by
  rw [Member.exchange, (contends.turn now).inbox_deliver, if_neg (by omega)]

theorem Contends.inbox_exchange_of_silence (contends : member.Contends contender)
    (unsent : (other.turn now).transmit = []) :
    (member.exchange other now).inbox = (member.turn now).value.inbox := by
  by_cases live : contender.start ≤ now
  · rw [contends.inbox_exchange_of_live live, unsent, List.append_nil]
  · exact contends.inbox_exchange_of_absent (Nat.lt_of_not_le live)

theorem members_round_pair (first second : Member) (now : Nat) :
    (Network.round [first, second] now).members =
      [first.exchange second now, second.exchange first now] := by
  simp [Network.round, Network.wire, Network.reaching, exchange, List.filter_map,
    Function.comp_def, List.filter_true, List.filter_false]

theorem mem_log_pair (first second : Member) (now : Nat) (activity : Network.Activity)
    (logged : activity ∈ (Network.round [first, second] now).log) :
    activity = ⟨now, 0, (first.turn now).outbox⟩ ∨
      activity = ⟨now, 1, (second.turn now).outbox⟩ := by
  have told := (List.mem_filter.mp logged).1
  simpa using told

end Member

namespace Contest

variable (contest : Contest)

theorem timing_eq : contest.high.timing = contest.low.timing := by
  unfold Contender.timing Config.timing
  rw [contest.bitrate, contest.frequency]

/-- The first instant by which both candidates are on the bus. -/
def opening : Nat := max contest.low.start contest.high.start

/-- Nothing but syncs of the higher address. -/
def FromHigh (frames : List Frame) : Prop :=
  ∀ frame ∈ frames, ∃ counter, frame = Frame.sync contest.high.address counter

/-- The higher address did not hear of the lower one: it has no master, or is its own. -/
def Free (now : Nat) (high : Node) : Prop :=
  Early contest.high contest.step now high ∨ ∃ latest first,
    Holds contest.high contest.step now contest.high.address latest first high

/-- Who holds what at the start of a round, and which sync is on its way. -/
inductive Phase (now : Nat) (low high : Member) : Prop
  /-- Nobody sent a sync yet. -/
  | early (lowEarly : Early contest.low contest.step now low.node)
    (highEarly : Early contest.high contest.step now high.node)
    (lowInbox : low.inbox = []) (highInbox : high.inbox = [])
  /-- The higher address is master, and the lower one did not hear of it. -/
  | upper (latest first : Nat) (lowEarly : Early contest.low contest.step now low.node)
    (highHolds : Holds contest.high contest.step now contest.high.address latest first high.node)
    (highInbox : high.inbox = [])
    (lowInbox : low.inbox = [] ∨
      (now = latest + contest.step ∧ contest.low.start ≤ latest ∧
        ∃ counter, low.inbox = [Frame.sync contest.high.address counter]))
  /-- The higher address is master, and the lower one is about to take over. -/
  | crossing (latest first : Nat)
    (lowHolds : Holds contest.low contest.step now contest.high.address (latest + contest.step)
      (latest + contest.step) low.node)
    (highHolds : Holds contest.high contest.step now contest.high.address latest first high.node)
    (lowInbox : low.inbox = []) (highInbox : high.inbox = [])
    (patient : now + contest.low.timing.preemptLead <
      latest + contest.step + contest.low.timing.ptu + contest.step)
  /-- The lower address is master, and the higher one did not hear of it. -/
  | claimed (latest first : Nat)
    (lowHolds : Holds contest.low contest.step now contest.low.address latest first low.node)
    (lowInbox : contest.FromHigh low.inbox) (highFree : contest.Free now high.node)
    (highInbox : (high.inbox = [] ∧ latest < contest.high.start) ∨
      (now = latest + contest.step ∧ contest.high.start ≤ latest ∧
        latest < contest.opening + 2 * contest.low.timing.ptu + contest.step ∧
        ∃ counter, high.inbox = [Frame.sync contest.low.address counter]))
  /-- The lower address is master of both. -/
  | settled (latest first heard highFirst : Nat)
    (lowHolds : Holds contest.low contest.step now contest.low.address latest first low.node)
    (lowInbox : contest.FromHigh low.inbox)
    (highHolds : Holds contest.high contest.step now contest.low.address heard highFirst high.node)
    (highInbox : (high.inbox = [] ∧ heard = latest + contest.step) ∨
      (now = latest + contest.step ∧
        ∃ counter, high.inbox = [Frame.sync contest.low.address counter]))

variable {contest : Contest} {now latest first : Nat} {low high : Member}

theorem FromHigh.append {frames more : List Frame} (left : contest.FromHigh frames)
    (right : contest.FromHigh more) : contest.FromHigh (frames ++ more) := by
  intro frame member
  cases List.mem_append.mp member with
  | inl before => exact left frame before
  | inr after => exact right frame after

theorem FromHigh.tail {frames : List Frame} (all : contest.FromHigh frames) :
    contest.FromHigh frames.tail :=
  fun frame member => all frame (List.mem_of_mem_tail member)

theorem fromHigh_nil : contest.FromHigh [] := by
  intro frame member
  cases member

theorem fromHigh_sync (counter : Nat) :
    contest.FromHigh [Frame.sync contest.high.address counter] := by
  intro frame member
  exact ⟨counter, List.mem_singleton.mp member⟩

theorem highPace : contest.step ≤ contest.high.timing.preemptLead := by
  rw [contest.timing_eq]
  exact contest.pace

/-- A node that hears nothing stays free, whether it speaks or not. -/
theorem Free.turn (highContends : high.Contends contest.high)
    (free : contest.Free now high.node) (inbox : high.inbox = []) :
    (high.turn now).value.inbox = [] ∧
      contest.Free (now + contest.step) (high.turn now).value.node ∧
      contest.FromHigh (high.turn now).transmit := by
  obtain early | ⟨latest, first, holds⟩ := free
  · obtain ⟨rest, outcome⟩ := early.turn highContends contest.positive highPace inbox
    obtain ⟨still, unsent⟩ | ⟨beaten, counter, sent⟩ := outcome
    · rw [unsent]
      exact ⟨rest, .inl still, fromHigh_nil⟩
    · rw [sent]
      exact ⟨rest, .inr ⟨_, _, beaten⟩, fromHigh_sync counter⟩
  · obtain ⟨rest, outcome⟩ := holds.lead highContends contest.positive (by simp [inbox])
    rw [inbox] at rest
    obtain ⟨_, still, unsent⟩ | ⟨_, beaten, counter, sent⟩ := outcome
    · rw [unsent]
      exact ⟨rest, .inr ⟨_, _, still⟩, fromHigh_nil⟩
    · rw [sent]
      exact ⟨rest, .inr ⟨_, _, beaten⟩, fromHigh_sync counter⟩

/-- The syncs of the higher address do not impress a node that is master itself. -/
theorem FromHigh.weaker (all : contest.FromHigh low.inbox) :
    ∀ frame ∈ low.inbox, ∃ source counter,
      frame = Frame.sync source counter ∧ contest.low.address < source := by
  intro frame member
  obtain ⟨counter, sync⟩ := all frame member
  exact ⟨contest.high.address, counter, sync, contest.ordered⟩

theorem fromHigh_exchange (lowContends : low.Contends contest.low)
    (rest : contest.FromHigh (low.turn now).value.inbox)
    (sent : contest.FromHigh (high.turn now).transmit) :
    contest.FromHigh (low.exchange high now).inbox := by
  by_cases live : contest.low.start ≤ now
  · rw [lowContends.inbox_exchange_of_live live]
    exact rest.append sent
  · rw [lowContends.inbox_exchange_of_absent (Nat.lt_of_not_le live)]
    exact rest

section Rounds

variable (lowContends : low.Contends contest.low) (highContends : high.Contends contest.high)
include lowContends highContends

/-- Whatever the higher address did in a round in which the lower one sent its sync, the
lower one is master of its own from then on. -/
theorem phase_of_claim
    (beaten : Holds contest.low contest.step (now + contest.step) contest.low.address now first
      (low.turn now).value.node)
    (sent : ∃ counter, (low.turn now).transmit = [Frame.sync contest.low.address counter])
    (lowRest : contest.FromHigh (low.turn now).value.inbox)
    (free : contest.Free (now + contest.step) (high.turn now).value.node)
    (highRest : (high.turn now).value.inbox = [])
    (highSent : contest.FromHigh (high.turn now).transmit)
    (soon : now < contest.opening + 2 * contest.low.timing.ptu + contest.step) :
    contest.Phase (now + contest.step) (low.exchange high now) (high.exchange low now) := by
  obtain ⟨counter, sent⟩ := sent
  refine .claimed now first ?_ ?_ ?_ ?_
  · rw [Member.node_exchange]
    exact beaten
  · exact fromHigh_exchange lowContends lowRest highSent
  · rw [Member.node_exchange]
    exact free
  · by_cases live : contest.high.start ≤ now
    · right
      rw [highContends.inbox_exchange_of_live live, highRest, sent]
      exact ⟨rfl, live, soon, counter, rfl⟩
    · left
      have absent := Nat.lt_of_not_le live
      rw [highContends.inbox_exchange_of_absent absent]
      exact ⟨highRest, absent⟩

/-- A sync of the higher address reaches the lower one if that is on the bus by then. -/
theorem phase_of_beat
    (lowStill : Early contest.low contest.step (now + contest.step) (low.turn now).value.node)
    (lowRest : (low.turn now).value.inbox = []) (lowUnsent : (low.turn now).transmit = [])
    (beaten : Holds contest.high contest.step (now + contest.step) contest.high.address now first
      (high.turn now).value.node)
    (highRest : (high.turn now).value.inbox = [])
    (sent : ∃ counter, (high.turn now).transmit = [Frame.sync contest.high.address counter]) :
    contest.Phase (now + contest.step) (low.exchange high now) (high.exchange low now) := by
  obtain ⟨counter, sent⟩ := sent
  refine .upper now first ?_ ?_ ?_ ?_
  · rw [Member.node_exchange]
    exact lowStill
  · rw [Member.node_exchange]
    exact beaten
  · rw [highContends.inbox_exchange_of_silence lowUnsent]
    exact highRest
  · by_cases live : contest.low.start ≤ now
    · right
      rw [lowContends.inbox_exchange_of_live live, lowRest, sent]
      exact ⟨rfl, live, counter, rfl⟩
    · left
      rw [lowContends.inbox_exchange_of_absent (Nat.lt_of_not_le live)]
      exact lowRest

theorem phase_of_early (lowEarly : Early contest.low contest.step now low.node)
    (highEarly : Early contest.high contest.step now high.node)
    (lowInbox : low.inbox = []) (highInbox : high.inbox = []) :
    contest.Phase (now + contest.step) (low.exchange high now) (high.exchange low now) := by
  obtain ⟨lowRest, lowOutcome⟩ := lowEarly.turn lowContends contest.positive contest.pace lowInbox
  obtain ⟨lowStill, lowUnsent⟩ | ⟨beaten, sent⟩ := lowOutcome
  · obtain ⟨highRest, highOutcome⟩ :=
      highEarly.turn highContends contest.positive highPace highInbox
    have highEmpty := (highContends.inbox_exchange_of_silence lowUnsent).trans highRest
    obtain ⟨highStill, highUnsent⟩ | ⟨highBeaten, counter, highSent⟩ := highOutcome
    · have lowEmpty := (lowContends.inbox_exchange_of_silence highUnsent).trans lowRest
      refine .early ?_ ?_ lowEmpty highEmpty
      · rw [Member.node_exchange]
        exact lowStill
      · rw [Member.node_exchange]
        exact highStill
    · exact phase_of_beat lowContends highContends lowStill lowRest lowUnsent highBeaten highRest
        ⟨counter, highSent⟩
  · obtain ⟨highRest, free, highSent⟩ := Free.turn highContends (.inl highEarly) highInbox
    have opened : contest.low.start ≤ contest.opening := Nat.le_max_left _ _
    have soon := beaten.soon
    refine phase_of_claim lowContends highContends beaten sent ?_ free highRest highSent (by omega)
    rw [lowRest]
    exact fromHigh_nil

theorem phase_of_upper (lowEarly : Early contest.low contest.step now low.node)
    (highHolds : Holds contest.high contest.step now contest.high.address latest first high.node)
    (highInbox : high.inbox = [])
    (lowInbox : low.inbox = [] ∨
      (now = latest + contest.step ∧ contest.low.start ≤ latest ∧
        ∃ counter, low.inbox = [Frame.sync contest.high.address counter])) :
    contest.Phase (now + contest.step) (low.exchange high now) (high.exchange low now) := by
  obtain ⟨highRest, highOutcome⟩ :=
    highHolds.lead highContends contest.positive (by simp [highInbox])
  rw [highInbox] at highRest
  obtain empty | ⟨fresh, live, counter, lowInbox⟩ := lowInbox
  · obtain ⟨lowRest, lowOutcome⟩ := lowEarly.turn lowContends contest.positive contest.pace empty
    obtain ⟨lowStill, lowUnsent⟩ | ⟨beaten, sent⟩ := lowOutcome
    · have highEmpty := (highContends.inbox_exchange_of_silence lowUnsent).trans highRest
      obtain ⟨_, highStill, highUnsent⟩ | ⟨_, highBeaten, counter, highSent⟩ := highOutcome
      · have lowEmpty := (lowContends.inbox_exchange_of_silence highUnsent).trans lowRest
        refine .upper latest first ?_ ?_ highEmpty (.inl lowEmpty)
        · rw [Member.node_exchange]
          exact lowStill
        · rw [Member.node_exchange]
          exact highStill
      · exact phase_of_beat lowContends highContends lowStill lowRest lowUnsent highBeaten
          highRest ⟨counter, highSent⟩
    · obtain ⟨rest, free, highSent⟩ :=
        Free.turn highContends (.inr ⟨latest, first, highHolds⟩) highInbox
      have opened : contest.low.start ≤ contest.opening := Nat.le_max_left _ _
      have soon := beaten.soon
      refine phase_of_claim lowContends highContends beaten sent ?_ free rest highSent (by omega)
      rw [lowRest]
      exact fromHigh_nil
  · have foreign : contest.high.address ≠ contest.low.address :=
      (UInt8.ne_of_lt contest.ordered).symm
    obtain ⟨lowHolds, lowRest, lowUnsent⟩ := lowEarly.hear lowContends contest.positive
      (by omega) foreign lowInbox contest.pace
    have lead := contest.low.lead_lt_ptu
    have pace := contest.pace
    have timing := contest.timing_eq
    obtain ⟨_, highStill, highUnsent⟩ | ⟨elapsed, _⟩ := highOutcome
    · have lowEmpty := (lowContends.inbox_exchange_of_silence highUnsent).trans lowRest
      have highEmpty := (highContends.inbox_exchange_of_silence lowUnsent).trans highRest
      refine .crossing latest first ?_ ?_ lowEmpty highEmpty (by omega)
      · rw [Member.node_exchange, ← fresh]
        exact lowHolds
      · rw [Member.node_exchange]
        exact highStill
    · -- the period of the higher address is longer than one round
      rw [timing] at elapsed
      omega

theorem phase_of_crossing
    (lowHolds : Holds contest.low contest.step now contest.high.address (latest + contest.step)
      (latest + contest.step) low.node)
    (highHolds : Holds contest.high contest.step now contest.high.address latest first high.node)
    (lowInbox : low.inbox = []) (highInbox : high.inbox = [])
    (patient : now + contest.low.timing.preemptLead <
      latest + contest.step + contest.low.timing.ptu + contest.step) :
    contest.Phase (now + contest.step) (low.exchange high now) (high.exchange low now) := by
  have timing := contest.timing_eq
  have pace := contest.pace
  obtain ⟨lowRest, lowOutcome⟩ :=
    lowHolds.overtake lowContends contest.positive contest.ordered lowInbox
  obtain ⟨running, lowStill, lowUnsent⟩ | ⟨beaten, sent⟩ := lowOutcome
  · obtain ⟨highRest, highOutcome⟩ :=
      highHolds.lead highContends contest.positive (by simp [highInbox])
    rw [highInbox] at highRest
    obtain ⟨_, highStill, highUnsent⟩ | ⟨elapsed, _⟩ := highOutcome
    · have lowEmpty := (lowContends.inbox_exchange_of_silence highUnsent).trans lowRest
      have highEmpty := (highContends.inbox_exchange_of_silence lowUnsent).trans highRest
      refine .crossing latest first ?_ ?_ lowEmpty highEmpty (by omega)
      · rw [Member.node_exchange]
        exact lowStill
      · rw [Member.node_exchange]
        exact highStill
    · -- the claim is due before the sync that it forestalls
      rw [timing] at elapsed
      omega
  · obtain ⟨rest, free, highSent⟩ :=
      Free.turn highContends (.inr ⟨latest, first, highHolds⟩) highInbox
    have opened : contest.low.start ≤ contest.opening := Nat.le_max_left _ _
    have soon := lowHolds.soon
    refine phase_of_claim lowContends highContends beaten sent ?_ free rest highSent (by omega)
    rw [lowRest]
    exact fromHigh_nil

/-- A sync of the lower address that reaches the other node settles the election. -/
theorem phase_of_reception {heard highFirst : Nat}
    (lowStill : Holds contest.low contest.step (now + contest.step) contest.low.address latest
      first (low.turn now).value.node)
    (lowRest : contest.FromHigh (low.turn now).value.inbox)
    (lowUnsent : (low.turn now).transmit = [])
    (highHolds : Holds contest.high contest.step (now + contest.step) contest.low.address heard
      highFirst (high.turn now).value.node)
    (highRest : (high.turn now).value.inbox = []) (highUnsent : (high.turn now).transmit = [])
    (fresh : heard = latest + contest.step) :
    contest.Phase (now + contest.step) (low.exchange high now) (high.exchange low now) := by
  refine .settled latest first heard highFirst ?_ ?_ ?_ (.inl ⟨?_, fresh⟩)
  · rw [Member.node_exchange]
    exact lowStill
  · rw [lowContends.inbox_exchange_of_silence highUnsent]
    exact lowRest
  · rw [Member.node_exchange]
    exact highHolds
  · rw [highContends.inbox_exchange_of_silence lowUnsent]
    exact highRest

theorem phase_of_claimed
    (lowHolds : Holds contest.low contest.step now contest.low.address latest first low.node)
    (lowInbox : contest.FromHigh low.inbox) (free : contest.Free now high.node)
    (highInbox : (high.inbox = [] ∧ latest < contest.high.start) ∨
      (now = latest + contest.step ∧ contest.high.start ≤ latest ∧
        latest < contest.opening + 2 * contest.low.timing.ptu + contest.step ∧
        ∃ counter, high.inbox = [Frame.sync contest.low.address counter])) :
    contest.Phase (now + contest.step) (low.exchange high now) (high.exchange low now) := by
  have lead := contest.low.lead_lt_ptu
  have pace := contest.pace
  obtain ⟨lowRest, lowOutcome⟩ :=
    lowHolds.lead lowContends contest.positive (FromHigh.weaker lowInbox)
  have lowRest : contest.FromHigh (low.turn now).value.inbox := by
    rw [lowRest]
    exact lowInbox.tail
  obtain ⟨empty, absent⟩ | ⟨fresh, live, _, counter, reached⟩ := highInbox
  · obtain ⟨highRest, highFree, highSent⟩ := free.turn highContends empty
    obtain ⟨_, lowStill, lowUnsent⟩ | ⟨_, beaten, sent⟩ := lowOutcome
    · refine .claimed latest first ?_ (fromHigh_exchange lowContends lowRest highSent) ?_
        (.inl ⟨?_, absent⟩)
      · rw [Member.node_exchange]
        exact lowStill
      · rw [Member.node_exchange]
        exact highFree
      · rw [highContends.inbox_exchange_of_silence lowUnsent]
        exact highRest
    · have opened : contest.high.start ≤ contest.opening := Nat.le_max_right _ _
      have punctual := lowHolds.punctual
      exact phase_of_claim lowContends highContends beaten sent lowRest highFree highRest highSent
        (by omega)
  · obtain ⟨_, lowStill, lowUnsent⟩ | ⟨elapsed, _⟩ := lowOutcome
    · have foreign : contest.low.address ≠ contest.high.address := UInt8.ne_of_lt contest.ordered
      obtain early | ⟨former, highFirst, highHolds⟩ := free
      · obtain ⟨highHolds, highRest, highUnsent⟩ := early.hear highContends contest.positive
          (by omega) foreign reached highPace
        exact phase_of_reception lowContends highContends lowStill lowRest lowUnsent highHolds
          highRest highUnsent fresh
      · obtain ⟨highHolds, highRest, highUnsent⟩ := highHolds.hear highContends contest.positive
          foreign (UInt8.le_of_lt contest.ordered) reached
        exact phase_of_reception lowContends highContends lowStill lowRest lowUnsent highHolds
          highRest highUnsent fresh
    · omega

/-- Once both have the lower address as master, the higher one sends nothing. -/
theorem phase_of_settled {heard highFirst : Nat}
    (lowHolds : Holds contest.low contest.step now contest.low.address latest first low.node)
    (lowInbox : contest.FromHigh low.inbox)
    (highHolds : Holds contest.high contest.step now contest.low.address heard highFirst high.node)
    (highInbox : (high.inbox = [] ∧ heard = latest + contest.step) ∨
      (now = latest + contest.step ∧
        ∃ counter, high.inbox = [Frame.sync contest.low.address counter])) :
    contest.Phase (now + contest.step) (low.exchange high now) (high.exchange low now) ∧
      (high.turn now).transmit = [] := by
  have lead := contest.low.lead_lt_ptu
  have pace := contest.pace
  have timing := contest.timing_eq
  obtain ⟨lowRest, lowOutcome⟩ :=
    lowHolds.lead lowContends contest.positive (FromHigh.weaker lowInbox)
  have lowRest : contest.FromHigh (low.turn now).value.inbox := by
    rw [lowRest]
    exact lowInbox.tail
  obtain ⟨empty, fresh⟩ | ⟨fresh, counter, reached⟩ := highInbox
  · have punctual : now < heard + contest.high.timing.ptu := by
      have latestPunctual := lowHolds.punctual
      rw [timing]
      omega
    obtain ⟨highStill, highRest, highUnsent⟩ :=
      highHolds.obey highContends contest.positive contest.ordered empty punctual
    refine ⟨?_, highUnsent⟩
    obtain ⟨_, lowStill, lowUnsent⟩ | ⟨_, beaten, counter, sent⟩ := lowOutcome
    · exact phase_of_reception lowContends highContends lowStill lowRest lowUnsent highStill
        highRest highUnsent fresh
    · refine .settled now first heard highFirst ?_ ?_ ?_ (.inr ⟨rfl, counter, ?_⟩)
      · rw [Member.node_exchange]
        exact beaten
      · rw [lowContends.inbox_exchange_of_silence highUnsent]
        exact lowRest
      · rw [Member.node_exchange]
        exact highStill
      · rw [highContends.inbox_exchange_of_live highHolds.live, highRest, sent]
        rfl
  · have foreign : contest.low.address ≠ contest.high.address := UInt8.ne_of_lt contest.ordered
    obtain ⟨highHeard, highRest, highUnsent⟩ := highHolds.hear highContends contest.positive
      foreign (UInt8.le_refl _) reached
    refine ⟨?_, highUnsent⟩
    obtain ⟨_, lowStill, lowUnsent⟩ | ⟨elapsed, _⟩ := lowOutcome
    · exact phase_of_reception lowContends highContends lowStill lowRest lowUnsent highHeard
        highRest highUnsent fresh
    · omega

/-- One round leads from phase to phase. -/
theorem Phase.exchange (phase : contest.Phase now low high) :
    contest.Phase (now + contest.step) (low.exchange high now) (high.exchange low now) := by
  cases phase with
  | early lowEarly highEarly lowInbox highInbox =>
    exact phase_of_early lowContends highContends lowEarly highEarly lowInbox highInbox
  | upper latest first lowEarly highHolds highInbox lowInbox =>
    exact phase_of_upper lowContends highContends lowEarly highHolds highInbox lowInbox
  | crossing latest first lowHolds highHolds lowInbox highInbox patient =>
    exact phase_of_crossing lowContends highContends lowHolds highHolds lowInbox highInbox patient
  | claimed latest first lowHolds lowInbox highFree highInbox =>
    exact phase_of_claimed lowContends highContends lowHolds lowInbox highFree highInbox
  | settled latest first heard highFirst lowHolds lowInbox highHolds highInbox =>
    exact (phase_of_settled lowContends highContends lowHolds lowInbox highHolds highInbox).1

end Rounds

/-- Every phase but the last is over by six periods after the opening. -/
theorem Phase.settled_of_late (phase : contest.Phase now low high)
    (late : contest.opening + 6 * contest.low.timing.ptu ≤ now) :
    ∃ latest first heard highFirst,
      Holds contest.low contest.step now contest.low.address latest first low.node ∧
      contest.FromHigh low.inbox ∧
      Holds contest.high contest.step now contest.low.address heard highFirst high.node ∧
      ((high.inbox = [] ∧ heard = latest + contest.step) ∨
        (now = latest + contest.step ∧
          ∃ counter, high.inbox = [Frame.sync contest.low.address counter])) := by
  have lead := contest.low.lead_lt_ptu
  have pace := contest.pace
  have lowOpened : contest.low.start ≤ contest.opening := Nat.le_max_left _ _
  have highOpened : contest.high.start ≤ contest.opening := Nat.le_max_right _ _
  cases phase with
  | early lowEarly _ _ _ =>
    have soon := lowEarly.soon
    omega
  | upper _ _ lowEarly _ _ _ =>
    have soon := lowEarly.soon
    omega
  | crossing latest _ lowHolds _ _ _ patient =>
    have soon := lowHolds.soon
    omega
  | claimed latest _ lowHolds _ _ highInbox =>
    have punctual := lowHolds.punctual
    obtain ⟨_, absent⟩ | ⟨_, _, soon, _⟩ := highInbox
    · omega
    · omega
  | settled latest first heard highFirst lowHolds lowInbox highHolds highInbox =>
    exact ⟨latest, first, heard, highFirst, lowHolds, lowInbox, highHolds, highInbox⟩

/-- The pair as a list of members, in either order. -/
def arrange (swapped : Bool) (low high : Member) : List Member :=
  if swapped then [high, low] else [low, high]

/-- The place of the higher address in the list. -/
def highPlace (swapped : Bool) : Nat := if swapped then 0 else 1

theorem place_of_high (swapped : Bool) (index : Nat)
    (place : (arrange swapped contest.low.member contest.high.member)[index]? =
      some contest.high.member) : index = highPlace swapped := by
  have distinct : contest.low.member ≠ contest.high.member := by
    intro same
    have address : contest.low.address = contest.high.address :=
      congrArg (fun member => member.node.address) same
    exact UInt8.ne_of_lt contest.ordered address
  cases swapped with
  | false =>
    match index with
    | 0 => exact absurd (Option.some.inj place) distinct
    | 1 => rfl
    | _ + 2 => cases place
  | true =>
    match index with
    | 0 => rfl
    | 1 => exact absurd (Option.some.inj place) distinct
    | _ + 2 => cases place

theorem configs_arrange (swapped : Bool) (lowContends : low.Contends contest.low)
    (highContends : high.Contends contest.high) :
    (arrange swapped low high).map (fun member => member.node.config) =
      (arrange swapped contest.low.member contest.high.member).map
        (fun member => member.node.config) := by
  have lowConfig : low.node.config = contest.low.member.node.config := lowContends.config
  have highConfig : high.node.config = contest.high.member.node.config := highContends.config
  cases swapped with
  | false => simp [arrange, lowConfig, highConfig]
  | true => simp [arrange, lowConfig, highConfig]

theorem members_round (swapped : Bool) (low high : Member) (now : Nat) :
    (Network.round (arrange swapped low high) now).members =
      arrange swapped (low.exchange high now) (high.exchange low now) := by
  cases swapped with
  | false => exact Member.members_round_pair low high now
  | true => exact Member.members_round_pair high low now

theorem log_round (swapped : Bool) (low high : Member) (now : Nat) (activity : Network.Activity)
    (logged : activity ∈ (Network.round (arrange swapped low high) now).log) :
    activity.instant = now ∧
      (activity.index = highPlace swapped →
        activity.outbox.transmit = (high.turn now).transmit) := by
  cases swapped with
  | false =>
    obtain rfl | rfl := Member.mem_log_pair low high now activity logged
    · simp [highPlace]
    · exact ⟨rfl, fun _ => rfl⟩
  | true =>
    obtain rfl | rfl := Member.mem_log_pair high low now activity logged
    · exact ⟨rfl, fun _ => rfl⟩
    · simp [highPlace]

/-- Rounds keep the pair in its phases, and the higher address silent once it has heard of
the lower one. -/
theorem Phase.rounds (phase : contest.Phase now low high) (lowContends : low.Contends contest.low)
    (highContends : high.Contends contest.high) (swapped : Bool) (count : Nat) :
    let trace := Network.rounds (arrange swapped low high) contest.step now count
    (∃ lowAfter highAfter, trace.members = arrange swapped lowAfter highAfter ∧
        lowAfter.Contends contest.low ∧ highAfter.Contends contest.high ∧
        contest.Phase (now + count * contest.step) lowAfter highAfter) ∧
      ∀ activity ∈ trace.log, activity.index = highPlace swapped →
        contest.opening + 6 * contest.low.timing.ptu ≤ activity.instant →
        activity.outbox.transmit = [] := by
  induction count generalizing now low high with
  | zero =>
    constructor
    · refine ⟨low, high, rfl, lowContends, highContends, ?_⟩
      rw [Nat.zero_mul, Nat.add_zero]
      exact phase
    · intro activity logged
      cases logged
  | succ count ih =>
    have next := phase.exchange lowContends highContends
    obtain ⟨outcome, silent⟩ := ih next (lowContends.exchange high now)
      (highContends.exchange low now)
    have later : now + contest.step + count * contest.step =
        now + (count + 1) * contest.step := by
      rw [Nat.succ_mul]
      omega
    simp only [Network.rounds, members_round]
    constructor
    · rw [← later]
      exact outcome
    · intro activity logged place late
      cases List.mem_append.mp logged with
      | inl atOnce =>
        obtain ⟨instant, transmit⟩ := log_round swapped low high now activity atOnce
        rw [instant] at late
        obtain ⟨_, _, _, _, lowHolds, lowInbox, highHolds, highInbox⟩ :=
          phase.settled_of_late late
        rw [transmit place]
        exact (phase_of_settled lowContends highContends lowHolds lowInbox highHolds highInbox).2
      | inr later => exact silent activity later place late

theorem phase_start (contest : Contest) :
    contest.Phase 0 contest.low.member contest.high.member := by
  have positive := contest.positive
  refine .early (.off rfl rfl ?_) (.off rfl rfl ?_) rfl rfl
  · omega
  · omega

end Contest

/-- Two candidates, placed on the bus in either order and entering it whenever they like,
elect the lower address. From six periods after the later of the two starts on the higher
address sends nothing, and both are in Operational with the lower address as master. -/
theorem lower_address_is_elected (contest : Contest) (members : List Member)
    (placed : members = [contest.low.member, contest.high.member] ∨
      members = [contest.high.member, contest.low.member])
    (limit : Nat) (long : contest.opening + 6 * contest.low.timing.ptu ≤ limit) :
    let trace := Network.simulate members contest.step limit
    trace.members.map (fun member => member.node.config) =
        members.map (fun member => member.node.config) ∧
      (∀ member ∈ trace.members, member.node.mode = .operational ∧
        member.node.timeBase.master = some contest.low.address) ∧
      ∀ activity ∈ trace.log, contest.opening + 6 * contest.low.timing.ptu ≤ activity.instant →
        members[activity.index]? = some contest.high.member →
        activity.outbox.transmit = [] := by
  have pair : ∃ swapped, members =
      Contest.arrange swapped contest.low.member contest.high.member := by
    cases placed with
    | inl straight => exact ⟨false, straight⟩
    | inr crossed => exact ⟨true, crossed⟩
  obtain ⟨swapped, rfl⟩ := pair
  intro trace
  obtain ⟨⟨low, high, final, lowContends, highContends, phase⟩, silent⟩ :=
    (Contest.phase_start contest).rounds (Member.contends_start contest.low)
      (Member.contends_start contest.high) swapped (limit / contest.step + 1)
  have elapsed : limit < 0 + (limit / contest.step + 1) * contest.step := by
    have positive := contest.positive
    have parts := Nat.div_add_mod' limit contest.step
    have rest := Nat.mod_lt limit positive
    rw [Nat.succ_mul]
    omega
  generalize 0 + (limit / contest.step + 1) * contest.step = last at elapsed phase
  obtain ⟨_, _, _, _, lowHolds, _, highHolds, _⟩ := phase.settled_of_late (by omega)
  have lead := contest.low.lead_lt_ptu
  have pace := contest.pace
  have timing := contest.timing_eq
  have lowOpened : contest.low.start ≤ contest.opening := Nat.le_max_left _ _
  have highOpened : contest.high.start ≤ contest.opening := Nat.le_max_right _ _
  have lowPromoted := lowHolds.promoted (by omega)
  have highPromoted := highHolds.promoted (by rw [timing]; omega)
  change trace.members = _ at final
  rw [final]
  refine ⟨?_, ?_, ?_⟩
  · exact Contest.configs_arrange swapped lowContends highContends
  · intro member present
    have either : member = low ∨ member = high := by
      cases swapped with
      | false => simpa [Contest.arrange] using present
      | true => simpa [Contest.arrange, or_comm] using present
    obtain rfl | rfl := either
    · exact lowPromoted
    · exact highPromoted
  · intro activity logged late place
    exact silent activity logged (Contest.place_of_high swapped activity.index place) late

/-- Of 12, on the bus first, and 10, three milliseconds later, 10 is elected. -/
theorem ten_is_elected :
    let contest : Contest :=
      { low := { config := .candidate 10 (by decide), start := 3000, candidate := rfl }
        high := { config := .candidate 12 (by decide), start := 0, candidate := rfl }
        step := 100
        ordered := by decide
        bitrate := rfl
        frequency := rfl
        positive := by decide
        pace := by decide }
    let members := [contest.high.member, contest.low.member]
    contest.opening + 6 * contest.low.timing.ptu ≤ 300000 ∧
      ∀ member ∈ (Network.simulate members 100 300000).members,
        member.node.mode = .operational ∧ member.node.timeBase.master = some 10 := by
  intro contest members
  have long : contest.opening + 6 * contest.low.timing.ptu ≤ 300000 := by decide
  obtain ⟨_, elected, _⟩ := lower_address_is_elected contest members (.inr rfl) 300000 long
  exact ⟨long, elected⟩

end VehicleBus
