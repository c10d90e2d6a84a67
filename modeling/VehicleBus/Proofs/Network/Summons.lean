import VehicleBus.Proofs.Handshake.Pace
import VehicleBus.Proofs.Network.Overlay

/-!
One request for System Configuration in a network of two. Its letters go out a period apart,
and each of them is heard in the next round, or in the round after that if a sync goes
before it. Syncs go out a period apart too. So a letter that has to wait for a sync comes
after letters that had to, and no gap between two letters is longer than a period, at either
node. That is short enough for both listeners, and the whole sequence is out before the
request starts over.
-/
namespace VehicleBus

open Handshake

namespace Duo

variable (duo : Duo)

/-- A period in rounds is within the gap that a listener tolerates. -/
theorem period_mul_le : duo.period * duo.step ≤ maxGap := by
  have short := duo.period_mul_lt
  have long : duo.ptu ≤ 333334 := duo.lead.ptu_le
  have pace : duo.step ≤ duo.ptu / 5 := duo.pace
  unfold maxGap Clock.millisecond
  omega

/-- Two periods are over before a request starts over. -/
theorem two_periods_mul_lt : 2 * duo.period * duo.step < resendInterval := by
  have short := duo.period_mul_le
  have twice : 2 * duo.period * duo.step = 2 * (duo.period * duo.step) := Nat.mul_assoc 2 _ _
  unfold maxGap Clock.millisecond at short
  unfold resendInterval Clock.second Clock.millisecond
  omega

end Duo

/-- Two members of a duo, and the request that the first of them gets. The other one may be
asked as well, but not before the request is served. -/
structure Summons where
  duo : Duo
  one : Member
  other : Member
  ground : duo.Ground 0 one other
  /-- When the first member is asked. -/
  enterAt : Nat
  /-- When the other one is asked, if it is. -/
  plan : Option Nat
  spared : ∀ round < Clock.ceilDiv enterAt duo.step + 2 * (duo.period + 1),
    Member.reached plan (round * duo.step) = false

namespace Summons

section Members

variable (summons : Summons) (round : Nat)

/-- The first member after a number of rounds, had it not been asked. -/
def plain : Member := summons.one.after summons.other summons.duo.step round

/-- The other member after a number of rounds, had nobody been asked. -/
def plainOther : Member := summons.other.after summons.one summons.duo.step round

/-- The member that is asked, after a number of rounds. -/
def caller : Member :=
  (summons.one.overlay {} {} (some summons.enterAt) []).after
    (summons.other.overlay {} {} summons.plan []) summons.duo.step round

/-- The member that is called, after a number of rounds. -/
def callee : Member :=
  (summons.other.overlay {} {} summons.plan []).after
    (summons.one.overlay {} {} (some summons.enterAt) []) summons.duo.step round

/-- The undisturbed members are in concert. -/
theorem ground_at :
    summons.duo.Ground round (summons.plain round) (summons.plainOther round) :=
  summons.ground.after_rounds round

theorem caller_stays : (summons.caller round).Stays :=
  have first : (summons.one.overlay {} {} (some summons.enterAt) []).Stays :=
    ⟨summons.ground.rests.start, summons.ground.rests.stop, summons.ground.rests.exitAt⟩
  first.after _ _ round

theorem callee_stays : (summons.callee round).Stays :=
  have first : (summons.other.overlay {} {} summons.plan []).Stays :=
    ⟨summons.ground.otherRests.start, summons.ground.otherRests.stop,
      summons.ground.otherRests.exitAt⟩
  first.after _ _ round

theorem node_plain_succ :
    (summons.plain (round + 1)).node =
      ((summons.plain round).node.tick (round * summons.duo.step)
        (summons.plain round).inbox.head?).value := by
  show ((summons.plain round).exchange (summons.plainOther round)
    (round * summons.duo.step)).node = _
  rw [Member.node_exchange, ((summons.ground_at round).rests.turn _).1]

/-- What the undisturbed neighbour finds in its inbox is what was sent in the round before. -/
theorem inbox_plainOther_succ :
    (summons.plainOther (round + 1)).inbox =
      ((summons.plain round).node.tick (round * summons.duo.step)
        (summons.plain round).inbox.head?).transmit := by
  have ground := summons.ground_at round
  show ((summons.plainOther round).exchange (summons.plain round)
    (round * summons.duo.step)).inbox = _
  rw [ground.otherRests.exchange, (ground.otherRests.turn _).1, (ground.rests.turn _).2]
  show (summons.plainOther round).inbox.tail ++ _ = _
  rw [ground.symm.turned.single, List.nil_append]

theorem address_plain : (summons.plain round).node.address = summons.one.node.address := by
  induction round with
  | zero => rfl
  | succ round ih => rw [node_plain_succ, Node.address_tick, ih]

/-- To the neighbour the letters come from another node. -/
theorem foreign : summons.one.node.address ≠ (summons.plainOther round).node.address := by
  rw [← summons.address_plain round]
  exact (summons.ground_at round).concert.distinct

variable {round} in
theorem plain_on {earlier : Nat} (past : earlier < round) :
    (summons.plain round).node.Synchronizes :=
  (summons.ground_at round).concert.synchronizes (Nat.zero_lt_of_lt past)

variable {round} in
theorem plainOther_on {earlier : Nat} (past : earlier < round) :
    (summons.plainOther round).node.Synchronizes :=
  (summons.ground_at round).concert.symm.synchronizes (Nat.zero_lt_of_lt past)

/-- A sync that was sent at the start of a span is the latest one all through the span. -/
theorem synced_of_later (span : Nat)
    (synced : (summons.plain (round + 1 + span)).node.Synced (round * summons.duo.step)) :
    (summons.plain (round + 1)).node.Synced (round * summons.duo.step) := by
  induction span with
  | zero => exact synced
  | succ span ih =>
    have past : round * summons.duo.step < (round + 1 + span) * summons.duo.step :=
      Nat.mul_lt_mul_of_pos_right (by omega) summons.duo.positive
    rw [← Nat.add_assoc, node_plain_succ] at synced
    exact ih ((summons.ground_at _).turned.plays.kept _ past synced)

/-- Where a sync arrives, one arrived a period before. -/
theorem busy_of_later (busy : (summons.plainOther (round + summons.duo.period + 1)).inbox ≠ []) :
    (summons.plainOther (round + 1)).inbox ≠ [] := by
  have long := summons.duo.two_lt_period
  rw [inbox_plainOther_succ] at busy ⊢
  -- The sender knows its latest sync, and in the round after that it knew it as sent just now.
  have latest := (summons.ground_at _).turned.grid busy (Nat.le_add_left _ _)
  rw [Nat.add_sub_cancel] at latest
  have split : round + summons.duo.period = round + 1 + (summons.duo.period - 1) := by omega
  rw [split] at latest
  have synced := summons.synced_of_later round _ latest
  rw [node_plain_succ] at synced
  exact (summons.ground_at round).turned.plays.fresh synced

end Members

section Letters

variable (summons : Summons) (letter : Nat)

/-- The round in which the request is made. -/
def taken : Nat := Clock.ceilDiv summons.enterAt summons.duo.step

/-- The round in which a letter goes out. -/
def sentAt : Nat := summons.taken + letter * summons.duo.period

/-- The round in which a letter is heard. -/
def arrivesAt : Nat :=
  if (summons.plainOther (summons.sentAt letter + 1)).inbox = [] then summons.sentAt letter + 1
  else summons.sentAt letter + 2

theorem sentAt_zero : summons.sentAt 0 = summons.taken := by
  rw [sentAt, Nat.zero_mul, Nat.add_zero]

theorem sentAt_succ : summons.sentAt (letter + 1) = summons.sentAt letter + summons.duo.period := by
  unfold sentAt
  rw [Nat.succ_mul]
  omega

theorem sentAt_mono {earlier later : Nat} (order : earlier ≤ later) :
    summons.sentAt earlier ≤ summons.sentAt later :=
  Nat.add_le_add_left (Nat.mul_le_mul_right _ order) _

/-- The other member is not asked until the last letter can be heard. -/
theorem early_of_le {round : Nat} (early : round ≤ summons.sentAt 2 + 1) :
    round < summons.taken + 2 * (summons.duo.period + 1) := by
  have last : summons.sentAt 2 = summons.taken + 2 * summons.duo.period := rfl
  omega

theorem sentAt_lt_arrivesAt : summons.sentAt letter < summons.arrivesAt letter := by
  unfold arrivesAt
  split
  · omega
  · omega

theorem arrivesAt_le : summons.arrivesAt letter ≤ summons.sentAt letter + 2 := by
  unfold arrivesAt
  split
  · omega
  · omega

/-- A letter that is not heard in the next round is behind a sync. -/
theorem busy_before_arrivesAt {round : Nat} (past : summons.sentAt letter < round)
    (before : round < summons.arrivesAt letter) : (summons.plainOther round).inbox ≠ [] := by
  have late := summons.arrivesAt_le letter
  have next : round = summons.sentAt letter + 1 := by omega
  subst next
  intro empty
  rw [arrivesAt, if_pos empty] at before
  omega

/-- Letters arrive at most a period apart. -/
theorem arrivesAt_succ_le :
    summons.arrivesAt (letter + 1) ≤ summons.arrivesAt letter + summons.duo.period := by
  have busy := summons.busy_of_later (summons.sentAt letter)
  unfold arrivesAt
  rw [sentAt_succ]
  split
  · split
    · omega
    · omega
  · rename_i later
    rw [if_neg (busy later)]
    omega

/-- When a letter arrives, no sync is before it. -/
theorem inbox_arrivesAt : (summons.plainOther (summons.arrivesAt letter)).inbox = [] := by
  unfold arrivesAt
  split
  · assumption
  · rename_i busy
    rw [inbox_plainOther_succ]
    exact (summons.ground_at _).turned.spaced busy

/-- The last letter is heard within two seconds. -/
theorem arrivesAt_last_soon :
    (summons.sentAt 2 + 2) * summons.duo.step ≤ summons.enterAt + 2 * Clock.second := by
  have taken : summons.taken * summons.duo.step < summons.enterAt + summons.duo.step :=
    Clock.ceilDiv_mul_lt _ _ summons.duo.positive
  have short := summons.duo.two_periods_mul_lt
  have long : summons.duo.ptu ≤ 333334 := summons.duo.lead.ptu_le
  have pace : summons.duo.step ≤ summons.duo.ptu / 5 := summons.duo.pace
  rw [sentAt, Nat.add_mul, Nat.add_mul]
  unfold resendInterval at short
  unfold Clock.second Clock.millisecond at *
  omega

theorem sent_paced (letter : Nat) :
    summons.sentAt (letter + 1) * summons.duo.step ≤
      summons.sentAt letter * summons.duo.step + maxGap := by
  have short := summons.duo.period_mul_le
  rw [sentAt_succ, Nat.add_mul]
  omega

theorem arrivals_paced (letter : Nat) :
    summons.arrivesAt (letter + 1) * summons.duo.step ≤
      summons.arrivesAt letter * summons.duo.step + maxGap := by
  have short := summons.duo.period_mul_le
  have order := Nat.mul_le_mul_right summons.duo.step (summons.arrivesAt_succ_le letter)
  rw [Nat.add_mul] at order
  omega

/-- The listener of the caller after a number of its own letters. -/
def following (letters : Nat) : Listener :=
  .along summons.one.node.address (fun letter => summons.sentAt letter * summons.duo.step) letters

/-- The listener of the callee after a number of letters. -/
def hearing (letters : Nat) : Listener :=
  .along summons.one.node.address (fun letter => summons.arrivesAt letter * summons.duo.step)
    letters

/-- The request after a letter. -/
def spoken (letter : Nat) : Requester where
  pending := true
  position := letter + 1
  nextByte := summons.sentAt letter * summons.duo.step + summons.duo.ptu
  restart := summons.taken * summons.duo.step + resendInterval

/-- The request does not start over before its last letter is out. -/
theorem lt_restart {round : Nat} (soon : round ≤ summons.sentAt 2) :
    round * summons.duo.step < summons.taken * summons.duo.step + resendInterval := by
  have short := summons.duo.two_periods_mul_lt
  have order := Nat.mul_le_mul_right summons.duo.step soon
  rw [sentAt, Nat.add_mul] at order
  omega

end Letters

variable {summons : Summons} {round letter : Nat}

/-- The frame of a letter of the caller. -/
def frame (summons : Summons) (byte : UInt8) : Frame :=
  Frame.enterConfig summons.one.node.address byte

/-- A listener that heard nothing, or a node that is on, has nothing to forget. -/
theorem fresh_along {base : Node} {source : UInt8} {instants : Nat → Nat}
    (on : 0 < letter → base.Synchronizes) :
    base.mode = .powerOff → (Listener.along source instants letter).position = 0 := by
  intro off
  cases letter with
  | zero => rfl
  | succ letter => exact absurd off (on (Nat.succ_pos _)).on

section Listeners

variable {byte : UInt8} (next : Sequence.enter.byte? letter = some byte)
include next

theorem following_hears (more : letter + 1 < Sequence.size) :
    ((summons.following letter).hear .enter (summons.sentAt letter * summons.duo.step)
        summons.one.node.address byte).value = (.progress, summons.following (letter + 1)) := by
  refine Listener.hear_along_of_more ?_ next more
  exact summons.sent_paced

theorem following_completes (last : letter + 1 = Sequence.size) :
    ((summons.following letter).hear .enter (summons.sentAt letter * summons.duo.step)
        summons.one.node.address byte).value.1 = .complete := by
  refine Listener.hear_along_of_last ?_ next last
  exact summons.sent_paced

theorem hearing_hears (more : letter + 1 < Sequence.size) :
    ((summons.hearing letter).hear .enter (summons.arrivesAt letter * summons.duo.step)
        summons.one.node.address byte).value = (.progress, summons.hearing (letter + 1)) := by
  refine Listener.hear_along_of_more ?_ next more
  exact summons.arrivals_paced

theorem hearing_completes (last : letter + 1 = Sequence.size) :
    ((summons.hearing letter).hear .enter (summons.arrivesAt letter * summons.duo.step)
        summons.one.node.address byte).value.1 = .complete := by
  refine Listener.hear_along_of_last ?_ next last
  exact summons.arrivals_paced

end Listeners

/-- A request that waits for the round of a letter. -/
structure Due (summons : Summons) (letter : Nat) (request : Requester) : Prop where
  pending : request.pending = true
  position : request.position = letter
  nextByte : request.nextByte ≤ summons.sentAt letter * summons.duo.step
  restart : request.restart = summons.taken * summons.duo.step + resendInterval

theorem due_of_request : summons.Due 0
    (Requester.request {} (summons.sentAt 0 * summons.duo.step)).value where
  pending := rfl
  position := rfl
  nextByte := Nat.le_refl _
  restart := by
    rw [← sentAt_zero]
    rfl

theorem due_of_spoken : summons.Due (letter + 1) (summons.spoken letter) where
  pending := rfl
  position := rfl
  nextByte := by
    rw [sentAt_succ]
    exact (summons.duo.span_le_iff _ _).mpr (Nat.le_refl _)
  restart := rfl

/-- In its round a letter goes out. -/
theorem Due.poll {request : Requester} {byte : UInt8} (due : summons.Due letter request)
    (next : Sequence.enter.byte? letter = some byte) :
    (request.poll .enter (summons.sentAt letter * summons.duo.step) summons.duo.ptu).value =
      (some byte, summons.spoken letter) := by
  have one : letter < Sequence.size := Sequence.lt_size_of_byte? next
  have running : summons.sentAt letter * summons.duo.step < request.restart := by
    rw [due.restart]
    exact summons.lt_restart (summons.sentAt_mono (Nat.le_of_lt_succ one))
  rw [Requester.poll_of_due due.pending running (by rw [due.position]; exact next) due.nextByte]
  obtain ⟨pending, position, -, restart⟩ := due
  cases request
  simp_all [spoken]

/-- What the caller adds to a round of its own. -/
def Calls (summons : Summons) (round : Nat) (listener : Listener) (request : Requester)
    (plan : Option Nat) (sent : List Frame) : Prop :=
  Member.Covers ((summons.plain round).turn (round * summons.duo.step))
    ((summons.caller round).turn (round * summons.duo.step)) listener request plan [] sent

/-- What the callee adds to a round of its own. It sends nothing more. -/
def Answers (summons : Summons) (round : Nat) (listener : Listener) (rest : List Frame) : Prop :=
  Member.Covers ((summons.plainOther round).turn (round * summons.duo.step))
    ((summons.callee round).turn (round * summons.duo.step)) listener {} summons.plan rest []

section Caller

theorem Calls.succ {plan : Option Nat} {request : Requester} {listener heard : Listener}
    {sent rest : List Frame} (calls : summons.Calls round listener request plan sent)
    (answers : summons.Answers round heard rest) :
    summons.caller (round + 1) = (summons.plain (round + 1)).overlay listener request plan [] :=
  Member.Covers.exchange (summons.ground_at round).rests.toStays (summons.caller_stays round) calls
    answers.transmit (.inl rfl)

variable {request : Requester} {byte : UInt8}
  (asked : (summons.caller (summons.sentAt letter)).asked
      (summons.sentAt letter * summons.duo.step) =
    (summons.plain (summons.sentAt letter)).overlay (summons.following letter) request none [])
  (on : 0 < letter → (summons.plain (summons.sentAt letter)).node.Synchronizes)
  (due : summons.Due letter request) (next : Sequence.enter.byte? letter = some byte)
include asked on due next

theorem calls_of_more (more : letter + 1 < Sequence.size) :
    summons.Calls (summons.sentAt letter) (summons.following (letter + 1)) (summons.spoken letter)
      none [summons.frame byte] := by
  have address := summons.address_plain (summons.sentAt letter)
  have covers := (summons.ground_at (summons.sentAt letter)).turn_of_byte
    (summons.caller_stays _) asked (.inl rfl) (fresh_along on) (due.poll next)
    (by rw [address]; exact following_hears next more)
  rw [address] at covers
  exact covers

theorem tells_of_last (last : letter + 1 = Sequence.size) :
    .modeChanged .systemConfiguration ∈
        ((summons.caller (summons.sentAt letter)).turn
          (summons.sentAt letter * summons.duo.step)).events ∧
      ((summons.caller (summons.sentAt letter)).turn
          (summons.sentAt letter * summons.duo.step)).transmit =
        ((summons.plain (summons.sentAt letter)).turn
          (summons.sentAt letter * summons.duo.step)).transmit ++ [summons.frame byte] := by
  have address := summons.address_plain (summons.sentAt letter)
  have tells := (summons.ground_at (summons.sentAt letter)).tells_of_byte
    (summons.caller_stays _) asked (.inl rfl) (fresh_along on) (due.poll next)
    (by rw [address]; exact following_completes next last)
  rw [address] at tells
  exact tells

end Caller

section Callee

variable {listener : Listener} {frames sent : List Frame} {byte : UInt8}

/-- What is left of the inbox stays before what the caller sends. -/
theorem Answers.succ (answers : summons.Answers round listener frames)
    (reached : ((summons.caller round).turn (round * summons.duo.step)).transmit =
      ((summons.plain round).turn (round * summons.duo.step)).transmit ++ sent)
    (order : frames = [] ∨ (summons.plainOther round).inbox ≠ []) :
    summons.callee (round + 1) =
      (summons.plainOther (round + 1)).overlay listener {} summons.plan (frames ++ sent) := by
  have ground := summons.ground_at round
  refine Member.Covers.exchange ground.otherRests.toStays (summons.callee_stays round) answers
    reached ?_
  obtain empty | busy := order
  · exact .inl empty
  · exact .inr ((ground.rests.turn _).2.trans (ground.turned.spaced busy))

/-- Before the request is served the callee is not asked itself. -/
theorem asked_callee (soon : round < summons.taken + 2 * (summons.duo.period + 1))
    (stands : summons.callee round =
      (summons.plainOther round).overlay listener {} summons.plan frames) :
    (summons.callee round).asked (round * summons.duo.step) =
      (summons.plainOther round).overlay listener {} summons.plan frames := by
  rw [stands]
  exact Member.asked_overlay_of_early (summons.spared round soon)

/-- The callee finds a sync in its inbox, or nothing. -/
theorem answers_of_sync (soon : round < summons.taken + 2 * (summons.duo.period + 1))
    (stands : summons.callee round =
      (summons.plainOther round).overlay listener {} summons.plan frames)
    (order : frames = [] ∨ (summons.plainOther round).inbox ≠ [])
    (fresh : (summons.plainOther round).node.mode = .powerOff → listener.position = 0) :
    summons.Answers round listener frames :=
  (summons.ground_at round).symm.turn_of_silence (summons.callee_stays round)
    (asked_callee soon stands) order fresh rfl

/-- A letter is heard. -/
theorem answers_of_letter
    (soon : summons.arrivesAt letter < summons.taken + 2 * (summons.duo.period + 1))
    (stands : summons.callee (summons.arrivesAt letter) =
      (summons.plainOther (summons.arrivesAt letter)).overlay (summons.hearing letter) {}
        summons.plan [summons.frame byte])
    (next : Sequence.enter.byte? letter = some byte) (more : letter + 1 < Sequence.size) :
    summons.Answers (summons.arrivesAt letter) (summons.hearing (letter + 1)) [] := by
  have on := summons.plainOther_on (summons.sentAt_lt_arrivesAt letter)
  exact (summons.ground_at _).symm.turn_of_hearing (summons.callee_stays _)
    (asked_callee soon stands) (summons.inbox_arrivesAt letter) rfl on (summons.foreign _)
    (hearing_hears next more) rfl

end Callee

/-- Where the latest letter is at the start of a round: on its way, or heard. -/
inductive Carries (summons : Summons) (letter round : Nat) : Prop
  | sent (byte : UInt8) (next : Sequence.enter.byte? letter = some byte)
      (before : round ≤ summons.arrivesAt letter)
      (stands : summons.callee round = (summons.plainOther round).overlay (summons.hearing letter)
        {} summons.plan [summons.frame byte])
  | heard (after : summons.arrivesAt letter < round)
      (stands : summons.callee round =
        (summons.plainOther round).overlay (summons.hearing (letter + 1)) {} summons.plan [])

/-- In a round in which the caller is quiet the latest letter moves on. -/
theorem Carries.next (carries : summons.Carries letter round) (past : summons.sentAt letter < round)
    (soon : round < summons.taken + 2 * (summons.duo.period + 1))
    (more : letter + 1 < Sequence.size) :
    ∃ listener rest, summons.Answers round listener rest ∧
      (((summons.caller round).turn (round * summons.duo.step)).transmit =
          ((summons.plain round).turn (round * summons.duo.step)).transmit ++ [] →
        summons.Carries letter (round + 1)) := by
  have on := summons.plainOther_on past
  cases carries with
  | sent byte next before stands =>
    by_cases now : round = summons.arrivesAt letter
    · subst now
      have answers := answers_of_letter soon stands next more
      exact ⟨_, _, answers, fun quiet =>
        .heard (Nat.lt_succ_self _) (answers.succ quiet (.inl rfl))⟩
    · have early : round < summons.arrivesAt letter := by omega
      have busy := summons.busy_before_arrivesAt letter past early
      have answers := answers_of_sync soon stands (.inr busy) (fresh_along fun _ => on)
      exact ⟨_, _, answers, fun quiet => .sent byte next early (answers.succ quiet (.inr busy))⟩
  | heard after stands =>
    have answers := answers_of_sync soon stands (.inl rfl) (fresh_along fun _ => on)
    exact ⟨_, _, answers, fun quiet =>
      .heard (Nat.lt_succ_of_lt after) (answers.succ quiet (.inl rfl))⟩

/-- The pair at the start of a round in which the request is not made yet. -/
structure Before (summons : Summons) (round : Nat) : Prop where
  stands : summons.caller round =
    (summons.plain round).overlay {} {} (some summons.enterAt) []
  idle : summons.callee round = (summons.plainOther round).overlay {} {} summons.plan []

/-- The pair at the start of a round in which a letter is out and the next one is not. -/
structure Underway (summons : Summons) (letter round : Nat) : Prop where
  past : summons.sentAt letter < round
  soon : round ≤ summons.sentAt (letter + 1)
  stands : summons.caller round =
    (summons.plain round).overlay (summons.following (letter + 1)) (summons.spoken letter) none []
  carries : summons.Carries letter round

theorem reached_iff (round : Nat) :
    Member.reached (some summons.enterAt) (round * summons.duo.step) = true ↔
      summons.taken ≤ round := by
  rw [taken, Clock.ceilDiv_le_iff _ _ _ summons.duo.positive]
  simp [Member.reached]

theorem Before.next (before : summons.Before round) (early : round < summons.taken) :
    summons.Before (round + 1) := by
  have unasked : Member.reached (some summons.enterAt) (round * summons.duo.step) = false := by
    rw [← Bool.not_eq_true, reached_iff]
    omega
  have asked : (summons.caller round).asked (round * summons.duo.step) =
      (summons.plain round).overlay {} {} (some summons.enterAt) [] := by
    rw [before.stands]
    exact Member.asked_overlay_of_early unasked
  have calls : summons.Calls round {} {} (some summons.enterAt) [] :=
    (summons.ground_at round).turn_of_silence (summons.caller_stays round) asked (.inl rfl)
      (fun _ => rfl) rfl
  have answers : summons.Answers round {} [] :=
    answers_of_sync (by omega) before.idle (.inl rfl) fun _ => rfl
  exact ⟨calls.succ answers, answers.succ calls.transmit (.inl rfl)⟩

theorem before_of_le (early : round ≤ summons.taken) : summons.Before round := by
  induction round with
  | zero => exact ⟨rfl, rfl⟩
  | succ round ih => exact (ih (Nat.le_of_succ_le early)).next early

/-- The request is made, and its first letter goes out at once. -/
theorem Before.speaks (before : summons.Before (summons.sentAt 0)) :
    summons.Underway 0 (summons.sentAt 0 + 1) := by
  have now := summons.sentAt_zero
  have asked : (summons.caller (summons.sentAt 0)).asked (summons.sentAt 0 * summons.duo.step) =
      (summons.plain (summons.sentAt 0)).overlay (summons.following 0)
        (Requester.request {} (summons.sentAt 0 * summons.duo.step)).value none [] := by
    rw [before.stands]
    exact Member.asked_overlay_of_due ((reached_iff _).mpr (Nat.le_of_eq now.symm))
  have next : Sequence.enter.byte? 0 = some 67 := rfl
  have calls := calls_of_more asked (fun wrong => absurd wrong (Nat.lt_irrefl 0)) due_of_request
    next (by decide)
  have answers : summons.Answers (summons.sentAt 0) (summons.hearing 0) [] :=
    answers_of_sync (by omega) before.idle (.inl rfl) fun _ => rfl
  have long := summons.duo.two_lt_period
  have second := summons.sentAt_succ 0
  have arrives := summons.sentAt_lt_arrivesAt 0
  exact ⟨Nat.lt_succ_self _, by omega, calls.succ answers,
    .sent 67 next arrives (answers.succ calls.transmit (.inl rfl))⟩

section Underway

variable (underway : summons.Underway letter round)
include underway

theorem Underway.asked : (summons.caller round).asked (round * summons.duo.step) =
    (summons.plain round).overlay (summons.following (letter + 1)) (summons.spoken letter) none
      [] := by
  rw [underway.stands]
  exact Member.asked_overlay_of_early rfl

/-- A round between two letters. -/
theorem Underway.next (more : letter + 1 < Sequence.size)
    (running : round < summons.sentAt (letter + 1)) : summons.Underway letter (round + 1) := by
  have last : summons.sentAt (letter + 1) ≤ summons.sentAt 2 :=
    summons.sentAt_mono (Nat.le_of_lt_succ more)
  have early : round * summons.duo.step < (summons.spoken letter).nextByte := by
    have span := summons.duo.span_le_iff (summons.sentAt letter) round
    rw [sentAt_succ] at running
    exact Nat.lt_of_not_le fun due => Nat.not_le.mpr running (span.mp due)
  have inside : round ≤ summons.sentAt 2 := Nat.le_of_lt (Nat.lt_of_lt_of_le running last)
  have silence : ((summons.spoken letter).poll .enter (round * summons.duo.step)
      summons.duo.ptu).value = (none, summons.spoken letter) :=
    Requester.poll_of_early rfl (summons.lt_restart inside) early
  have calls : summons.Calls round (summons.following (letter + 1)) (summons.spoken letter) none
      [] :=
    (summons.ground_at round).turn_of_silence (summons.caller_stays round) underway.asked (.inl rfl)
      (fresh_along fun _ => summons.plain_on underway.past) silence
  have soon := summons.early_of_le (Nat.le_succ_of_le inside)
  obtain ⟨_, _, answers, moved⟩ := underway.carries.next underway.past soon more
  exact ⟨Nat.lt_succ_of_lt underway.past, running, calls.succ answers, moved calls.transmit⟩

theorem Underway.of_le {later : Nat} (more : letter + 1 < Sequence.size) (order : round ≤ later)
    (soon : later ≤ summons.sentAt (letter + 1)) : summons.Underway letter later := by
  induction order with
  | refl => exact underway
  | step order ih => exact (ih (Nat.le_of_succ_le soon)).next more soon

end Underway

section Next

variable (underway : summons.Underway letter (summons.sentAt (letter + 1)))
include underway

/-- By the round of the next letter the latest one is heard. -/
theorem Underway.heard : summons.callee (summons.sentAt (letter + 1)) =
    (summons.plainOther (summons.sentAt (letter + 1))).overlay (summons.hearing (letter + 1)) {}
      summons.plan [] := by
  have long := summons.duo.two_lt_period
  have late := summons.arrivesAt_le letter
  have next := summons.sentAt_succ letter
  cases underway.carries with
  | sent byte _ before => omega
  | heard after stands => exact stands

theorem Underway.answers (more : letter + 1 < Sequence.size) :
    summons.Answers (summons.sentAt (letter + 1)) (summons.hearing (letter + 1)) [] := by
  have last : summons.sentAt (letter + 1) ≤ summons.sentAt 2 :=
    summons.sentAt_mono (Nat.le_of_lt_succ more)
  exact answers_of_sync (summons.early_of_le (Nat.le_succ_of_le last)) underway.heard (.inl rfl)
    (fresh_along fun _ => summons.plainOther_on underway.past)

/-- The next letter goes out. -/
theorem Underway.speaks {byte : UInt8} (next : Sequence.enter.byte? (letter + 1) = some byte)
    (more : letter + 2 < Sequence.size) :
    summons.Underway (letter + 1) (summons.sentAt (letter + 1) + 1) := by
  have calls := calls_of_more underway.asked (fun _ => summons.plain_on underway.past)
    due_of_spoken next more
  have answers := underway.answers (Nat.lt_of_succ_lt more)
  have long := summons.duo.two_lt_period
  have later := summons.sentAt_succ (letter + 1)
  have arrives := summons.sentAt_lt_arrivesAt (letter + 1)
  exact ⟨Nat.lt_succ_self _, by omega, calls.succ answers,
    .sent byte next arrives (answers.succ calls.transmit (.inl rfl))⟩

end Next

/-- Two letters are out and heard when the third one is due. -/
theorem underway_last (summons : Summons) : summons.Underway 1 (summons.sentAt 2) := by
  have before : summons.Before (summons.sentAt 0) :=
    before_of_le (Nat.le_of_eq summons.sentAt_zero)
  have first := before.speaks
  have next : Sequence.enter.byte? 1 = some 70 := rfl
  have second : summons.Underway 1 (summons.sentAt 1 + 1) :=
    (first.of_le (by decide) first.soon (Nat.le_refl _)).speaks next (by decide)
  exact second.of_le (by decide) second.soon (Nat.le_refl _)

/-- The caller enters System Configuration with the last letter. -/
theorem caller_enters (summons : Summons) :
    .modeChanged .systemConfiguration ∈
        ((summons.caller (summons.sentAt 2)).turn (summons.sentAt 2 * summons.duo.step)).events ∧
      ((summons.caller (summons.sentAt 2)).turn (summons.sentAt 2 * summons.duo.step)).transmit =
        ((summons.plain (summons.sentAt 2)).turn (summons.sentAt 2 * summons.duo.step)).transmit ++
          [summons.frame 71] :=
  have underway := summons.underway_last
  tells_of_last underway.asked (fun _ => summons.plain_on underway.past) due_of_spoken rfl rfl

/-- The last letter is at the head of the inbox when it is to be heard. -/
theorem last_arrives (summons : Summons) : ∃ later, summons.callee (summons.arrivesAt 2) =
    (summons.plainOther (summons.arrivesAt 2)).overlay (summons.hearing 2) {} summons.plan
      (summons.frame 71 :: later) := by
  have sent := (summons.underway_last.answers (by decide)).succ summons.caller_enters.2 (.inl rfl)
  by_cases empty : (summons.plainOther (summons.sentAt 2 + 1)).inbox = []
  · have next : summons.arrivesAt 2 = summons.sentAt 2 + 1 := if_pos empty
    rw [next]
    exact ⟨[], sent⟩
  · have next : summons.arrivesAt 2 = summons.sentAt 2 + 2 := if_neg empty
    have between := summons.ground_at (summons.sentAt 2 + 1)
    have on := summons.plainOther_on (Nat.lt_succ_self (summons.sentAt 2))
    have answers := answers_of_sync (summons.early_of_le (Nat.le_refl _)) sent (.inr empty)
      (fresh_along fun _ => on)
    -- Whatever the caller sends in System Configuration, it comes behind the letter.
    have quiet : ((summons.plain (summons.sentAt 2 + 1)).turn
        ((summons.sentAt 2 + 1) * summons.duo.step)).transmit = [] :=
      (between.rests.turn _).2.trans (between.turned.spaced empty)
    rw [next]
    exact ⟨_, answers.succ (by rw [quiet, List.nil_append]) (.inr empty)⟩

/-- The callee enters System Configuration when it hears the last letter, whether or not it
is asked itself in that round. -/
theorem callee_enters (summons : Summons) :
    .modeChanged .systemConfiguration ∈
      ((summons.callee (summons.arrivesAt 2)).turn
        (summons.arrivesAt 2 * summons.duo.step)).events := by
  obtain ⟨later, stands⟩ := summons.last_arrives
  obtain ⟨_, _, asked⟩ := Member.exists_asked_overlay (summons.plainOther (summons.arrivesAt 2))
    (summons.hearing 2) {} summons.plan (summons.frame 71 :: later)
    (summons.arrivesAt 2 * summons.duo.step)
  rw [← stands] at asked
  exact (summons.callee_stays _).tells_of_hearing asked (summons.inbox_arrivesAt 2)
    (summons.plainOther_on (summons.sentAt_lt_arrivesAt 2)) (summons.foreign _)
    (hearing_completes rfl rfl)

end Summons

end VehicleBus
