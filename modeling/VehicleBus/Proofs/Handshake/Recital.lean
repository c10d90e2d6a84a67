import VehicleBus.Handshake.Requester
import VehicleBus.Proofs.Handshake.Standing
import VehicleBus.Proofs.Handshake.Window

/-!
What a requester says, told by the log of what it was asked and what it did. The log alone decides
what may come next: a byte leaves for an open request, in its turn and a PTU after the one before,
and only the enter sequence starts over, an interval after it began.

A requester keeps four registers, which are set at different moments. Each of them is a reading of
the log, so a requester is a summary of its log, and whatever holds of every log holds of it.
-/
namespace VehicleBus.Handshake.Requester

/-- What can be asked of a requester. -/
inductive Input where
  | request (now : Nat)
  | cancel
  | poll (now : Nat)
  deriving DecidableEq, Repr

/-- An entry in the log of a requester. -/
inductive Event where
  | asked (now : Nat)
  | withdrawn
  /-- An enter sequence went back to its first byte. -/
  | startedOver (now : Nat)
  | sent (now : Nat) (byte : UInt8)
  deriving DecidableEq, Repr

section Log

variable (requester : Requester) (sequence : Sequence) (ptu : Nat)

/-- Whether a poll takes the sequence back to its first byte. -/
def startsOver (now : Nat) : Bool :=
  requester.pending && decide (sequence = .enter ∧ requester.restart ≤ now)

/-- The requester after an input. -/
def next : Input → Requester
  | .request now => (requester.request now).value
  | .cancel => requester.cancel
  | .poll now => (requester.poll sequence now ptu).value.2

/-- The entry of a poll that takes the sequence back. -/
def renewal (now : Nat) : List Event :=
  if requester.startsOver sequence now then [.startedOver now] else []

/-- The entry of a poll that sends a byte. -/
def uttered (now : Nat) (answer : Option UInt8) : List Event := answer.toList.map (.sent now)

/-- What an input adds to the log. -/
def events : Input → List Event
  | .request now => [.asked now]
  | .cancel => [.withdrawn]
  | .poll now =>
    requester.renewal sequence now ++
      uttered now (requester.poll sequence now ptu).value.1

end Log

/-- The log of a list of inputs, the oldest entry first. -/
def log (requester : Requester) (sequence : Sequence) (ptu : Nat) : List Input → List Event
  | [] => []
  | input :: rest =>
    requester.events sequence ptu input ++ (requester.next sequence ptu input).log sequence ptu rest

/-- The requester after a list of inputs. -/
def after (requester : Requester) (sequence : Sequence) (ptu : Nat) (inputs : List Input) :
    Requester :=
  inputs.foldl (fun requester input => requester.next sequence ptu input) requester

section Readings

/-- What the newest entry to give a reading gives, in a log with the newest first. -/
def latest {α : Type} (reading : Event → Option α) (fallback : α) (past : List Event) : α :=
  (past.findSome? reading).getD fallback

@[simp] theorem latest_cons {α : Type} (reading : Event → Option α) (fallback : α)
    (event : Event) (past : List Event) :
    latest reading fallback (event :: past) =
      (reading event).getD (latest reading fallback past) := by
  unfold latest
  rw [List.findSome?_cons]
  cases reading event <;> rfl

/-- Whether a request is open after an entry, where the entry decides it. -/
def Event.open? : Event → Option Bool
  | .asked _ => some true
  | .withdrawn => some false
  | .startedOver _ | .sent _ _ => none

/-- When the next byte may leave after an entry. -/
def Event.turn? (ptu : Nat) : Event → Option Nat
  | .asked now => some now
  | .sent now _ => some (now + ptu)
  | .withdrawn | .startedOver _ => none

/-- When the sequence began, of an entry that took it to its first byte. -/
def Event.begun? : Event → Option Nat
  | .asked now | .startedOver now => some now
  | .withdrawn | .sent _ _ => none

/-- When the sequence may start over after an entry. -/
def Event.renewal? (event : Event) : Option Nat := event.begun?.map (· + resendInterval)

/-- The number of bytes sent since the sequence began. -/
def place : List Event → Nat
  | .sent _ _ :: past => place past + 1
  | _ => 0

/-- The requester that has a log behind it, the newest entry first. -/
def ofLog (ptu : Nat) (past : List Event) : Requester where
  pending := latest Event.open? false past
  position := place past
  nextByte := latest (Event.turn? ptu) 0 past
  restart := latest Event.renewal? 0 past

end Readings

/-- What may come next in a log. -/
def Permits (sequence : Sequence) (ptu : Nat) (past : List Event) : Event → Prop
  | .asked _ | .withdrawn => True
  | .startedOver now =>
    sequence = .enter ∧ (ofLog ptu past).pending = true ∧ (ofLog ptu past).restart ≤ now
  | .sent now byte =>
    (ofLog ptu past).pending = true ∧ (ofLog ptu past).nextByte ≤ now ∧
      sequence.byte? (place past) = some byte

/-- A log, newest entry first, in which every entry was permitted by those before it. -/
def Lawful (sequence : Sequence) (ptu : Nat) : List Event → Prop
  | [] => True
  | event :: past => Permits sequence ptu past event ∧ Lawful sequence ptu past

/-- What a requester with a log behind it has behind it after further entries, which the log
permits. -/
structure Logs (sequence : Sequence) (ptu : Nat) (past entries : List Event)
    (reached : Requester) : Prop where
  summary : reached = ofLog ptu (entries.reverse ++ past)
  lawful : Lawful sequence ptu past → Lawful sequence ptu (entries.reverse ++ past)

section Steps

variable {sequence : Sequence} {ptu : Nat} {past : List Event}

theorem logs_nothing : Logs sequence ptu past [] (ofLog ptu past) := ⟨rfl, id⟩

theorem Logs.trans {early late : List Event} {reached : Requester}
    (first : Logs sequence ptu past early (ofLog ptu (early.reverse ++ past)))
    (second : Logs sequence ptu (early.reverse ++ past) late reached) :
    Logs sequence ptu past (early ++ late) reached := by
  have joined : (early ++ late).reverse ++ past = late.reverse ++ (early.reverse ++ past) := by
    rw [List.reverse_append, List.append_assoc]
  refine ⟨second.summary.trans (by rw [joined]), fun lawful => ?_⟩
  rw [joined]
  exact second.lawful (first.lawful lawful)

theorem logs_startOver (now : Nat) (pending : (ofLog ptu past).pending = true) :
    Logs sequence ptu past ((ofLog ptu past).renewal sequence now)
      ((ofLog ptu past).startOver sequence now).value := by
  by_cases due : sequence = .enter ∧ (ofLog ptu past).restart ≤ now
  · rw [renewal, if_pos (by simpa [startsOver, pending] using due), startOver, if_pos due]
    exact ⟨rfl, fun lawful => ⟨⟨due.1, pending, due.2⟩, lawful⟩⟩
  · rw [renewal, if_neg (by simpa [startsOver, pending] using due), startOver, if_neg due]
    exact logs_nothing

theorem logs_emitDue (now : Nat) (pending : (ofLog ptu past).pending = true) :
    Logs sequence ptu past (uttered now ((ofLog ptu past).emitDue sequence now ptu).value.1)
      ((ofLog ptu past).emitDue sequence now ptu).value.2 := by
  unfold emitDue
  split
  · exact logs_nothing
  · rename_i byte next
    split
    · rename_i due
      exact ⟨rfl, fun lawful => ⟨⟨pending, due, next⟩, lawful⟩⟩
    · exact logs_nothing

/-- Going back leaves the request open, so the byte that is due next is that of the longer log. -/
theorem logs_poll (now : Nat) :
    Logs sequence ptu past ((ofLog ptu past).events sequence ptu (.poll now))
      ((ofLog ptu past).next sequence ptu (.poll now)) := by
  cases pending : (ofLog ptu past).pending with
  | false => simpa [events, next, poll, pending, renewal, startsOver, uttered] using logs_nothing
  | true =>
    have back : Logs sequence ptu past _ _ := logs_startOver now pending
    have answer : ((ofLog ptu past).poll sequence now ptu).value =
        (((ofLog ptu past).startOver sequence now).value.emitDue sequence now ptu).value := by
      rw [poll, if_pos pending, Reaction.value_bind]
    have still : (ofLog ptu (((ofLog ptu past).renewal sequence now).reverse ++ past)).pending =
        true := by
      unfold renewal
      split
      · exact pending
      · exact pending
    rw [events, next, answer, back.summary]
    exact Logs.trans (back.summary ▸ back) (logs_emitDue now still)

theorem logs_step (input : Input) :
    Logs sequence ptu past ((ofLog ptu past).events sequence ptu input)
      ((ofLog ptu past).next sequence ptu input) := by
  cases input with
  | request now => exact ⟨rfl, fun lawful => ⟨trivial, lawful⟩⟩
  | cancel => exact ⟨rfl, fun lawful => ⟨trivial, lawful⟩⟩
  | poll now => exact logs_poll now

theorem logs_run (inputs : List Input) :
    Logs sequence ptu past ((ofLog ptu past).log sequence ptu inputs)
      ((ofLog ptu past).after sequence ptu inputs) := by
  induction inputs generalizing past with
  | nil => exact logs_nothing
  | cons input rest ih =>
    have step : Logs sequence ptu past _ _ := logs_step input
    show Logs sequence ptu past
      (_ ++ ((ofLog ptu past).next sequence ptu input).log sequence ptu rest)
      (((ofLog ptu past).next sequence ptu input).after sequence ptu rest)
    rw [step.summary]
    exact Logs.trans (step.summary ▸ step) ih

end Steps

section Readings

variable {sequence : Sequence} {ptu : Nat} {later past : List Event}

theorem Lawful.of_append (lawful : Lawful sequence ptu (later ++ past)) :
    Lawful sequence ptu past := by
  induction later with
  | nil => exact lawful
  | cons event later ih => exact ih lawful.2

/-- No request was made in a stretch of a log. -/
def Unasked (entries : List Event) : Prop := ∀ now, .asked now ∉ entries

theorem Unasked.tail {event : Event} {entries : List Event} (unasked : Unasked (event :: entries)) :
    Unasked entries :=
  fun now asked => unasked now (List.mem_cons_of_mem event asked)

theorem Unasked.reverse {entries : List Event} (unasked : Unasked entries) :
    Unasked entries.reverse :=
  fun now asked => unasked now (List.mem_reverse.mp asked)

/-- A bound on an instant outlasts the permitted entries that set the instant no lower. -/
theorem le_latest (reading : Event → Option Nat) {bound : Nat}
    (onward : ∀ event ∈ later, ∀ past instant, Permits sequence ptu past event →
      reading event = some instant → bound ≤ latest reading 0 past → bound ≤ instant)
    (lawful : Lawful sequence ptu (later ++ past)) (start : bound ≤ latest reading 0 past) :
    bound ≤ latest reading 0 (later ++ past) := by
  induction later with
  | nil => exact start
  | cons event later ih =>
    have before := ih (fun event member => onward event (List.mem_cons_of_mem _ member)) lawful.2
    rw [List.cons_append, latest_cons]
    cases moved : reading event with
    | none => exact before
    | some instant => exact onward event List.mem_cons_self _ instant lawful.1 moved before

/-- The turn of the next byte is never put back, except by a request. -/
theorem nextByte_le (lawful : Lawful sequence ptu (later ++ past)) (unasked : Unasked later) :
    (ofLog ptu past).nextByte ≤ (ofLog ptu (later ++ past)).nextByte := by
  refine le_latest (Event.turn? ptu) ?_ lawful (Nat.le_refl _)
  intro event member past instant permitted moved before
  cases event with
  | asked now => exact absurd member (unasked now)
  | withdrawn => contradiction
  | startedOver now => contradiction
  | sent now byte =>
    obtain rfl : now + ptu = instant := Option.some.inj moved
    exact Nat.le_trans before (Nat.le_trans permitted.2.1 (Nat.le_add_right now ptu))

/-- What is due an interval after an instant at the earliest stays so, whatever starts over and
whatever is asked for from that instant on. -/
theorem le_restart {began : Nat} (lawful : Lawful sequence ptu (later ++ past))
    (dated : ∀ now, .asked now ∈ later → began ≤ now)
    (start : began + resendInterval ≤ (ofLog ptu past).restart) :
    began + resendInterval ≤ (ofLog ptu (later ++ past)).restart := by
  refine le_latest Event.renewal? ?_ lawful start
  intro event member past instant permitted moved before
  cases event with
  | asked now =>
    obtain rfl : now + resendInterval = instant := Option.some.inj moved
    exact Nat.add_le_add_right (dated now member) resendInterval
  | withdrawn => contradiction
  | sent now byte => contradiction
  | startedOver now =>
    obtain rfl : now + resendInterval = instant := Option.some.inj moved
    exact Nat.le_trans before (Nat.le_trans permitted.2.2 (Nat.le_add_right now resendInterval))

/-- A request that is open and was made before a stretch was not withdrawn in it. -/
theorem withdrawn_not_mem (pending : (ofLog ptu (later ++ past)).pending = true)
    (unasked : Unasked later) : .withdrawn ∉ later := by
  induction later with
  | nil => exact List.not_mem_nil
  | cons event later ih =>
    cases event with
    | asked now => exact absurd List.mem_cons_self (unasked now)
    | withdrawn => simp [ofLog, Event.open?] at pending
    | startedOver now => simpa using ih pending unasked.tail
    | sent now byte => simpa using ih pending unasked.tail

/-- The byte at a place is there, so a place is never past the end. -/
theorem place_le (lawful : Lawful sequence ptu past) : place past ≤ Sequence.size := by
  cases past with
  | nil => exact Nat.zero_le _
  | cons event past =>
    cases event with
    | sent now byte => exact Sequence.lt_size_of_byte? lawful.1.2.2
    | asked now => exact Nat.zero_le _
    | withdrawn => exact Nat.zero_le _
    | startedOver now => exact Nat.zero_le _

/-- As long as the sequence is not begun anew, every entry of an open request is one byte more. -/
theorem place_append (pending : (ofLog ptu (later ++ past)).pending = true)
    (ongoing : ∀ event ∈ later, event.begun? = none) :
    place (later ++ past) = later.length + place past := by
  have unasked : Unasked later := fun now asked => nomatch ongoing _ asked
  have kept := withdrawn_not_mem pending unasked
  -- That the request is open says something about the whole log only, so it cannot go along.
  clear pending unasked
  induction later with
  | nil => simp
  | cons event later ih =>
    have rest := ih (fun event mem => ongoing event (List.mem_cons_of_mem _ mem))
      (fun gone => kept (List.mem_cons_of_mem _ gone))
    cases event with
    | asked now => exact nomatch ongoing _ List.mem_cons_self
    | startedOver now => exact nomatch ongoing _ List.mem_cons_self
    | withdrawn => exact absurd List.mem_cons_self kept
    | sent now byte =>
      rw [List.cons_append, place, rest, List.length_cons]
      omega

end Readings

/-- A request was made and not withdrawn since. -/
def Open : List Event → Prop :=
  Standing (fun event => ∃ now, event = .asked now) fun _ event => event = .withdrawn

/-- The byte that may follow an entry: the first one of the sequence where that begins, the next
one of the sequence after a byte of it. -/
def Suits (sequence : Sequence) (byte : UInt8) : Event → Prop
  | .asked _ | .startedOver _ => sequence.byte? 0 = some byte
  | .sent _ previous =>
    ∃ letter, sequence.byte? letter = some previous ∧ sequence.byte? (letter + 1) = some byte
  | .withdrawn => False

/-- The last byte of the sequence was sent and the sequence not begun anew. -/
def RanThrough (sequence : Sequence) (log : List Event) : Prop :=
  ∃ before now last since, log = before ++ .sent now last :: since ∧
    sequence.byte? 2 = some last ∧ ∀ event ∈ since, event.begun? = none

/-- What the log of a requester, oldest entry first, says about the bytes in it. -/
structure Recites (sequence : Sequence) (ptu : Nat) (log : List Event) : Prop where
  /-- A byte leaves for an open request only, and in its order. -/
  ordered : ∀ before now byte since, log = before ++ .sent now byte :: since →
    Open before ∧ ∃ last ∈ before.getLast?, Suits sequence byte last
  /-- Two bytes of one request are a PTU apart. -/
  paced : ∀ before first early between second late since,
    log = before ++ .sent first early :: (between ++ .sent second late :: since) →
      Unasked between → first + ptu ≤ second
  /-- Only the enter sequence starts over, and only for an open request. -/
  renewed : ∀ before now since, log = before ++ .startedOver now :: since →
    sequence = .enter ∧ Open before
  /-- The sequence starts over an interval after its request and after it last started over, also
  where it was asked for again since, at no earlier instant. -/
  spaced : ∀ before event began between now since,
    log = before ++ event :: (between ++ .startedOver now :: since) →
      event.begun? = some began → (∀ later, .asked later ∈ between → began ≤ later) →
        began + resendInterval ≤ now
  /-- An exit sequence sends each of its bytes once for a request. -/
  once : sequence = .exit → ∀ before first early between second late since,
    log = before ++ .sent first early :: (between ++ .sent second late :: since) →
      Unasked between → early ≠ late

section Recital

variable {sequence : Sequence} {ptu : Nat} {log : List Event}

theorem pending_iff_open (past : List Event) :
    (ofLog ptu past).pending = true ↔ Open past.reverse := by
  induction past with
  | nil => exact iff_of_false Bool.false_ne_true Standing.not_nil
  | cons event past ih =>
    rw [List.reverse_cons, Open, Standing.concat_iff, ← Open, ← ih]
    cases event <;> simp [ofLog, Event.open?]

theorem pending_reverse_iff_open (ptu : Nat) (log : List Event) :
    (ofLog ptu log.reverse).pending = true ↔ Open log := by
  rw [pending_iff_open, List.reverse_reverse]

/-- An entry of a lawful log was permitted by what stands before it. -/
theorem Lawful.permits (lawful : Lawful sequence ptu log.reverse) {before since : List Event}
    {event : Event} (split : log = before ++ event :: since) :
    Permits sequence ptu before.reverse event ∧ Lawful sequence ptu before.reverse := by
  subst split
  rw [List.reverse_append, List.reverse_cons, List.append_assoc] at lawful
  exact lawful.of_append

theorem Lawful.permits_later (lawful : Lawful sequence ptu log.reverse)
    {before between since : List Event} {event next : Event}
    (split : log = before ++ event :: (between ++ next :: since)) :
    Permits sequence ptu (between.reverse ++ event :: before.reverse) next ∧
      Lawful sequence ptu (between.reverse ++ event :: before.reverse) := by
  rw [← List.cons_append, ← List.append_assoc] at split
  simpa using lawful.permits split

/-- What stands before a byte says which byte it is. -/
theorem Lawful.suits {now : Nat} {byte : UInt8} {past : List Event}
    (lawful : Lawful sequence ptu (.sent now byte :: past)) :
    ∃ last ∈ past.head?, Suits sequence byte last := by
  obtain ⟨⟨pending, -, next⟩, behind⟩ := lawful
  cases past with
  | nil => exact absurd pending Bool.false_ne_true
  | cons last past =>
    refine ⟨last, rfl, ?_⟩
    cases last with
    | asked began => exact next
    | withdrawn => exact absurd pending Bool.false_ne_true
    | startedOver began => exact next
    | sent earlier previous => exact ⟨place past, behind.1.2.2, next⟩

/-- An exit sequence is begun by its request only. -/
theorem Lawful.begun?_eq_none {later past : List Event} (lawful : Lawful .exit ptu (later ++ past))
    (unasked : Unasked later) : ∀ event ∈ later, event.begun? = none := by
  induction later with
  | nil => exact nofun
  | cons event later ih =>
    have rest := ih lawful.2 unasked.tail
    refine List.forall_mem_cons.mpr ⟨?_, rest⟩
    cases event with
    | asked now => exact absurd List.mem_cons_self (unasked now)
    | startedOver now => exact nomatch lawful.1.1
    | withdrawn => rfl
    | sent now byte => rfl

theorem Lawful.ordered (lawful : Lawful sequence ptu log.reverse) {before since : List Event}
    {now : Nat} {byte : UInt8} (split : log = before ++ .sent now byte :: since) :
    Open before ∧ ∃ last ∈ before.getLast?, Suits sequence byte last := by
  have there := lawful.permits split
  rw [← pending_reverse_iff_open ptu, ← List.head?_reverse]
  exact ⟨there.1.1, Lawful.suits there⟩

theorem Lawful.paced (lawful : Lawful sequence ptu log.reverse) {before between since : List Event}
    {first second : Nat} {early late : UInt8}
    (split : log = before ++ .sent first early :: (between ++ .sent second late :: since))
    (unasked : Unasked between) : first + ptu ≤ second := by
  obtain ⟨⟨-, due, -⟩, behind⟩ := lawful.permits_later split
  have kept := nextByte_le behind unasked.reverse
  exact Nat.le_trans kept due

theorem Lawful.spaced (lawful : Lawful sequence ptu log.reverse)
    {before between since : List Event} {event : Event} {began now : Nat}
    (split : log = before ++ event :: (between ++ .startedOver now :: since))
    (begun : event.begun? = some began) (dated : ∀ later, .asked later ∈ between → began ≤ later) :
    began + resendInterval ≤ now := by
  obtain ⟨⟨-, -, due⟩, behind⟩ := lawful.permits_later split
  have interval : (ofLog ptu (event :: before.reverse)).restart = began + resendInterval := by
    simp [ofLog, Event.renewal?, begun]
  have kept := le_restart behind (fun later asked => dated later (List.mem_reverse.mp asked))
    (Nat.le_of_eq interval.symm)
  exact Nat.le_trans kept due

/-- Nothing but its bytes stands between two bytes of one exit sequence, so the places of these
differ, and the bytes with them. -/
theorem Lawful.once (lawful : Lawful .exit ptu log.reverse) {before between since : List Event}
    {first second : Nat} {early late : UInt8}
    (split : log = before ++ .sent first early :: (between ++ .sent second late :: since))
    (unasked : Unasked between) : early ≠ late := by
  obtain ⟨⟨pending, -, next⟩, behind⟩ := lawful.permits_later split
  have earlier : Sequence.exit.byte? (place before.reverse) = some early :=
    behind.of_append.1.2.2
  have ongoing := behind.begun?_eq_none unasked.reverse
  have further := place_append pending ongoing
  rintro rfl
  have same := Sequence.exit.byte?_inj (Sequence.lt_size_of_byte? earlier)
    (earlier.trans next.symm)
  change place (between.reverse ++ _) = _ + (place before.reverse + 1) at further
  omega

theorem Lawful.recites (lawful : Lawful sequence ptu log.reverse) : Recites sequence ptu log where
  ordered _ _ _ _ split := lawful.ordered split
  paced _ _ _ _ _ _ _ split unasked := lawful.paced split unasked
  renewed _ _ _ split := by
    obtain ⟨enter, pending, -⟩ := (lawful.permits split).1
    exact ⟨enter, (pending_reverse_iff_open ptu _).mp pending⟩
  spaced _ _ _ _ _ _ split begun dated := lawful.spaced split begun dated
  once exit _ _ _ _ _ _ _ split unasked := by
    subst exit
    exact lawful.once split unasked

/-- Whoever is at the end of the sequence sent its last byte with the newest entry. -/
theorem Lawful.ranThrough_of_place (lawful : Lawful sequence ptu log.reverse)
    (whole : place log.reverse = Sequence.size) : RanThrough sequence log := by
  match shape : log.reverse, whole with
  | .sent now last :: past, whole =>
    have split : log = past.reverse ++ [.sent now last] := by
      rw [← List.reverse_reverse log, shape, List.reverse_cons]
    have two : place past = 2 := Nat.succ.inj whole
    have next := (lawful.permits split).1.2.2
    rw [List.reverse_reverse, two] at next
    exact ⟨past.reverse, now, last, [], split, next, nofun⟩

/-- After its last byte an open request has no byte left for further entries. -/
theorem Lawful.place_of_ranThrough (lawful : Lawful sequence ptu log.reverse) (opened : Open log)
    (through : RanThrough sequence log) : place log.reverse = Sequence.size := by
  obtain ⟨before, now, last, since, split, third, ongoing⟩ := through
  have there := (lawful.permits split).1.2.2
  have two := sequence.byte?_inj (Sequence.lt_size_of_byte? third) (third.trans there.symm)
  have shape : log.reverse = since.reverse ++ .sent now last :: before.reverse := by
    rw [split]
    simp
  have pending := (pending_reverse_iff_open ptu log).mpr opened
  have most : place log.reverse ≤ 3 := place_le lawful
  rw [shape] at pending most
  have further := place_append pending
    (fun event member => ongoing event (List.mem_reverse.mp member))
  rw [place, ← two] at further
  show place log.reverse = 3
  rw [shape]
  omega

theorem Lawful.finished_iff (lawful : Lawful sequence ptu log.reverse) :
    (ofLog ptu log.reverse).finished = true ↔ Open log ∧ RanThrough sequence log := by
  rw [finished, Bool.and_eq_true, beq_iff_eq, pending_reverse_iff_open]
  exact and_congr_right fun opened =>
    ⟨lawful.ranThrough_of_place, lawful.place_of_ranThrough opened⟩

end Recital

/-- What a requester says in answer to any requests, withdrawals and polls, at any instants, is
the recital of its sequence. Its entries of one request are those up to the next one, which begins
the sequence anew; a request that was withdrawn is closed and says nothing. Whether a request is
pending, and whether it is finished, can be read off what was asked and said. -/
theorem requests_are_recited (sequence : Sequence) (ptu : Nat) (inputs : List Input) :
    let log := ({} : Requester).log sequence ptu inputs
    let reached := ({} : Requester).after sequence ptu inputs
    Recites sequence ptu log ∧ (reached.pending = true ↔ Open log) ∧
      (reached.finished = true ↔ reached.pending = true ∧ RanThrough sequence log) := by
  intro log reached
  have run : Logs sequence ptu [] log reached := logs_run inputs
  have summary : reached = ofLog ptu log.reverse := by simpa using run.summary
  have lawful : Lawful sequence ptu log.reverse := by simpa using run.lawful trivial
  have pending : reached.pending = true ↔ Open log := by
    rw [summary]
    exact pending_reverse_iff_open ptu log
  refine ⟨lawful.recites, pending, ?_⟩
  rw [pending, summary]
  exact lawful.finished_iff

/-- With a PTU above half the interval the sequence starts over while its third byte waits, and its
first byte waits in its place. -/
example :
    ({} : Requester).log .enter 600000
        [.request 0, .poll 0, .poll 700000, .poll 1000000, .poll 1300000] =
      [.asked 0, .sent 0 67, .sent 700000 70, .startedOver 1000000, .sent 1300000 67] := by
  decide

end VehicleBus.Handshake.Requester
