import Mathlib.Data.List.Chain
import VehicleBus.Config
import VehicleBus.Proofs.Handshake.Pace
import VehicleBus.Proofs.Handshake.Recital

/-!
A requester and a listener of one sequence fit together. The longest PTU leaves a slack to the
longest gap that a listener tolerates; a requester that is polled with no gap above that slack says
its three bytes in time for any listener, and before its sequence could start over.
-/
namespace VehicleBus.Handshake

/-- What the longest PTU leaves of the longest gap between two bytes of a sequence. -/
def slack : Nat := 66666

theorem ptu_add_slack_le (config : Config) : config.timing.ptu + slack ≤ maxGap := by
  have most := config.ptu_le
  simp only [slack, maxGap, Clock.millisecond]
  omega

/-- Instants that follow an instant, with no gap above the slack before a limit, which they
reach. -/
structure Dense (limit last : Nat) (instants : List Nat) : Prop where
  chain : (last :: instants).IsChain fun last next =>
    last ≤ next ∧ (last < limit → next ≤ last + slack)
  reaches : ∃ instant ∈ instants, limit ≤ instant

theorem Dense.tail {limit last instant : Nat} {instants : List Nat}
    (dense : Dense limit last (instant :: instants)) (before : instant < limit) :
    Dense limit instant instants where
  chain := (List.isChain_cons_cons.mp dense.chain).2
  reaches := by
    obtain ⟨late, member, reached⟩ := dense.reaches
    rcases List.mem_cons.mp member with rfl | later
    · omega
    · exact ⟨late, later, reached⟩

/-- The entry of a byte that is sent where it is heard. -/
def Heard.sent (heard : Heard) : Requester.Event := .sent heard.now heard.byte

namespace Requester

/-- A byte whose instant lies ahead is the next to go out, at the first poll from then on. -/
theorem log_of_wait {sequence : Sequence} {limit last : Nat} {instants : List Nat}
    (requester : Requester) (ptu : Nat) (byte : UInt8) (pending : requester.pending = true)
    (next : sequence.byte? requester.position = some byte) (dense : Dense limit last instants)
    (ahead : last ≤ requester.nextByte) (inTime : requester.nextByte + slack < limit)
    (running : limit ≤ requester.restart) :
    ∃ now rest, Dense limit now rest ∧
      requester.nextByte ≤ now ∧ now ≤ requester.nextByte + slack ∧
      requester.log sequence ptu (instants.map .poll) = .sent now byte ::
        (requester.emit now ptu byte).value.2.log sequence ptu (rest.map .poll) := by
  induction instants generalizing last with
  | nil =>
    obtain ⟨late, none, -⟩ := dense.reaches
    contradiction
  | cons instant instants ih =>
    obtain ⟨⟨onward, soon⟩, -⟩ := List.isChain_cons_cons.mp dense.chain
    have close := soon (by omega)
    have rest := dense.tail (by omega)
    have quiet : requester.renewal sequence instant = [] := by
      have early : ¬ requester.restart ≤ instant := by omega
      simp [renewal, startsOver, early]
    rcases Nat.lt_or_ge instant requester.nextByte with early | due
    · have still : (requester.poll sequence instant ptu).value = _ :=
        poll_of_early pending (by omega) early
      simpa [log, events, Requester.next, still, quiet, uttered] using ih rest (by omega)
    · have sent : (requester.poll sequence instant ptu).value = _ :=
        poll_of_due pending (by omega) next due
      refine ⟨instant, instants, rest, due, by omega, ?_⟩
      simp [log, events, Requester.next, sent, quiet, uttered, emit]

end Requester

namespace Listener

/-- What can be asked of a listener. -/
inductive Input where
  | hear (heard : Heard)
  | reset
  deriving DecidableEq, Repr

/-- The listener after an input. -/
def next (listener : Listener) (sequence : Sequence) : Input → Listener
  | .hear heard => (listener.hear sequence heard.now heard.source heard.byte).value.2
  | .reset => listener.reset

/-- The listener after a list of inputs. -/
def after (listener : Listener) (sequence : Sequence) (inputs : List Input) : Listener :=
  inputs.foldl (fun listener input => listener.next sequence input) listener

/-- What a listener answers to the bytes of a list, one after the other. -/
def verdicts (listener : Listener) (sequence : Sequence) : List Heard → List Verdict
  | [] => []
  | heard :: rest =>
    (listener.hear sequence heard.now heard.source heard.byte).value.1 ::
      (listener.next sequence (.hear heard)).verdicts sequence rest

theorem after_follows {sequence : Sequence} {listener : Listener} {recent : List Heard}
    (follows : listener.Follows sequence recent) (inputs : List Input) :
    ∃ recent, (listener.after sequence inputs).Follows sequence recent := by
  induction inputs generalizing listener recent with
  | nil => exact ⟨recent, follows⟩
  | cons input inputs ih =>
    cases input with
    | hear heard => exact ih (hear_answers heard follows).1
    | reset => exact ih (follows_start sequence listener.reset rfl)

/-- A byte that is not the last one of a sequence completes none. -/
theorem hear_ne_complete {sequence : Sequence} {listener : Listener} {recent : List Heard}
    {place : Nat} (heard : Heard) (follows : listener.Follows sequence recent) (inside : place < 2)
    (there : sequence.byte? place = some heard.byte) :
    (listener.hear sequence heard.now heard.source heard.byte).value.1 ≠ .complete := by
  rw [Ne, (hear_answers heard follows).2]
  intro finished
  match recent, finished with
  | _ :: _ :: _, spelled =>
    have same := sequence.byte?_inj (Nat.lt_succ_of_lt inside) (there.trans spelled.2.1.symm)
    omega

end Listener

/-- The bytes of a sequence as a source says them at three instants. -/
def Sequence.recital (sequence : Sequence) (source : UInt8) (first second third : Nat) :
    List Heard :=
  List.zipWith (fun now byte => { now, source, byte }) [first, second, third] sequence.bytes

section Letters

variable (sequence : Sequence)

theorem Sequence.exists_letters : ∃ one two three, sequence.bytes = [one, two, three] ∧
    sequence.byte? 0 = some one ∧ sequence.byte? 1 = some two ∧ sequence.byte? 2 = some three := by
  cases sequence <;> exact ⟨_, _, _, rfl, rfl, rfl, rfl⟩

theorem Sequence.recital_eq {one two three : UInt8} (letters : sequence.bytes = [one, two, three])
    (source : UInt8) (first second third : Nat) :
    sequence.recital source first second third =
      [⟨first, source, one⟩, ⟨second, source, two⟩, ⟨third, source, three⟩] := by
  rw [recital, letters]
  rfl

end Letters

/-- Whatever a listener heard before, of a whole sequence in time it accepts the last byte. -/
theorem Listener.verdicts_recital {sequence : Sequence} {listener : Listener}
    {recent : List Heard} {source : UInt8} {first second third : Nat}
    (follows : listener.Follows sequence recent) (soon : second ≤ first + maxGap)
    (late : third ≤ second + maxGap) :
    (listener.verdicts sequence (sequence.recital source first second third)).map
      (decide <| · = .complete) = [false, false, true] := by
  obtain ⟨one, two, three, letters, begins, middle, last⟩ := sequence.exists_letters
  let heard₁ : Heard := ⟨first, source, one⟩
  let heard₂ : Heard := ⟨second, source, two⟩
  let heard₃ : Heard := ⟨third, source, three⟩
  have after₁ := (hear_answers heard₁ follows).1
  have after₂ := (hear_answers heard₂ after₁).1
  have open₁ := hear_ne_complete heard₁ follows (by decide) begins
  have open₂ := hear_ne_complete heard₂ after₁ (by decide) middle
  have whole : heard₃.Spells heard₂ heard₁ sequence :=
    ⟨⟨begins, middle, rfl, soon⟩, last, rfl, late⟩
  have done := (hear_answers heard₃ after₂).2.mpr whole
  rw [sequence.recital_eq letters]
  simp only [verdicts, List.map_cons, List.map_nil, List.cons.injEq, and_true]
  exact ⟨decide_eq_false open₁, decide_eq_false open₂, decide_eq_true done⟩

/-- A request that is polled often enough says its bytes before anything else becomes of it, each of
them later than its turn by the slack at most. -/
theorem Requester.log_of_request {ptu asked : Nat} {polls : List Nat} (requester : Requester)
    (sequence : Sequence) (source : UInt8) (fits : ptu + slack ≤ maxGap)
    (polled : Dense (asked + 900 * Clock.millisecond) asked polls) :
    ∃ first second third since,
      requester.log sequence ptu (.request asked :: polls.map .poll) = .asked asked ::
        ((sequence.recital source first second third).map Heard.sent ++ since) ∧
      first ≤ asked + slack ∧ second ≤ first + ptu + slack ∧ third ≤ second + ptu + slack := by
  obtain ⟨one, two, three, letters, begins, middle, last⟩ := sequence.exists_letters
  have spans : slack = 66666 ∧ maxGap = 400000 ∧ resendInterval = 1000000 ∧
      900 * Clock.millisecond = 900000 := by decide
  obtain ⟨gap, longest, interval, spanned⟩ := spans
  -- The third byte is due 800 ms after the request at the latest, so every wait ends in time.
  let fresh := (requester.request asked).value
  obtain ⟨first, polls₁, polled₁, -, soon₁, opening⟩ :=
    fresh.log_of_wait ptu one rfl begins polled (Nat.le_refl asked)
      (show asked + slack < _ by omega) (show _ ≤ asked + resendInterval by omega)
  let begun := (fresh.emit first ptu one).value.2
  change first ≤ asked + slack at soon₁
  obtain ⟨second, polls₂, polled₂, -, soon₂, going⟩ :=
    begun.log_of_wait ptu two rfl middle polled₁ (show first ≤ first + ptu by omega)
      (show first + ptu + slack < _ by omega)
      (show _ ≤ asked + resendInterval by omega)
  let halfway := (begun.emit second ptu two).value.2
  change second ≤ first + ptu + slack at soon₂
  obtain ⟨third, polls₃, -, -, soon₃, closing⟩ :=
    halfway.log_of_wait ptu three rfl last polled₂ (show second ≤ second + ptu by omega)
      (show second + ptu + slack < _ by omega)
      (show _ ≤ asked + resendInterval by omega)
  refine ⟨first, second, third,
    (halfway.emit third ptu three).value.2.log sequence ptu (polls₃.map .poll), ?_, soon₁, soon₂,
    soon₃⟩
  calc requester.log sequence ptu (.request asked :: polls.map .poll)
      = .asked asked :: fresh.log sequence ptu (polls.map .poll) := rfl
    _ = .asked asked :: .sent first one :: .sent second two :: .sent third three ::
          (halfway.emit third ptu three).value.2.log sequence ptu (polls₃.map .poll) := by
        rw [opening, going, closing]
    _ = _ := by
        rw [sequence.recital_eq letters]
        rfl

/-- A request that is polled often enough for nine tenths of a second says its sequence first, the
last byte two PTUs and three gaps after the request at most, and not before it started over. A
listener that hears those bytes from one source as they leave, whatever it heard and forgot before,
takes exactly the last one for the end of the sequence. -/
theorem requests_are_heard (config : Config) (sequence : Sequence) (requester : Requester)
    (asked : Nat) (polls : List Nat) (heard : List Listener.Input) (source : UInt8)
    (polled : Dense (asked + 900 * Clock.millisecond) asked polls) :
    let ptu := config.timing.ptu
    let listener := ({} : Listener).after sequence heard
    ∃ first second third since,
      requester.log sequence ptu (.request asked :: polls.map .poll) = .asked asked ::
        ((sequence.recital source first second third).map Heard.sent ++ since) ∧
      third ≤ asked + 2 * ptu + 3 * slack ∧
      (listener.verdicts sequence (sequence.recital source first second third)).map
        (decide <| · = .complete) = [false, false, true] := by
  intro ptu listener
  have fits : ptu + slack ≤ maxGap := ptu_add_slack_le config
  obtain ⟨first, second, third, since, log, close, soon, late⟩ :=
    requester.log_of_request sequence source fits polled
  obtain ⟨recent, follows⟩ :=
    Listener.after_follows (Listener.follows_start sequence {} rfl) heard
  exact ⟨first, second, third, since, log, by omega,
    Listener.verdicts_recital follows (by omega) (by omega)⟩

/-- At three hertz, polled as rarely as may be, the last byte leaves eight microseconds before the
bound. The listener had begun to hear another source. -/
theorem slowest_request_is_heard :
    let config : Config :=
      { Config.candidate 10 (by decide) with
        frequency := 3
        minFrequency_le := by decide
        le_maxFrequency := by decide }
    let polls := [66666, 133332, 199998, 266664, 333330, 399996, 466662, 533328, 599994, 666660,
      733326, 799992, 866658, 933324]
    Dense (0 + 900 * Clock.millisecond) 0 polls ∧
      ∃ first second third since,
        ({} : Requester).log .enter config.timing.ptu (.request 0 :: polls.map .poll) = .asked 0 ::
          ((Sequence.enter.recital 10 first second third).map Heard.sent ++ since) ∧
        third ≤ 0 + 2 * config.timing.ptu + 3 * slack ∧
        ((({} : Listener).after .enter [.hear ⟨0, 12, 67⟩]).verdicts .enter
          (Sequence.enter.recital 10 first second third)).map
            (decide <| · = .complete) = [false, false, true] := by
  intro config polls
  have dense : Dense (0 + 900 * Clock.millisecond) 0 polls := ⟨by decide, by decide⟩
  exact ⟨dense, requests_are_heard config .enter {} 0 polls [.hear ⟨0, 12, 67⟩] 10 dense⟩

end VehicleBus.Handshake
