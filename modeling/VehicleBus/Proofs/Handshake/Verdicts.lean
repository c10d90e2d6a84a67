import VehicleBus.Proofs.Handshake.Accord

/-!
The verdicts of a listener. Position, source and instant of a listener stand for the bytes that it
heard since it last was reset or completed its sequence: they say how far the newest of these spell
the sequence, and whether the next byte may go on there. Every verdict is told by that alone.
-/
namespace VehicleBus.Handshake

/-- How many bytes of a sequence the newest bytes spell, the newest of which stands first. -/
def Sequence.spelled (sequence : Sequence) : List Heard → Nat
  | second :: first :: _ =>
    if second.Proceeds first sequence then 2 else if second.Begins sequence then 1 else 0
  | [first] => if first.Begins sequence then 1 else 0
  | [] => 0

theorem Sequence.spelled_le (sequence : Sequence) (recent : List Heard) :
    sequence.spelled recent ≤ 2 := by
  unfold spelled
  split <;> grind

namespace Heard

variable (heard : Heard) (sequence : Sequence) (recent : List Heard)

/-- A byte comes in time, and from the right source, to go on with what is spelled. -/
def Resumes : Prop :=
  0 < sequence.spelled recent ∧ ∃ newest ∈ recent.head?, heard.Continues newest

/-- A byte is the last one of what is spelled. -/
def Completes : Prop :=
  sequence.spelled recent = 2 ∧ heard.Resumes sequence recent ∧ sequence.byte? 2 = some heard.byte

/-- A byte is the second one of what is spelled, or the first one where nothing goes on. -/
def Advances : Prop :=
  (heard.Resumes sequence recent ∧ sequence.spelled recent = 1 ∧
      sequence.byte? 1 = some heard.byte) ∨
    (¬ heard.Resumes sequence recent ∧ heard.Begins sequence)

/-- The verdict on a byte is the one that the bytes before it call for. -/
structure Judged (verdict : Verdict) : Prop where
  complete : verdict = .complete ↔ heard.Completes sequence recent
  progress : verdict = .progress ↔ heard.Advances sequence recent
  restarted : verdict = .restarted ↔ 0 < sequence.spelled recent ∧
    ¬ heard.Completes sequence recent ∧ ¬ heard.Advances sequence recent
  ignored : verdict = .ignored ↔ sequence.spelled recent = 0 ∧ ¬ heard.Begins sequence

end Heard

namespace Listener

section Hear

variable {listener : Listener} {sequence : Sequence} {recent : List Heard}

/-- A listener is as far as the newest bytes spell its sequence. -/
theorem Follows.position_eq (follows : listener.Follows sequence recent) :
    listener.position = sequence.spelled recent := by
  cases follows with
  | idle _ zero closed apart =>
    rw [zero]
    match recent with
    | [] => rfl
    | [first] => exact (if_neg (closed first rfl)).symm
    | second :: first :: rest =>
      rw [Sequence.spelled, if_neg (apart second first rest rfl), if_neg (closed second rfl)]
  | begun first rest one opening _ _ =>
    rw [one]
    cases rest with
    | nil => exact (if_pos opening).symm
    | cons before rest =>
      have single : ¬ first.Proceeds before sequence := fun proceeding =>
        Heard.not_begins_of_second proceeding.2.1 opening
      rw [Sequence.spelled, if_neg single, if_pos opening]
  | halfway second first rest two proceeding _ _ =>
    rw [two, Sequence.spelled, if_pos proceeding]

/-- It stalls at a byte that does not go on with what is spelled. -/
theorem Follows.stalls_iff (follows : listener.Follows sequence recent) (heard : Heard) :
    (listener.stalled heard.now heard.source).value = true ↔
      0 < sequence.spelled recent ∧ ¬ heard.Resumes sequence recent := by
  have position := follows.position_eq
  cases follows with
  | idle _ zero _ _ =>
    rw [stalled, if_pos zero, ← position, zero]
    simp
  | begun first rest one _ source latest =>
    rw [value_stalled first heard (by rw [one]; decide) source latest]
    simp [Heard.Resumes, ← position, one]
  | halfway second first rest two _ source latest =>
    rw [value_stalled second heard (by rw [two]; decide) source latest]
    simp [Heard.Resumes, ← position, two]

/-- The verdict on a byte, by the position alone. -/
theorem verdict_judge (listener : Listener) (sequence : Sequence) (gaveUp : Bool) (heard : Heard) :
    (listener.judge sequence gaveUp heard.now heard.source heard.byte).1 =
      if sequence.byte? listener.position = some heard.byte then
        if listener.position + 1 = Sequence.size then .complete else .progress
      else if 0 < listener.position ∨ gaveUp = true then .restarted else .ignored := by
  unfold judge advance startOver
  by_cases next : sequence.byte? listener.position = some heard.byte
  · rw [if_pos next, if_pos next]
    split <;> rfl
  · rw [if_neg next, if_neg next]
    by_cases busy : 0 < listener.position
    · rw [if_pos busy, if_pos (Or.inl busy)]
      split <;> rfl
    · cases gaveUp <;> simp [busy]

/-- Without an attempt under way the byte begins one or not. -/
theorem verdict_judge_of_idle (gaveUp : Bool) (heard : Heard) (zero : listener.position = 0) :
    (listener.judge sequence gaveUp heard.now heard.source heard.byte).1 =
      if heard.Begins sequence then .progress
      else if gaveUp = true then .restarted else .ignored := by
  rw [verdict_judge, zero]
  by_cases begins : heard.Begins sequence
  · rw [if_pos begins, if_pos (show sequence.byte? 0 = some heard.byte from begins)]
    rfl
  · rw [if_neg begins, if_neg (show ¬ sequence.byte? 0 = some heard.byte from begins)]
    simp only [Nat.lt_irrefl, false_or]

/-- A listener judges a byte after it has given up a stalled attempt. -/
theorem verdict_hear (listener : Listener) (sequence : Sequence) (heard : Heard) :
    let stalled := (listener.stalled heard.now heard.source).value
    (listener.hear sequence heard.now heard.source heard.byte).value.1 =
      ((if stalled then listener.reset else listener).judge sequence stalled heard.now heard.source
        heard.byte).1 := rfl

/-- The verdict of a listener that goes on: the byte is the next one, or the attempt is given up. -/
theorem Follows.verdict_of_resumes (follows : listener.Follows sequence recent) (heard : Heard)
    (resumes : heard.Resumes sequence recent) :
    (listener.hear sequence heard.now heard.source heard.byte).value.1 =
      if sequence.byte? (sequence.spelled recent) = some heard.byte then
        if sequence.spelled recent + 1 = Sequence.size then .complete else .progress
      else .restarted := by
  have going : (listener.stalled heard.now heard.source).value = false := by
    rw [← Bool.not_eq_true, follows.stalls_iff heard]
    exact fun stalls => stalls.2 resumes
  have busy : 0 < listener.position := follows.position_eq ▸ resumes.1
  rw [verdict_hear, going, if_neg Bool.false_ne_true, verdict_judge, if_pos (Or.inl busy),
    follows.position_eq]

/-- The verdict of a listener that does not go on: the byte is the first one of an attempt, or there
is none. -/
theorem Follows.verdict_of_not_resumes (follows : listener.Follows sequence recent) (heard : Heard)
    (stops : ¬ heard.Resumes sequence recent) :
    (listener.hear sequence heard.now heard.source heard.byte).value.1 =
      if heard.Begins sequence then .progress
      else if 0 < sequence.spelled recent then .restarted else .ignored := by
  have stalls : (listener.stalled heard.now heard.source).value =
      decide (0 < sequence.spelled recent) := by
    rw [Bool.eq_iff_iff, follows.stalls_iff heard, decide_eq_true_iff]
    exact and_iff_left stops
  have zero : (if (listener.stalled heard.now heard.source).value then listener.reset
      else listener).position = 0 := by
    rw [stalls]
    by_cases busy : 0 < sequence.spelled recent
    · rw [decide_eq_true busy]
      rfl
    · rw [decide_eq_false busy]
      exact follows.position_eq.trans (Nat.eq_zero_of_not_pos busy)
  rw [verdict_hear, verdict_judge_of_idle _ heard zero, stalls]
  simp only [decide_eq_true_eq]

/-- What is spelled is all that a listener goes by. -/
theorem Follows.judged (follows : listener.Follows sequence recent) (heard : Heard) :
    heard.Judged sequence recent
      (listener.hear sequence heard.now heard.source heard.byte).value.1 := by
  by_cases resumes : heard.Resumes sequence recent
  · have spelled : sequence.spelled recent = 1 ∨ sequence.spelled recent = 2 := by
      have started := resumes.1
      have short := sequence.spelled_le recent
      omega
    rw [follows.verdict_of_resumes heard resumes]
    rcases spelled with one | two
    · by_cases next : sequence.byte? 1 = some heard.byte <;>
        constructor <;> simp [Heard.Completes, Heard.Advances, resumes, one, next, Sequence.size]
    · by_cases last : sequence.byte? 2 = some heard.byte <;>
        constructor <;> simp [Heard.Completes, Heard.Advances, resumes, two, last, Sequence.size]
  · rw [follows.verdict_of_not_resumes heard resumes]
    by_cases begins : heard.Begins sequence
    · constructor <;> simp [Heard.Completes, Heard.Advances, resumes, begins]
    · rcases Nat.eq_zero_or_pos (sequence.spelled recent) with zero | busy
      · constructor <;> simp [Heard.Completes, Heard.Advances, resumes, begins, zero]
      · constructor <;>
          simp [Heard.Completes, Heard.Advances, resumes, begins, busy, Nat.ne_of_gt busy]

/-- A listener that took the last byte of its sequence waits for a first one. -/
theorem position_judge_of_complete {gaveUp : Bool} {heard : Heard}
    (complete : (listener.judge sequence gaveUp heard.now heard.source heard.byte).1 = .complete) :
    (listener.judge sequence gaveUp heard.now heard.source heard.byte).2.position = 0 := by
  by_cases next : sequence.byte? listener.position = some heard.byte
  · rw [verdict_judge, if_pos next] at complete
    rw [judge, if_pos next, advance]
    split
    · rfl
    · rename_i more
      rw [if_neg more] at complete
      cases complete
  · rw [verdict_judge, if_neg next] at complete
    split at complete <;> cases complete

end Hear

section Run

/-- The bytes of the attempt that a listener is in after an input, the newest first. A reset ends
an attempt, and so does the end of the sequence. -/
def keep (listener : Listener) (sequence : Sequence) (recent : List Heard) : Input → List Heard
  | .hear heard =>
    if (listener.hear sequence heard.now heard.source heard.byte).value.1 = .complete then []
    else heard :: recent
  | .reset => []

/-- The bytes that a listener heard since it last was reset or completed its sequence, the newest
first, where some were heard already. -/
def attempt (listener : Listener) (sequence : Sequence) (recent : List Heard) :
    List Input → List Heard
  | [] => recent
  | input :: rest =>
    (listener.next sequence input).attempt sequence (listener.keep sequence recent input) rest

variable {listener : Listener} {sequence : Sequence} {recent : List Heard}

/-- A listener follows its attempt from one input to the next. -/
theorem Follows.next (follows : listener.Follows sequence recent) (input : Input) :
    (listener.next sequence input).Follows sequence (listener.keep sequence recent input) := by
  cases input with
  | reset => exact follows_start sequence listener.reset rfl
  | hear heard =>
    by_cases complete :
        (listener.hear sequence heard.now heard.source heard.byte).value.1 = .complete
    · rw [keep, if_pos complete]
      exact follows_start sequence _ (position_judge_of_complete complete)
    · rw [keep, if_neg complete]
      exact (hear_answers heard follows).1

theorem Follows.after (follows : listener.Follows sequence recent) (inputs : List Input) :
    (listener.after sequence inputs).Follows sequence
      (listener.attempt sequence recent inputs) := by
  induction inputs generalizing listener recent with
  | nil => exact follows
  | cons input rest ih => exact ih (follows.next input)

end Run

end Listener

/-- Whatever a listener heard, in whatever order of instants, and whenever it was reset: its verdict
on a byte is told by the bytes heard since it last was reset or completed its sequence. -/
theorem verdicts_follow_the_attempt (sequence : Sequence) (inputs : List Listener.Input)
    (heard : Heard) :
    heard.Judged sequence (Listener.attempt {} sequence [] inputs)
      ((({} : Listener).after sequence inputs).hear sequence heard.now heard.source
        heard.byte).value.1 :=
  ((Listener.follows_start sequence {} rfl).after inputs).judged heard

/-- A first byte is progress where nothing goes on, even in the middle of a sequence, and a restart
where the sequence would have gone on. -/
example :
    let begun := ({} : Listener).after .enter [.hear ⟨0, 7, 67⟩]
    (begun.hear .enter 400001 7 67).value.1 = .progress ∧
      (begun.hear .enter 400000 7 67).value.1 = .restarted := by
  decide

end VehicleBus.Handshake
