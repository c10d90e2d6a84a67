import VehicleBus.Handshake.Listener

/-!
A listener accepts exactly the windows of three bytes that spell its sequence, come from
one source and follow each other in time. How far it has come is told by the latest bytes
alone, however many came before: position, source and instant are kept only to answer
that.
-/
namespace VehicleBus.Handshake

/-- No byte of a sequence stands in it twice. -/
theorem Sequence.byte?_inj (sequence : Sequence) {i j : Nat} (inside : i < size)
    (same : sequence.byte? i = sequence.byte? j) : i = j := by
  have once : sequence.bytes.Nodup := by cases sequence <;> decide
  exact (List.getElem?_inj (by simpa using inside) once).mp same

/-- A byte of a handshake as a node handled it. -/
structure Heard where
  now : Nat
  source : UInt8
  byte : UInt8
  deriving DecidableEq, Repr

namespace Heard

/-- A byte goes on where another one left: same source, no gap above the longest. -/
def Continues (next last : Heard) : Prop :=
  next.source = last.source ∧ next.now ≤ last.now + maxGap

instance (next last : Heard) : Decidable (next.Continues last) :=
  inferInstanceAs (Decidable (_ ∧ _))

/-- A byte is the first one of a sequence. -/
def Begins (first : Heard) (sequence : Sequence) : Prop := sequence.byte? 0 = some first.byte

instance (first : Heard) (sequence : Sequence) : Decidable (first.Begins sequence) :=
  inferInstanceAs (Decidable (_ = _))

/-- Two bytes in a row are the first two of a sequence. -/
def Proceeds (second first : Heard) (sequence : Sequence) : Prop :=
  first.Begins sequence ∧ sequence.byte? 1 = some second.byte ∧ second.Continues first

instance (second first : Heard) (sequence : Sequence) :
    Decidable (second.Proceeds first sequence) :=
  inferInstanceAs (Decidable (_ ∧ _ ∧ _))

/-- Three bytes in a row are a whole sequence. -/
def Spells (third second first : Heard) (sequence : Sequence) : Prop :=
  second.Proceeds first sequence ∧ sequence.byte? 2 = some third.byte ∧ third.Continues second

instance (third second first : Heard) (sequence : Sequence) :
    Decidable (third.Spells second first sequence) :=
  inferInstanceAs (Decidable (_ ∧ _ ∧ _))

/-- A byte completes a sequence with the two before it, the newest of which stands first. -/
def Finishes (third : Heard) (sequence : Sequence) : List Heard → Prop
  | second :: first :: _ => third.Spells second first sequence
  | _ => False

instance (third : Heard) (sequence : Sequence) (recent : List Heard) :
    Decidable (third.Finishes sequence recent) :=
  match recent with
  | second :: first :: _ => inferInstanceAs (Decidable (third.Spells second first sequence))
  | [_] => inferInstanceAs (Decidable False)
  | [] => inferInstanceAs (Decidable False)

theorem not_begins_of_second {second : Heard} {sequence : Sequence}
    (middle : sequence.byte? 1 = some second.byte) : ¬ second.Begins sequence := by
  intro opening
  have same := sequence.byte?_inj (by decide) (opening.trans middle.symm)
  contradiction

end Heard

namespace Listener

/-- What the latest bytes, newest first, say about a listener: it is as far as they spell
its sequence, and expects the next byte from where the newest came. -/
inductive Follows (sequence : Sequence) (listener : Listener) : List Heard → Prop
  | idle (recent : List Heard) (zero : listener.position = 0)
      (closed : ∀ newest ∈ recent.head?, ¬ newest.Begins sequence)
      (apart : ∀ second first rest, recent = second :: first :: rest →
        ¬ second.Proceeds first sequence) : Follows sequence listener recent
  | begun (first : Heard) (rest : List Heard) (one : listener.position = 1)
      (opening : first.Begins sequence) (source : listener.source = first.source)
      (latest : listener.lastByte = first.now) : Follows sequence listener (first :: rest)
  | halfway (second first : Heard) (rest : List Heard) (two : listener.position = 2)
      (proceeding : second.Proceeds first sequence) (source : listener.source = second.source)
      (latest : listener.lastByte = second.now) :
      Follows sequence listener (second :: first :: rest)

theorem follows_start (sequence : Sequence) (listener : Listener) (zero : listener.position = 0) :
    listener.Follows sequence [] :=
  .idle [] zero nofun nofun

section Hear

variable {listener : Listener} {sequence : Sequence} {recent : List Heard}

/-- A listener under way stalls exactly at a byte that does not go on with its latest. -/
theorem value_stalled (last heard : Heard) (busy : listener.position ≠ 0)
    (source : listener.source = last.source) (latest : listener.lastByte = last.now) :
    (listener.stalled heard.now heard.source).value = decide (¬ heard.Continues last) := by
  unfold stalled
  rw [if_neg busy, source, latest]
  split
  · rename_i same
    show decide (last.now + maxGap < heard.now) = decide (¬ heard.Continues last)
    rw [decide_eq_decide]
    simp [Heard.Continues, same]
  · rename_i other
    simp [Heard.Continues, other]

/-- What a listener makes of a byte, said by the latest bytes. -/
def Answers (sequence : Sequence) (recent : List Heard) (heard : Heard)
    (answer : Verdict × Listener) : Prop :=
  answer.2.Follows sequence (heard :: recent) ∧
    (answer.1 = .complete ↔ heard.Finishes sequence recent)

/-- A byte that goes on with nothing begins a sequence or leaves the listener idle. -/
theorem judge_of_idle (gaveUp : Bool) (heard : Heard) (zero : listener.position = 0)
    (apart : ∀ newest ∈ recent.head?, ¬ heard.Proceeds newest sequence)
    (open_ : ¬ heard.Finishes sequence recent) :
    Answers sequence recent heard
      (listener.judge sequence gaveUp heard.now heard.source heard.byte) := by
  unfold judge advance
  rw [zero]
  split
  · rename_i opening
    refine ⟨.begun heard recent rfl opening rfl rfl, ?_⟩
    simp [Sequence.size, open_]
  · rename_i closed
    rw [if_neg (Nat.lt_irrefl 0)]
    refine ⟨.idle _ zero ?_ ?_, ?_⟩
    · rintro newest ⟨⟩
      exact closed
    · rintro second first rest ⟨⟩
      exact apart first rfl
    · cases gaveUp <;> simp [open_]

/-- A byte that breaks a sequence begins the next one or leaves the listener idle. -/
theorem startOver_answers (heard : Heard)
    (apart : ∀ newest ∈ recent.head?, ¬ heard.Proceeds newest sequence)
    (open_ : ¬ heard.Finishes sequence recent) :
    Answers sequence recent heard
      (listener.startOver sequence heard.now heard.source heard.byte) := by
  unfold startOver
  split
  · rename_i opening
    refine ⟨.begun heard recent rfl opening rfl rfl, ?_⟩
    simp [open_]
  · rename_i closed
    refine ⟨.idle _ rfl ?_ ?_, ?_⟩
    · rintro newest ⟨⟩
      exact closed
    · rintro second first rest ⟨⟩
      exact apart first rfl
    · simp [open_]

/-- After its first byte a sequence goes on with its second one only. -/
theorem judge_of_begun (first heard : Heard) (rest : List Heard) (one : listener.position = 1)
    (opening : first.Begins sequence) (next : heard.Continues first) :
    Answers sequence (first :: rest) heard
      (listener.judge sequence false heard.now heard.source heard.byte) := by
  have open_ : ¬ heard.Finishes sequence (first :: rest) := by
    intro finished
    cases rest with
    | nil => exact finished
    | cons before rest => exact Heard.not_begins_of_second finished.1.2.1 opening
  unfold judge
  rw [one]
  split
  · rename_i middle
    refine ⟨.halfway heard first rest ?_ ⟨opening, middle, next⟩ ?_ ?_, ?_⟩
    all_goals simp [advance, accept, one, Sequence.size, open_]
  · rename_i other
    rw [if_pos Nat.one_pos]
    refine startOver_answers heard ?_ open_
    rintro newest ⟨⟩ proceeding
    exact other proceeding.2.1

/-- After its second byte a sequence is completed by its third one only. -/
theorem judge_of_halfway (second first heard : Heard) (rest : List Heard)
    (two : listener.position = 2) (proceeding : second.Proceeds first sequence)
    (next : heard.Continues second) :
    Answers sequence (second :: first :: rest) heard
      (listener.judge sequence false heard.now heard.source heard.byte) := by
  have begun := Heard.not_begins_of_second proceeding.2.1
  unfold judge
  rw [two]
  split
  · rename_i last
    have answer : listener.advance heard.now heard.source =
        (.complete, listener.accept heard.now heard.source 0) := by
      rw [advance, two, if_pos (by decide)]
    rw [answer]
    refine ⟨.idle _ rfl ?_ ?_, ?_⟩
    · rintro newest ⟨⟩ opening
      have same := sequence.byte?_inj (i := 0) (by decide) (opening.trans last.symm)
      contradiction
    · rintro newest before more ⟨⟩ middle
      exact begun middle.1
    · exact iff_of_true rfl ⟨proceeding, last, next⟩
  · rename_i other
    rw [if_pos Nat.two_pos]
    refine startOver_answers heard ?_ ?_
    · rintro newest ⟨⟩ middle
      exact begun middle.1
    · exact fun finished => other finished.2.1

/-- A listener that follows the latest bytes follows them with the next one too, and tells
a complete sequence exactly when the byte finishes one. -/
theorem hear_answers (heard : Heard) (follows : listener.Follows sequence recent) :
    Answers sequence recent heard
      (listener.hear sequence heard.now heard.source heard.byte).value := by
  have broken (newest : Heard) (stop : ¬ heard.Continues newest) :
      ¬ heard.Proceeds newest sequence := fun proceeding => stop proceeding.2.2
  show Answers sequence recent heard
    ((if (listener.stalled heard.now heard.source).value then listener.reset else listener).judge
      sequence (listener.stalled heard.now heard.source).value heard.now heard.source heard.byte)
  cases follows with
  | idle _ zero closed apart =>
    have calm : (listener.stalled heard.now heard.source).value = false := by
      rw [stalled, if_pos zero]
      rfl
    rw [calm, if_neg Bool.false_ne_true]
    refine judge_of_idle false heard zero ?_ ?_
    · intro newest latest proceeding
      exact closed newest latest proceeding.1
    · intro finished
      match recent, finished with
      | second :: first :: rest, spelled => exact apart second first rest rfl spelled.1
  | begun first rest one opening source latest =>
    rw [value_stalled first heard (by rw [one]; decide) source latest]
    by_cases next : heard.Continues first
    · simpa [next] using judge_of_begun first heard rest one opening next
    · rw [decide_eq_true next, if_pos rfl]
      refine judge_of_idle true heard rfl ?_ ?_
      · rintro newest ⟨⟩
        exact broken first next
      · intro finished
        cases rest with
        | nil => exact finished
        | cons before rest => exact next finished.2.2
  | halfway second first rest two proceeding source latest =>
    rw [value_stalled second heard (by rw [two]; decide) source latest]
    by_cases next : heard.Continues second
    · simpa [next] using judge_of_halfway second first heard rest two proceeding next
    · rw [decide_eq_true next, if_pos rfl]
      refine judge_of_idle true heard rfl ?_ ?_
      · rintro newest ⟨⟩
        exact broken second next
      · exact fun finished => next finished.2.2

end Hear

end Listener

end VehicleBus.Handshake
