import VehicleBus.Identifier.Draft
import VehicleBus.Identifier.Lemmas

/-!
An identifier is a way of writing down its fields. A draft that is accepted is read back from what
was built of it, what is read off an identifier builds all of it that travels, and the numeric order
of identifiers is the order of their fields, taken one after the other from the priority down: the
word is a number whose digits are the fields.
-/
namespace VehicleBus

/-- Of two words the part above some lower bits decides, and where it is the same the lower bits
do. -/
theorem BitField.compare_place_add (field : BitField) (high high' : Nat) {low low' : Nat}
    (below : low < field.weight) (below' : low' < field.weight) :
    compare (field.place high + low) (field.place high' + low') =
      (compare high high').then (compare low low') := by
  unfold place
  rcases Nat.lt_trichotomy high high' with less | rfl | more
  · have step := Nat.mul_le_mul_right field.weight less
    rw [Nat.succ_mul] at step
    rw [Nat.compare_eq_lt.mpr less, Nat.compare_eq_lt.mpr (by omega)]
    rfl
  · rw [Nat.compare_eq_eq.mpr rfl, Ordering.eq_then, Nat.compare_eq_ite_lt, Nat.compare_eq_ite_lt]
    simp only [Nat.add_lt_add_iff_left]
  · have step := Nat.mul_le_mul_right field.weight more
    rw [Nat.succ_mul] at step
    rw [Nat.compare_eq_gt.mpr more, Nat.compare_eq_gt.mpr (by omega)]
    rfl

namespace Identifier

/-- Fields are compared one after the other, in the order of their weight. -/
instance : Ord Fields where
  compare a b :=
    (compare a.priority b.priority).then <| (compare a.milcan b.milcan).then <|
      (compare a.request b.request).then <| (compare a.primary b.primary).then <|
      (compare a.secondary b.secondary).then (compare a.source b.source)

section Order

theorem compare_toNat_word (a b : Identifier) :
    compare a.word.toNat b.word.toNat = compare a b := by
  show compareOfLessAndEq a.word.toNat b.word.toNat = compareOfLessAndEq a.word b.word
  simp only [compareOfLessAndEq, UInt32.lt_iff_toNat_lt, UInt32.toNat_inj]

private theorem compare_toNat_byte (a b : UInt8) : compare a.toNat b.toNat = compare a b := by
  show compareOfLessAndEq a.toNat b.toNat = compareOfLessAndEq a b
  simp only [compareOfLessAndEq, UInt8.lt_iff_toNat_lt, UInt8.toNat_inj]

private theorem compare_toNat_bit (a b : Bool) : compare a.toNat b.toNat = compare a b := by
  cases a <;> cases b <;> rfl

/-- Below each field but the last there is room for those after it. -/
theorem lower_fields_lt (fields : Fields) :
    let source := sourceField.place fields.source.toNat
    let secondary := secondaryField.place fields.secondary.toNat + source
    let primary := primaryField.place fields.primary.toNat + secondary
    let request := requestField.place fields.request.toNat + primary
    let milcan := milcanField.place fields.milcan.toNat + request
    source < secondaryField.weight ∧ secondary < primaryField.weight ∧
      primary < requestField.weight ∧ request < milcanField.weight ∧
      milcan < priorityField.weight := by
  have milcan := Bool.toNat_le fields.milcan
  have request := Bool.toNat_le fields.request
  have primary := fields.primary.toNat_lt
  have secondary := fields.secondary.toNat_lt
  have source := fields.source.toNat_lt
  simp only [BitField.place, priorityField, milcanField, requestField, primaryField,
    secondaryField, sourceField]
  omega

/-- The words of fields are ordered as the fields are. -/
theorem compare_wordValue (a b : Fields) : compare a.wordValue b.wordValue = compare a b := by
  obtain ⟨source, secondary, primary, request, milcan⟩ := lower_fields_lt a
  obtain ⟨source', secondary', primary', request', milcan'⟩ := lower_fields_lt b
  have last : compare (sourceField.place a.source.toNat) (sourceField.place b.source.toNat) =
      compare a.source.toNat b.source.toNat := by
    simp only [BitField.place, sourceField, Nat.mul_one]
  simp only [Fields.wordValue, Nat.add_assoc]
  rw [priorityField.compare_place_add _ _ milcan milcan',
    milcanField.compare_place_add _ _ request request',
    requestField.compare_place_add _ _ primary primary',
    primaryField.compare_place_add _ _ secondary secondary',
    secondaryField.compare_place_add _ _ source source', last]
  simp only [compare_toNat_byte, compare_toNat_bit]
  rfl

/-- Where nothing stands above the fields, the word is theirs. -/
theorem wordValue_fields (id : Identifier) (small : id.word.toNat < 0x20000000) :
    id.fields.wordValue = id.word.toNat := by
  rw [← toNat_identifier, identifier_fields, toNat_masked, raw_eq, Nat.mod_eq_of_lt small]

/-- Identifiers without bits that do not travel are ordered as their fields are. -/
theorem compare_fields (a b : Identifier) (small : a.word.toNat < 0x20000000)
    (small' : b.word.toNat < 0x20000000) : compare a.fields b.fields = compare a b := by
  rw [← compare_wordValue, wordValue_fields a small, wordValue_fields b small',
    compare_toNat_word]

end Order

/-- The draft that an identifier reads as. -/
def draft (id : Identifier) : Draft where
  primary := id.primary
  secondary := id.secondary
  source := id.source
  priority := UInt8.ofNat id.priority.val
  request := id.request

section Draft

/-- A draft whose wishes are in order is built of them, marked as a MILCAN identifier. -/
theorem build_of_accepted (draft : Draft) (fits : draft.priority.toNat < 8)
    (named : draft.source ≠ 0) :
    draft.build = .ok (Fields.identifier
      { priority := ⟨draft.priority.toNat, fits⟩
        milcan := true
        request := draft.request
        primary := draft.primary
        secondary := draft.secondary
        source := draft.source }) := by
  rw [Draft.build, dif_pos fits, if_neg named]

theorem build_of_invalid (draft : Draft) (invalid : ¬ draft.priority.toNat < 8) :
    draft.build = .error (.invalidPriority draft.priority) := by
  rw [Draft.build, dif_neg invalid]

theorem build_of_reserved (draft : Draft) (fits : draft.priority.toNat < 8)
    (reserved : draft.source = 0) : draft.build = .error .reservedSource := by
  rw [Draft.build, dif_pos fits, if_pos reserved]

/-- An identifier that is built of fields is all of what travels, and reads as those fields. -/
theorem draft_identifier (fields : Fields) :
    fields.identifier.raw = fields.identifier.word.toNat ∧
      fields.identifier.milcan = fields.milcan ∧
      fields.identifier.draft =
        { primary := fields.primary
          secondary := fields.secondary
          source := fields.source
          priority := UInt8.ofNat fields.priority.val
          request := fields.request } := by
  have same := fields_identifier fields
  have small := wordValue_lt fields
  refine ⟨?_, congrArg Fields.milcan same, ?_⟩
  · rw [raw_eq, toNat_identifier, Nat.mod_eq_of_lt small]
  · have priority : fields.identifier.priority = fields.priority := congrArg Fields.priority same
    have request : fields.identifier.request = fields.request := congrArg Fields.request same
    have primary : fields.identifier.primary = fields.primary := congrArg Fields.primary same
    have secondary : fields.identifier.secondary = fields.secondary :=
      congrArg Fields.secondary same
    have source : fields.identifier.source = fields.source := congrArg Fields.source same
    rw [draft, priority, request, primary, secondary, source]

/-- Building what an identifier reads as gives all of it that travels. -/
theorem build_draft (id : Identifier) (marked : id.milcan = true) (named : id.source ≠ 0) :
    id.draft.build = .ok id.masked := by
  have priority : id.draft.priority.toNat = id.priority.val := by
    have small := id.priority.isLt
    simp only [draft, UInt8.toNat_ofNat']
    omega
  have fits : id.draft.priority.toNat < 8 := priority ▸ id.priority.isLt
  rw [build_of_accepted id.draft fits named, ← identifier_fields]
  congr 2
  exact fields_ext priority (congrArg Bool.toNat marked.symm) rfl rfl rfl rfl

end Draft

/-- What comes of building a draft. -/
structure Draft.Coded (draft : Draft) : Prop where
  accepted : (∃ id, draft.build = .ok id) ↔ draft.priority ≤ 7 ∧ draft.source ≠ 0
  /-- The priority is judged first. -/
  invalid : ¬ draft.priority ≤ 7 → draft.build = .error (.invalidPriority draft.priority)
  reserved : draft.priority ≤ 7 → draft.source = 0 → draft.build = .error .reservedSource
  /-- What is built has no bits that do not travel, and every wish is read back from it. -/
  read : ∀ id, draft.build = .ok id →
    id.raw = id.word.toNat ∧ id.milcan = true ∧ id.draft = draft

theorem Draft.coded (draft : Draft) : draft.Coded := by
  have fits_iff : draft.priority ≤ 7 ↔ draft.priority.toNat < 8 := by
    rw [UInt8.le_iff_toNat_le]
    exact Nat.lt_succ_iff.symm
  by_cases fits : draft.priority.toNat < 8
  · by_cases reserved : draft.source = 0
    · have refused := build_of_reserved draft fits reserved
      constructor <;> simp [refused, fits_iff, fits, reserved]
    · have built := build_of_accepted draft fits reserved
      constructor
      · simp [built, fits_iff, fits, reserved]
      · exact fun invalid => absurd (fits_iff.mpr fits) invalid
      · exact fun _ none => absurd none reserved
      · intro id same
        rw [built, Except.ok.injEq] at same
        obtain ⟨raw, milcan, read⟩ := same ▸ draft_identifier _
        refine ⟨raw, milcan, read.trans ?_⟩
        cases draft
        simp
  · have refused := build_of_invalid draft fits
    constructor <;> simp [refused, fits_iff, fits]

end Identifier

open Identifier in
/-- Building and reading are inverse. A draft is accepted exactly if its priority fits three bits
and its source is not zero, and then it is read back; an identifier that is marked and has a source
is rebuilt from what is read off it, up to the bits that do not travel, which no field depends on;
and without such bits identifiers are ordered field by field. -/
theorem identifiers_code_their_fields :
    (∀ draft : Draft, draft.Coded) ∧
    (∀ id : Identifier, id.milcan = true → id.source ≠ 0 →
      ∃ rebuilt, id.draft.build = .ok rebuilt ∧ rebuilt.word.toNat = id.raw) ∧
    (∀ a b : Identifier, a.raw = b.raw → a.fields = b.fields) ∧
    ∀ a b : Identifier, a.word.toNat < 0x20000000 → b.word.toNat < 0x20000000 →
      compare a b = compare a.fields b.fields := by
  refine ⟨Draft.coded, ?_, ?_, ?_⟩
  · intro id marked named
    exact ⟨id.masked, build_draft id marked named, toNat_masked id⟩
  · intro a b same
    have masked : a.masked = b.masked := by
      rw [Identifier.masked, Identifier.masked, same]
    rw [← fields_masked a, masked, fields_masked b]
  · intro a b small small'
    exact (compare_fields a b small small').symm

/-- A request of a navigation message, with all three bits set that do not travel, is rebuilt
without them, and comes after every sync. -/
theorem flagged_identifier_is_rebuilt :
    let flagged : Identifier := ⟨0xEF46122A⟩
    let plain : Identifier := ⟨0x0F46122A⟩
    let sync : Identifier := ⟨0x020080FF⟩
    (flagged.milcan = true ∧ flagged.source ≠ 0 ∧
      ∃ rebuilt, flagged.draft.build = .ok rebuilt ∧ rebuilt.word.toNat = flagged.raw) ∧
    (flagged.raw = plain.raw ∧ flagged.fields = plain.fields) ∧
    (sync.word.toNat < 0x20000000 ∧ plain.word.toNat < 0x20000000 ∧
      compare sync plain = compare sync.fields plain.fields) := by
  intro flagged plain sync
  obtain ⟨-, rebuilds, agree, ordered⟩ := identifiers_code_their_fields
  have marked : flagged.milcan = true := by decide
  have named : flagged.source ≠ 0 := by decide
  have same : flagged.raw = plain.raw := by decide
  have first : sync.word.toNat < 0x20000000 := by decide
  have second : plain.word.toNat < 0x20000000 := by decide
  exact ⟨⟨marked, named, rebuilds flagged marked named⟩, ⟨same, agree flagged plain same⟩,
    first, second, ordered sync plain first second⟩

end VehicleBus
