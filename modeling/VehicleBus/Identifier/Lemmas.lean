import VehicleBus.Identifier

/-!
Building an identifier from its fields and reading the fields back are inverse, up to
the three bits of the word that do not travel.
-/
namespace VehicleBus.Identifier

theorem wordValue_eq (fields : Fields) :
    fields.wordValue = fields.priority.val * 0x4000000 + fields.milcan.toNat * 0x2000000 +
      fields.request.toNat * 0x1000000 + fields.primary.toNat * 0x10000 +
      fields.secondary.toNat * 0x100 + fields.source.toNat := by
  simp [Fields.wordValue, BitField.place, priorityField, milcanField, requestField, primaryField,
    secondaryField, sourceField]

private theorem toNat_beq_one (bit : Nat) (small : bit < 2) : (bit == 1).toNat = bit := by
  match bit, small with
  | 0, _ => rfl
  | 1, _ => rfl

theorem toNat_milcan (id : Identifier) : id.milcan.toNat = id.word.toNat / 0x2000000 % 2 :=
  toNat_beq_one _ (Nat.mod_lt _ (by decide))

theorem toNat_request (id : Identifier) : id.request.toNat = id.word.toNat / 0x1000000 % 2 :=
  toNat_beq_one _ (Nat.mod_lt _ (by decide))

/-- Fields are equal when their numbers are. -/
theorem fields_ext {a b : Fields} (priority : a.priority.val = b.priority.val)
    (milcan : a.milcan.toNat = b.milcan.toNat) (request : a.request.toNat = b.request.toNat)
    (primary : a.primary.toNat = b.primary.toNat)
    (secondary : a.secondary.toNat = b.secondary.toNat)
    (source : a.source.toNat = b.source.toNat) : a = b := by
  obtain ⟨p, m, r, f, s, n⟩ := a
  obtain ⟨p', m', r', f', s', n'⟩ := b
  have same_priority : p = p' := Fin.ext priority
  have same_milcan : m = m' := by cases m <;> cases m' <;> simp_all
  have same_request : r = r' := by cases r <;> cases r' <;> simp_all
  have same_primary : f = f' := UInt8.toNat_inj.mp primary
  have same_secondary : s = s' := UInt8.toNat_inj.mp secondary
  have same_source : n = n' := UInt8.toNat_inj.mp source
  subst same_priority same_milcan same_request same_primary same_secondary same_source
  rfl

/-- Fields fill exactly the bits that travel. -/
theorem wordValue_lt (fields : Fields) : fields.wordValue < 0x20000000 := by
  have priority := fields.priority.isLt
  have milcan := Bool.toNat_le fields.milcan
  have request := Bool.toNat_le fields.request
  have primary := fields.primary.toNat_lt
  have secondary := fields.secondary.toNat_lt
  have source := fields.source.toNat_lt
  rw [wordValue_eq]
  omega

theorem toNat_identifier (fields : Fields) : fields.identifier.word.toNat = fields.wordValue := by
  have small := wordValue_lt fields
  simp only [Fields.identifier, UInt32.toNat_ofNat']
  omega

/-- The fields that an identifier was built from are read back. -/
theorem fields_identifier (fields : Fields) : fields.identifier.fields = fields := by
  have priority := fields.priority.isLt
  have milcan := Bool.toNat_le fields.milcan
  have request := Bool.toNat_le fields.request
  have primary := fields.primary.toNat_lt
  have secondary := fields.secondary.toNat_lt
  have source := fields.source.toNat_lt
  have word := toNat_identifier fields
  rw [wordValue_eq] at word
  apply fields_ext
  · show fields.identifier.priority.val = _
    rw [priority_eq, word]
    omega
  · show fields.identifier.milcan.toNat = _
    rw [toNat_milcan, word]
    omega
  · show fields.identifier.request.toNat = _
    rw [toNat_request, word]
    omega
  · show fields.identifier.primary.toNat = _
    rw [toNat_primary, word]
    omega
  · show fields.identifier.secondary.toNat = _
    rw [toNat_secondary, word]
    omega
  · show fields.identifier.source.toNat = _
    rw [toNat_source, word]
    omega

/-- Rebuilding an identifier from its fields keeps all that travels of it. -/
theorem identifier_fields (id : Identifier) : id.fields.identifier = id.masked := by
  have bound := id.word.toNat_lt
  have word := toNat_identifier id.fields
  rw [wordValue_eq] at word
  have parts : id.fields.identifier.word.toNat = id.masked.word.toNat := by
    rw [word, toNat_masked, raw_eq]
    simp only [fields, priority_eq, toNat_milcan, toNat_request, toNat_primary, toNat_secondary,
      toNat_source]
    omega
  have same := UInt32.toNat_inj.mp parts
  cases built : id.fields.identifier
  cases kept : id.masked
  simp_all

/-- The bits that do not travel have no influence on any field. -/
theorem fields_masked (id : Identifier) : id.masked.fields = id.fields := by
  rw [← identifier_fields, fields_identifier]

end VehicleBus.Identifier
