import VehicleBus.BitField

/-!
The 29-bit identifier of a frame and the six fields that share its word. The
highest field is the priority, so the numeric order of identifiers is the order
in which the bus arbitrates them.
-/
namespace VehicleBus

/-- The identifier word of a frame. Only its low 29 bits travel on the wire. -/
structure Identifier where
  word : UInt32
  deriving DecidableEq, Repr

namespace Identifier

/-- The bits that exist on the wire. -/
def validField : BitField := ⟨1, 0x20000000⟩

/-- Priority, zero being the most urgent. -/
def priorityField : BitField := ⟨0x4000000, 8⟩

/-- Set in MILCAN frames, clear in frames of another protocol on the same bus. -/
def milcanField : BitField := ⟨0x2000000, 2⟩

/-- Set in requests. -/
def requestField : BitField := ⟨0x1000000, 2⟩

/-- The message family. -/
def primaryField : BitField := ⟨0x10000, 256⟩

/-- The message within its family. -/
def secondaryField : BitField := ⟨0x100, 256⟩

/-- The address of the sender. -/
def sourceField : BitField := ⟨1, 256⟩

/-- What an identifier says, field by field, in the order of their weight. -/
structure Fields where
  priority : Fin 8
  milcan : Bool
  request : Bool
  primary : UInt8
  secondary : UInt8
  source : UInt8
  deriving DecidableEq, Repr

/-- The word with the given fields and nothing above them. -/
def Fields.wordValue (fields : Fields) : Nat :=
  priorityField.place fields.priority.val + milcanField.place fields.milcan.toNat +
    requestField.place fields.request.toNat + primaryField.place fields.primary.toNat +
    secondaryField.place fields.secondary.toNat + sourceField.place fields.source.toNat

def Fields.identifier (fields : Fields) : Identifier := ⟨UInt32.ofNat fields.wordValue⟩

/-- The part of the word that travels. -/
def raw (id : Identifier) : Nat := validField.read id.word.toNat

/-- The identifier without the bits that do not travel. -/
def masked (id : Identifier) : Identifier := ⟨UInt32.ofNat id.raw⟩

def priority (id : Identifier) : Fin 8 :=
  ⟨priorityField.read id.word.toNat, priorityField.read_lt _ (by decide)⟩

def milcan (id : Identifier) : Bool := milcanField.read id.word.toNat == 1

def request (id : Identifier) : Bool := requestField.read id.word.toNat == 1

def primary (id : Identifier) : UInt8 := UInt8.ofNat (primaryField.read id.word.toNat)

def secondary (id : Identifier) : UInt8 := UInt8.ofNat (secondaryField.read id.word.toNat)

def source (id : Identifier) : UInt8 := UInt8.ofNat (sourceField.read id.word.toNat)

def fields (id : Identifier) : Fields where
  priority := id.priority
  milcan := id.milcan
  request := id.request
  primary := id.primary
  secondary := id.secondary
  source := id.source

/-- Identifiers are ordered by their whole word. -/
instance : Ord Identifier := ⟨fun a b => compare a.word b.word⟩

/-- The identifiers in ascending order. -/
def ascending (ids : List Identifier) : List Identifier :=
  ids.mergeSort fun a b => decide (a.word ≤ b.word)

theorem raw_eq (id : Identifier) : id.raw = id.word.toNat % 0x20000000 := by
  simp [raw, validField, BitField.read]

theorem raw_lt (id : Identifier) : id.raw < 0x20000000 := validField.read_lt _ (by decide)

/-- Masking keeps the 29 bits that travel. -/
theorem toNat_masked (id : Identifier) : id.masked.word.toNat = id.raw := by
  have bound := id.raw_lt
  simp only [masked, UInt32.toNat_ofNat']
  omega

theorem priority_eq (id : Identifier) : id.priority.val = id.word.toNat / 0x4000000 % 8 := rfl

theorem toNat_primary (id : Identifier) : id.primary.toNat = id.word.toNat / 0x10000 % 256 := by
  simp [primary, primaryField, BitField.read]

theorem toNat_secondary (id : Identifier) : id.secondary.toNat = id.word.toNat / 0x100 % 256 := by
  simp [secondary, secondaryField, BitField.read]

theorem toNat_source (id : Identifier) : id.source.toNat = id.word.toNat % 256 := by
  simp [source, sourceField, BitField.read]

end Identifier

end VehicleBus
