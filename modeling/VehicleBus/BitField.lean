/-!
Bit fields of a word. A field is known by the weight of its lowest bit and by the
number of its values; reading and placing are arithmetic on naturals, so facts about
several fields of one word are linear.
-/
namespace VehicleBus

/-- Consecutive bits of a word. -/
structure BitField where
  /-- What the lowest bit of the field adds to the word. -/
  weight : Nat
  /-- How many values the field can have. -/
  span : Nat
  deriving DecidableEq, Repr

namespace BitField

/-- The word in which exactly the bits of the field are set. -/
def mask (field : BitField) : Nat := (field.span - 1) * field.weight

/-- The value that a word carries in the field. -/
def read (field : BitField) (word : Nat) : Nat := word / field.weight % field.span

/-- The contribution of a value in the field to a word. -/
def place (field : BitField) (value : Nat) : Nat := value * field.weight

theorem read_lt (field : BitField) (word : Nat) (inhabited : 0 < field.span) :
    field.read word < field.span :=
  Nat.mod_lt _ inhabited

end BitField

end VehicleBus
