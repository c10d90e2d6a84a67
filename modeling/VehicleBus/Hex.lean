/-!
Upper-case hexadecimal text of fixed width.
-/
namespace VehicleBus.Hex

/-- The digit of a value below sixteen. -/
def digit (value : Nat) : Char :=
  if value < 10 then Char.ofNat (48 + value) else Char.ofNat (55 + value)

/-- The last `width` hexadecimal digits of a number, the most significant first. -/
def digits : (width : Nat) → (value : Nat) → List Char
  | 0, _ => []
  | width + 1, value => digits width (value / 16) ++ [digit (value % 16)]

/-- The text of `digits`. -/
def text (width value : Nat) : String := String.ofList (digits width value)

end VehicleBus.Hex
