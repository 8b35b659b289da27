/-
The 32-bit floating-point numbers, as bit patterns.

`Binary32.value` reads a pattern, `Binary32.ofValue` writes one.
-/
import FieldbusNode.Binary
namespace FieldbusNode

/-- A 32-bit floating-point number. -/
structure Binary32 where
  bits : UInt32
  deriving DecidableEq, Inhabited

namespace Binary32

open Binary (Value)

/-- The pattern of a sign alone. -/
def signBit : Nat := 0x80000000

/-- How many fractions there are to one exponent. -/
def fractions : Nat := 0x800000

/-- The number a pattern stands for. -/
def value (x : Binary32) : Value :=
  let bits := x.bits.toNat
  let negative := decide (signBit ≤ bits)
  let exponent : Nat := bits / fractions % 256
  let fraction : Nat := bits % fractions
  if exponent = 255 then
    if fraction = 0 then .infinite negative else .nan negative
  else if exponent = 0 then .finite negative fraction (-149)
  else .finite negative (fractions + fraction) ((exponent : Int) - 150)

/-- The pattern of a magnitude with a sign in front. -/
def signed (negative : Bool) (magnitude : Nat) : Binary32 :=
  ⟨UInt32.ofNat ((if negative then signBit else 0) + magnitude)⟩

/-- The pattern of a number of the format.  A NaN has the quiet bit set and no other. -/
def ofValue : Value → Binary32
  | .nan negative => signed negative 0x7FC00000
  | .infinite negative => signed negative 0x7F800000
  | .finite negative mantissa exponent =>
    signed negative ((exponent + 149).toNat * fractions + mantissa)

/-- The pattern of the number nearest to an integer. -/
def ofInt (i : Int) : Binary32 :=
  ofValue (Binary.binary32.ofInt i)

end Binary32
end FieldbusNode
