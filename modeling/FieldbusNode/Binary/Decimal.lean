/-
Decimal numbers in a binary format.

A decimal is `n * 10 ^ exponent`.  An exponent can be written down that no format
can hold and no memory either, so the extremes are decided on the size of `n`
alone: zero stays zero, and, with `10 ≥ 8`, a number below half the smallest one
is zero, and one beyond the largest is infinite.
-/
import FieldbusNode.Binary
namespace FieldbusNode.Binary

/-- The number of the format nearest to `n * 10 ^ exponent`, a tie going to the even mantissa. -/
def Format.ofDecimal (f : Format) (negative : Bool) (n : Nat) (exponent : Int) : Value :=
  if n = 0 then .finite negative 0 f.minExponent
  else if 0 ≤ exponent then
    if f.maxExponent + f.precision ≤ n.log2 + exponent then .infinite negative
    else f.round negative (n * Nat.pow 10 exponent.toNat) 1
  else
    if (n.log2 : Int) + 1 + 3 * exponent < f.minExponent then .finite negative 0 f.minExponent
    else f.round negative n (Nat.pow 10 (-exponent).toNat)

end FieldbusNode.Binary
