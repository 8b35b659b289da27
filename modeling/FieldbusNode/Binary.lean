/-
Binary floating-point numbers.

A finite number is a sign and an exact `mantissa * 2 ^ exponent`; nothing here
rounds except `Format.round`, which takes an exact ratio of natural numbers to
the nearest number of a format, a tie going to the even mantissa.  Every
operation of a format is its exact result, rounded once.
-/
namespace FieldbusNode.Binary

/-- A number of some binary format. -/
inductive Value
  | nan (negative : Bool)
  | infinite (negative : Bool)
  | finite (negative : Bool) (mantissa : Nat) (exponent : Int)
  deriving DecidableEq

/-- A binary format: how many bits a mantissa has, and the exponents of its last bit. -/
structure Format where
  precision : Nat
  /-- The exponent of the smallest number. -/
  minExponent : Int
  /-- The exponent of the last bit of the largest numbers. -/
  maxExponent : Int

/-- The 32-bit format of IEEE 754. -/
def binary32 : Format := ⟨24, -149, 104⟩

/-- The 64-bit format of IEEE 754. -/
def binary64 : Format := ⟨53, -1074, 971⟩

/-- The quotient, rounded to the nearest natural number, a tie to the even one. -/
def divideToEven (n d : Nat) : Nat :=
  let quotient := n / d
  let remainder := n % d
  if d < 2 * remainder ∨ (2 * remainder = d ∧ quotient % 2 = 1) then quotient + 1 else quotient

/-- A number scaled by a power of two, as a numerator and a denominator. -/
def scale (n d : Nat) (exponent : Int) : Nat × Nat :=
  if 0 ≤ exponent then (n <<< exponent.toNat, d) else (n, d <<< (-exponent).toNat)

namespace Format

/-- The exponent of the last mantissa bit of a ratio in the format, before rounding. -/
def exponentOf (f : Format) (n d : Nat) : Int :=
  let size : Int := (n.log2 : Int) - d.log2
  let (low, high) := scale d 1 size
  let full := if n * high < low then size - f.precision else size - f.precision + 1
  max f.minExponent full

/-- The number of the format nearest to `n / d`, a tie going to the even mantissa.  Above the
largest number it is infinite. -/
def round (f : Format) (negative : Bool) (n d : Nat) : Value :=
  if n = 0 then .finite negative 0 f.minExponent
  else
    let exponent := f.exponentOf n d
    let (num, den) := scale n d (-exponent)
    let mantissa := divideToEven num den
    let (mantissa, exponent) :=
      if mantissa = 1 <<< f.precision then (1 <<< (f.precision - 1), exponent + 1)
      else (mantissa, exponent)
    if f.maxExponent < exponent then .infinite negative
    else .finite negative mantissa exponent

/-- The number of the format nearest to an integer. -/
def ofInt (f : Format) (i : Int) : Value :=
  f.round (i < 0) i.natAbs 1

/-- The number of the format nearest to a number of another. -/
def convert (f : Format) : Value → Value
  | .finite negative mantissa exponent =>
    let (n, d) := scale mantissa 1 exponent
    f.round negative n d
  | other => other

/-- The product of two numbers, rounded to the format. -/
def multiply (f : Format) : Value → Value → Value
  | .nan s, _ => .nan s
  | _, .nan s => .nan s
  | .infinite s, .infinite t => .infinite (s != t)
  | .infinite s, .finite t m _ => if m = 0 then .nan false else .infinite (s != t)
  | .finite s m _, .infinite t => if m = 0 then .nan false else .infinite (s != t)
  | .finite s m e, .finite t n k =>
    let (num, den) := scale (m * n) 1 (e + k)
    f.round (s != t) num den

end Format

namespace Value

/-- The number with its sign turned round. -/
def negate : Value → Value
  | nan s => nan !s
  | infinite s => infinite !s
  | finite s m e => finite (!s) m e

/-- Neither infinite nor a NaN. -/
def isFinite : Value → Bool
  | finite .. => true
  | _ => false

/-- Whether `a * 2 ^ e` is below `b * 2 ^ k`. -/
def scaledLess (a : Int) (e : Int) (b : Int) (k : Int) : Bool :=
  let low := min e k
  decide (a * (1 <<< (e - low).toNat : Nat) < b * (1 <<< (k - low).toNat : Nat))

/-- The mantissa with the sign of the number. -/
def signed (negative : Bool) (mantissa : Nat) : Int :=
  if negative then -mantissa else mantissa

/-- Whether the first number is below the second; a NaN is below nothing and above nothing. -/
def less : Value → Value → Bool
  | nan _, _ => false
  | _, nan _ => false
  | infinite s, infinite t => s && !t
  | infinite s, finite .. => s
  | finite .., infinite t => !t
  | finite s m e, finite t n k => scaledLess (signed s m) e (signed t n) k

/-- The number drawn into the window between two bounds; a NaN stays. -/
def clamp (x low high : Value) : Value :=
  if x.less low then low else if high.less x then high else x

/-- The number without its fraction, drawn into the 32-bit integers.  A NaN gives zero. -/
def toInt32 : Value → Int32
  | nan _ => 0
  | infinite s => if s then Int32.minValue else Int32.maxValue
  | finite s m e =>
    let magnitude := if 0 ≤ e then m <<< e.toNat else m >>> (-e).toNat
    let whole := signed s magnitude
    Int32.ofInt (max Int32.minValue.toInt (min Int32.maxValue.toInt whole))

end Value
end FieldbusNode.Binary
