/-
Decimal numbers as text.

A number with a point or an exponent is read as all its digits and the power of
ten to scale them by, so nothing is rounded here.  A zero in front of other
digits is read like any digit; `isPadded` tells, for those who refuse it.
-/
import FieldbusNode.Text.Numeral
namespace FieldbusNode.Text

/-- Digits of a radix, at least one. -/
def digits? (radix : Nat) (cs : List Char) : Option (List Nat) :=
  if cs.isEmpty then none else cs.mapM (digitValue radix)

/-- The number with the given digits, most significant first. -/
def ofDigits (radix : Nat) (digits : List Nat) : Nat :=
  digits.foldl (fun n digit => n * radix + digit) 0

/-- Whether a number begins with a zero that other digits follow, even behind an underscore. -/
def isPadded : List Char → Bool
  | '0' :: c :: _ => c.isDigit || c == '_'
  | _ => false

/-- Splits off a sign; `true` is minus. -/
def splitSign : List Char → Bool × List Char
  | '-' :: cs => (true, cs)
  | '+' :: cs => (false, cs)
  | cs => (false, cs)

/-- The exponent behind its letter. -/
def exponent? (cs : List Char) : Option Int := do
  let (negative, digits) := splitSign cs
  let n : Int := ofDigits 10 (← digits? 10 digits)
  return if negative then -n else n

/-- A number with a point or an exponent, without its sign: digits, and the power of ten to scale
them by. -/
def decimal? (cs : List Char) : Option (List Nat × Int) := do
  let isMark (c : Char) : Bool := c == 'e' || c == 'E'
  let mantissa := cs.takeWhile (!isMark ·)
  let exponent ←
    match cs.dropWhile (!isMark ·) with
    | _ :: behind => exponent? behind
    | [] => some 0
  let whole ← digits? 10 (mantissa.takeWhile (· != '.'))
  let fraction ←
    match mantissa.dropWhile (· != '.') with
    | _ :: behind => digits? 10 behind
    | [] => some []
  return (whole ++ fraction, exponent - fraction.length)

/-- The character with a hexadecimal number.  Surrogates are not characters. -/
def scalar? (digits : List Char) : Option Char := do
  let values ← digits.mapM (digitValue 16)
  let n := ofDigits 16 values
  if n.isValidChar then some (Char.ofNat n) else none

end FieldbusNode.Text
