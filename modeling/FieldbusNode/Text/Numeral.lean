/-
Reading a numeral into a machine word.

A numeral is an optional plus sign and digits of one radix; its value has to stay
at or below a bound.  Reading goes from left to right and stops at the first
thing wrong, so an overflow hides a bad digit that comes later and the other way
round.
-/
namespace FieldbusNode.Text

/-- Why a numeral was refused. -/
inductive NumeralError
  /-- There is nothing to read. -/
  | empty
  /-- A character is not a digit of the radix, or a sign has no digits behind it. -/
  | invalidDigit
  /-- The value is above the bound. -/
  | tooLarge
  deriving DecidableEq

/-- The wording of a refusal. -/
def NumeralError.message : NumeralError → String
  | .empty => "cannot parse integer from empty string"
  | .invalidDigit => "invalid digit found in string"
  | .tooLarge => "number too large to fit in target type"

/-- The value of an ASCII digit or letter as a digit of the radix. -/
def digitValue (radix : Nat) (c : Char) : Option Nat :=
  let n := c.toNat
  let value :=
    if 48 ≤ n ∧ n ≤ 57 then some (n - 48)
    else if 65 ≤ n ∧ n ≤ 90 then some (n - 55)
    else if 97 ≤ n ∧ n ≤ 122 then some (n - 87)
    else none
  value.filter (· < radix)

/-- Reads digits behind an already read value, refusing one above the bound as soon as it shows. -/
def readDigits (radix bound : Nat) : Nat → List Char → Except NumeralError Nat
  | value, [] => .ok value
  | value, c :: cs =>
    match digitValue radix c with
    | none => .error .invalidDigit
    | some digit =>
      let next := value * radix + digit
      if next ≤ bound then readDigits radix bound next cs else .error .tooLarge

/-- Reads an optional plus sign and at least one digit. -/
def readNumeral (radix bound : Nat) : List Char → Except NumeralError Nat
  | [] => .error .empty
  | ['+'] => .error .invalidDigit
  | '+' :: cs => readDigits radix bound 0 cs
  | cs => readDigits radix bound 0 cs

end FieldbusNode.Text
