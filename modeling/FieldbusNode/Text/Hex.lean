/-
Hexadecimal text.

Digits are written in lower case and read in either.
-/
import FieldbusNode.Text.Numeral
namespace FieldbusNode.Text

/-- The hexadecimal digit of a number below sixteen, in lower case. -/
def hexDigit (n : Nat) : Char :=
  if n < 10 then Char.ofNat (48 + n) else Char.ofNat (87 + n)

/-- The lowest `digits` hexadecimal digits of `n`, most significant first. -/
def hexDigits : Nat → Nat → List Char
  | 0, _ => []
  | digits + 1, n => hexDigits digits (n / 16) ++ [hexDigit (n % 16)]

/-- A number as `0x` and a fixed count of hexadecimal digits. -/
def hex (digits n : Nat) : String :=
  String.ofList ('0' :: 'x' :: hexDigits digits n)

/-- Each of the sixteen digits reads back as its own value. -/
theorem digitValue_hexDigit : ∀ n < 16, digitValue 16 (hexDigit n) = some n := by decide

end FieldbusNode.Text
