/-
Bare scalars of a TOML document: truth values, numbers, dates and times.

A scalar is classified by its text alone.  Behind a sign and the digits at the
front, a dash or a colon makes a moment, a point or the letter e makes a float,
and nothing or an underscore makes an integer.  The form of a float is checked at
once; an integer may turn out to be a bad number, and so may a float that is too
large.

A decimal number has no zero in front of other digits; hexadecimal, octal and
binary ones have no sign.  A float has digits on both sides of its point.  Dates
have to exist; the seconds of a time may be left out and go up to sixty.
-/
import FieldbusNode.Binary.Decimal
import FieldbusNode.Config.Document
import FieldbusNode.Text.Decimal
import FieldbusNode.Word
namespace FieldbusNode.Toml

open Text

/-! ### Numbers -/

/-- A hexadecimal digit. -/
def isHexDigit (c : Char) : Bool :=
  (digitValue 16 c).isSome

/-- The rest of a number without the underscores that group its digits; whether it comes behind a
digit is given. -/
def ungroupRest? (isDigit : Char → Bool) (behindDigit : Bool) : List Char → Option (List Char)
  | [] => some []
  | ['_'] => none
  | '_' :: c :: cs =>
    if behindDigit && isDigit c then do return c :: (← ungroupRest? isDigit true cs) else none
  | c :: cs => do return c :: (← ungroupRest? isDigit (isDigit c) cs)

/-- A number without the underscores that group its digits.  Each has to stand between two. -/
def ungroup? (isDigit : Char → Bool) (cs : List Char) : Option (List Char) :=
  ungroupRest? isDigit false cs

/-- An integer.  It has to fit 128 bits, with a sign or without. -/
def integerOf (i : Int) : Document :=
  if int128Min ≤ i ∧ i ≤ uint128Max then .integer i else .badNumber

/-- The integer of a radix other than ten, behind its mark. -/
def radixInteger? (radix : Nat) (cs : List Char) : Option Document := do
  match ← (← ungroup? isHexDigit cs).mapM (digitValue radix) with
  | [] => return .badNumber
  | digits => return integerOf (ofDigits radix digits)

/-- The decimal integer behind a sign, if there is one. -/
def decimalInteger? (negative : Bool) (cs : List Char) : Option Document := do
  match (← ungroup? isHexDigit cs).mapM (digitValue 10) with
  | none => return .badNumber
  | some digits =>
    let n : Int := ofDigits 10 digits
    return integerOf (if negative then -n else n)

/-- The float behind a sign, if there is one.  Infinity goes by its name only. -/
def float? (negative : Bool) (cs : List Char) : Option Document := do
  let (digits, exponent) ← decimal? (← ungroup? Char.isDigit cs)
  match Binary.binary64.ofDecimal negative (ofDigits 10 digits) exponent with
  | .infinite _ => return .badNumber
  | x => return .real x

/-! ### Dates and times -/

/-- A number of exactly so many digits. -/
def fixedNumber? (width : Nat) (cs : List Char) : Option (Nat × List Char) := do
  let digits ← (cs.take width).mapM (digitValue 10)
  if digits.length = width then some (ofDigits 10 digits, cs.drop width) else none

/-- The text behind a character it has to begin with. -/
def behind? (mark : Char) : List Char → Option (List Char)
  | [] => none
  | c :: cs => if c = mark then some cs else none

/-- How many days a month has. -/
def daysIn (year month : Nat) : Nat :=
  if month = 2 then
    if year % 4 = 0 ∧ (year % 100 ≠ 0 ∨ year % 400 = 0) then 29 else 28
  else if month = 4 ∨ month = 6 ∨ month = 9 ∨ month = 11 then 30
  else 31

/-- The text behind a date. -/
def date? (cs : List Char) : Option (List Char) := do
  let (year, cs) ← fixedNumber? 4 cs
  let (month, cs) ← fixedNumber? 2 (← behind? '-' cs)
  let (day, cs) ← fixedNumber? 2 (← behind? '-' cs)
  if 1 ≤ month ∧ month ≤ 12 ∧ 1 ≤ day ∧ day ≤ daysIn year month then some cs else none

/-- The text behind hours and minutes. -/
def hourMinute? (cs : List Char) : Option (List Char) := do
  let (hour, cs) ← fixedNumber? 2 cs
  let (minute, cs) ← fixedNumber? 2 (← behind? ':' cs)
  if hour ≤ 23 ∧ minute ≤ 59 then some cs else none

/-- The text behind seconds, which may have a fraction. -/
def second? (cs : List Char) : Option (List Char) := do
  let (second, cs) ← fixedNumber? 2 cs
  if 60 < second then none
  else
    match cs with
    | '.' :: c :: cs => if c.isDigit then some (cs.dropWhile Char.isDigit) else none
    | cs => some cs

/-- The text behind a time of day. -/
def time? (cs : List Char) : Option (List Char) := do
  match ← hourMinute? cs with
  | ':' :: cs => second? cs
  | cs => some cs

/-- Whether a text is an offset from universal time, or nothing. -/
def isOffset : List Char → Bool
  | [] | ['Z'] | ['z'] => true
  | '+' :: cs | '-' :: cs => hourMinute? cs == some []
  | _ => false

/-- Whether a text is a date, a time, or both, then possibly with an offset. -/
def isMoment (cs : List Char) : Bool :=
  match date? cs with
  | some [] => true
  | some (c :: cs) => (c == 'T' || c == 't' || c == ' ') && (time? cs).any isOffset
  | none => time? cs == some []

/-! ### Any scalar -/

/-- The number or moment of a text. -/
def measureOf? (cs : List Char) : Option Document :=
  let (negative, magnitude) := splitSign cs
  let isFloatMark (c : Char) : Bool := c == '.' || c == 'e' || c == 'E'
  match magnitude.dropWhile Char.isDigit with
  | '-' :: _ | ':' :: _ => if isMoment cs then some .moment else none
  | behind =>
    if magnitude.isEmpty || isPadded magnitude then none
    else if behind.any isFloatMark then float? negative magnitude
    else if behind.isEmpty || behind.head? == some '_' then decimalInteger? negative magnitude
    else none

/-- The scalar a bare text stands for. -/
def scalarOf? (cs : List Char) : Option Document :=
  match cs with
  | ['t', 'r', 'u', 'e'] => some (.boolean true)
  | ['f', 'a', 'l', 's', 'e'] => some (.boolean false)
  | '0' :: 'x' :: digits => radixInteger? 16 digits
  | '0' :: 'o' :: digits => radixInteger? 8 digits
  | '0' :: 'b' :: digits => radixInteger? 2 digits
  | cs =>
    match splitSign cs with
    | (negative, ['i', 'n', 'f']) => some (.real (.infinite negative))
    | (negative, ['n', 'a', 'n']) => some (.real (.nan negative))
    | _ => measureOf? cs

/-- Characters of bare scalars: all but those that end one. -/
def isScalarChar (c : Char) : Bool :=
  ['=', ',', '[', ']', '{', '}', '#', ' ', '\t', '\r', '\n'].all (· != c)

/-- Splits off a bare scalar.  A blank between a date and digits belongs to it. -/
def splitScalar (cs : List Char) : List Char × List Char :=
  let run := cs.takeWhile isScalarChar
  match cs.dropWhile isScalarChar with
  | ' ' :: c :: rest =>
    if date? run == some [] && c.isDigit then
      (run ++ ' ' :: c :: rest.takeWhile isScalarChar, rest.dropWhile isScalarChar)
    else (run, ' ' :: c :: rest)
  | rest => (run, rest)

/-- Reads a bare scalar. -/
def bare? (cs : List Char) : Option (Document × List Char) :=
  let (text, rest) := splitScalar cs
  (scalarOf? text).map (·, rest)

end FieldbusNode.Toml
