/-
Reading a JSON text as a document.

Integers of 64 bits, with a sign or without, stay integers; all other numbers,
minus zero among them, become the nearest reals.  Where a key is given twice the
last value counts.
-/
import FieldbusNode.Binary.Decimal
import FieldbusNode.Config.Document
import FieldbusNode.Text.Decimal
namespace FieldbusNode.Json

open Text

/-- A blank. -/
def isBlank (c : Char) : Bool :=
  c == ' ' || c == '\t' || c == '\n' || c == '\r'

/-- The text without the blanks in front. -/
def skipBlanks (cs : List Char) : List Char :=
  cs.dropWhile isBlank

/-! ### Scalars -/

/-- The character an escape of one letter stands for. -/
def escaped? : Char → Option Char
  | 'b' => some '\x08'
  | 'f' => some '\x0c'
  | 'n' => some '\n'
  | 'r' => some '\r'
  | 't' => some '\t'
  | '"' => some '"'
  | '\\' => some '\\'
  | '/' => some '/'
  | _ => none

/-- The character of a surrogate pair. -/
def paired? (high low : List Char) : Option Char := do
  let high := ofDigits 16 (← high.mapM (digitValue 16))
  let low := ofDigits 16 (← low.mapM (digitValue 16))
  guard (0xD800 ≤ high ∧ high < 0xDC00 ∧ 0xDC00 ≤ low ∧ low < 0xE000)
  return Char.ofNat (0x10000 + (high - 0xD800) * 0x400 + (low - 0xDC00))

/-- Puts a character in front of a content that was read. -/
def before (front : Option Char) (read : Option (List Char × List Char)) :
    Option (List Char × List Char) := do
  let (content, rest) ← read
  return ((← front) :: content, rest)

/-- Reads a text behind its opening quote: the content, and what follows the closing one. -/
def string? : List Char → Option (List Char × List Char)
  | [] => none
  | '"' :: cs => some ([], cs)
  | '\\' :: 'u' :: a :: b :: c :: d :: '\\' :: 'u' :: e :: f :: g :: h :: cs =>
    match scalar? [a, b, c, d] with
    | some char => before (some char) (string? ('\\' :: 'u' :: e :: f :: g :: h :: cs))
    | none => before (paired? [a, b, c, d] [e, f, g, h]) (string? cs)
  | '\\' :: 'u' :: a :: b :: c :: d :: cs => before (scalar? [a, b, c, d]) (string? cs)
  | '\\' :: c :: cs => before (escaped? c) (string? cs)
  | c :: cs => if c.toNat < 32 then none else before (some c) (string? cs)

/-- A number that is no integer of 64 bits.  Too large a number is refused. -/
def real? (negative : Bool) (digits : List Nat) (exponent : Int) : Option Document :=
  match Binary.binary64.ofDecimal negative (ofDigits 10 digits) exponent with
  | .infinite _ => none
  | x => some (.real x)

/-- The number of a text. -/
def numberOf? (cs : List Char) : Option Document :=
  let (negative, magnitude) :=
    match cs with
    | '-' :: magnitude => (true, magnitude)
    | magnitude => (false, magnitude)
  if isPadded magnitude then none
  else
    match digits? 10 magnitude with
    | some digits =>
      let n : Int := ofDigits 10 digits
      let value := if negative then -n else n
      if (negative ∧ n = 0) ∨ value < int64Min ∨ uint64Max < value then real? negative digits 0
      else some (.integer value)
    | none => do
      let (digits, exponent) ← decimal? magnitude
      real? negative digits exponent

/-- Reads a number. -/
def number? (cs : List Char) : Option (Document × List Char) :=
  let isPart (c : Char) : Bool :=
    c.isDigit || c == '-' || c == '+' || c == '.' || c == 'e' || c == 'E'
  (numberOf? (cs.takeWhile isPart)).map (·, cs.dropWhile isPart)

/-! ### Values -/

mutual

/-- Reads a value. -/
def valueFueled : Nat → List Char → Option (Document × List Char)
  | 0, _ => none
  | fuel + 1, cs =>
    match skipBlanks cs with
    | 'n' :: 'u' :: 'l' :: 'l' :: rest => some (.null, rest)
    | 't' :: 'r' :: 'u' :: 'e' :: rest => some (.boolean true, rest)
    | 'f' :: 'a' :: 'l' :: 's' :: 'e' :: rest => some (.boolean false, rest)
    | '"' :: rest => (string? rest).map fun (content, rest) =>
      (.text (String.ofList content), rest)
    | '[' :: rest =>
      match skipBlanks rest with
      | ']' :: rest => some (.list [], rest)
      | rest => (itemsFueled fuel rest).map fun (items, rest) => (.list items, rest)
    | '{' :: rest =>
      match skipBlanks rest with
      | '}' :: rest => some (.table [], rest)
      | rest => (entriesFueled fuel [] rest).map fun (entries, rest) => (.table entries, rest)
    | rest => number? rest

/-- Reads the items of a list and its closing bracket. -/
def itemsFueled : Nat → List Char → Option (List Document × List Char)
  | 0, _ => none
  | fuel + 1, cs => do
    let (item, rest) ← valueFueled fuel cs
    match skipBlanks rest with
    | ']' :: rest => some ([item], rest)
    | ',' :: rest => (itemsFueled fuel rest).map fun (items, rest) => (item :: items, rest)
    | _ => none

/-- Reads the entries of a table, given those read before, and its closing brace. -/
def entriesFueled :
    Nat → List (String × Document) → List Char → Option (List (String × Document) × List Char)
  | 0, _, _ => none
  | fuel + 1, done, cs => do
    match skipBlanks cs with
    | '"' :: rest =>
      let (content, rest) ← string? rest
      match skipBlanks rest with
      | ':' :: rest =>
        let (doc, rest) ← valueFueled fuel rest
        let key := String.ofList content
        let done := (done.filter fun entry => entry.1 != key) ++ [(key, doc)]
        match skipBlanks rest with
        | '}' :: rest => some (done, rest)
        | ',' :: rest => entriesFueled fuel done rest
        | _ => none
      | _ => none
    | _ => none

end

/-- Reads a text, which holds one value. -/
def read? (text : String) : Option Document := do
  let cs := text.toList
  let (doc, rest) ← valueFueled (2 * cs.length + 2) cs
  if skipBlanks rest = [] then some doc else none

end FieldbusNode.Json
