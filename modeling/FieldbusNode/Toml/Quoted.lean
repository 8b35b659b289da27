/-
Quoted text of a TOML document.

Basic text knows escapes, literal text does not.  Text between three quotes runs
over several lines: a line end directly behind the opening quotes is dropped, any
other is kept as it is written, and up to two quotes may stand before the closing
ones.  In basic text a backslash at the end of a line swallows all blanks and line
ends up to the next other character.

Every function here takes the text behind the opening quotes and hands back the
content and what follows the closing ones.
-/
import FieldbusNode.Text.Decimal
import FieldbusNode.Toml.Line
namespace FieldbusNode.Toml

open Text (scalar?)

/-- The character an escape of one letter stands for. -/
def escaped? : Char → Option Char
  | 'b' => some '\x08'
  | 't' => some '\t'
  | 'n' => some '\n'
  | 'f' => some '\x0c'
  | 'r' => some '\r'
  | 'e' => some '\x1b'
  | '"' => some '"'
  | '\\' => some '\\'
  | _ => none

/-- Puts characters in front of a content that was read. -/
def before (front : List Char) : Option (List Char × List Char) → Option (List Char × List Char) :=
  Option.map fun (content, rest) => (front ++ content, rest)

/-- Reads basic text within a line. -/
def basic? : List Char → Option (List Char × List Char)
  | [] => none
  | '"' :: cs => some ([], cs)
  | '\\' :: 'x' :: a :: b :: cs => do before [← scalar? [a, b]] (basic? cs)
  | '\\' :: 'u' :: a :: b :: c :: d :: cs => do before [← scalar? [a, b, c, d]] (basic? cs)
  | '\\' :: 'U' :: a :: b :: c :: d :: e :: f :: g :: h :: cs => do
    before [← scalar? [a, b, c, d, e, f, g, h]] (basic? cs)
  | '\\' :: c :: cs => do before [← escaped? c] (basic? cs)
  | c :: cs => if isControl c then none else before [c] (basic? cs)

/-- Reads literal text within a line. -/
def literal? : List Char → Option (List Char × List Char)
  | [] => none
  | '\'' :: cs => some ([], cs)
  | c :: cs => if isControl c then none else before [c] (literal? cs)

/-- Whether a backslash in front of this text is at the end of its line. -/
def endsLine (cs : List Char) : Bool :=
  (newline? (skipBlanks cs)).isSome

/-- Reads basic text over several lines.  While swallowing, blanks and line ends are dropped. -/
def basicLines? (swallowing : Bool) : List Char → Option (List Char × List Char)
  | [] => none
  | '"' :: '"' :: '"' :: '"' :: '"' :: cs => some (['"', '"'], cs)
  | '"' :: '"' :: '"' :: '"' :: cs => some (['"'], cs)
  | '"' :: '"' :: '"' :: cs => some ([], cs)
  | '\n' :: cs =>
    if swallowing then basicLines? true cs else before ['\n'] (basicLines? false cs)
  | '\r' :: '\n' :: cs =>
    if swallowing then basicLines? true cs else before ['\r', '\n'] (basicLines? false cs)
  | '\\' :: 'x' :: a :: b :: cs => do before [← scalar? [a, b]] (basicLines? false cs)
  | '\\' :: 'u' :: a :: b :: c :: d :: cs => do
    before [← scalar? [a, b, c, d]] (basicLines? false cs)
  | '\\' :: 'U' :: a :: b :: c :: d :: e :: f :: g :: h :: cs => do
    before [← scalar? [a, b, c, d, e, f, g, h]] (basicLines? false cs)
  | '\\' :: c :: cs =>
    if endsLine (c :: cs) then basicLines? true (c :: cs)
    else do before [← escaped? c] (basicLines? false cs)
  | c :: cs =>
    if swallowing && isBlank c then basicLines? true cs
    else if isControl c then none
    else before [c] (basicLines? false cs)

/-- Reads literal text over several lines. -/
def literalLines? : List Char → Option (List Char × List Char)
  | [] => none
  | '\'' :: '\'' :: '\'' :: '\'' :: '\'' :: cs => some (['\'', '\''], cs)
  | '\'' :: '\'' :: '\'' :: '\'' :: cs => some (['\''], cs)
  | '\'' :: '\'' :: '\'' :: cs => some ([], cs)
  | '\n' :: cs => before ['\n'] (literalLines? cs)
  | '\r' :: '\n' :: cs => before ['\r', '\n'] (literalLines? cs)
  | c :: cs => if isControl c then none else before [c] (literalLines? cs)

/-- Drops a line end directly behind the opening quotes. -/
def behindOpening (cs : List Char) : List Char :=
  (newline? cs).getD cs

/-- Reads quoted text of any sort, its opening quotes included; `none` also if there are none. -/
def quoted? : List Char → Option (List Char × List Char)
  | '"' :: '"' :: '"' :: cs => basicLines? false (behindOpening cs)
  | '"' :: cs => basic? cs
  | '\'' :: '\'' :: '\'' :: cs => literalLines? (behindOpening cs)
  | '\'' :: cs => literal? cs
  | _ => none

end FieldbusNode.Toml
