/-
Reading a TOML text.

Values are read by mutual recursion on a fuel that every call uses up by one.  No
call can be followed by more than two calls at one place of the text, so twice
its length is enough; the functions without fuel supply it.

A text is a line after another: a header, which says where the keys that follow
go, or a key and its value.  A value may go on over several lines only within
brackets or braces, where every gap may hold line ends and comments; the parts of
a dotted key always stand in one line.
-/
import FieldbusNode.Toml.Quoted
import FieldbusNode.Toml.Scalar
import FieldbusNode.Toml.Table
namespace FieldbusNode.Toml

/-- How deeply arrays and inline tables may be nested. -/
def maxDepth : Nat := 80

/-- How many parts a dotted key may have. -/
def maxKeyParts : Nat := 80

/-! ### Keys -/

/-- Characters of bare keys. -/
def isKeyChar (c : Char) : Bool :=
  c.isAlphanum || c == '_' || c == '-'

/-- Reads a key without dots. -/
def simpleKey? (cs : List Char) : Option (String × List Char) :=
  match cs with
  | '"' :: cs => (basic? cs).map fun (content, rest) => (String.ofList content, rest)
  | '\'' :: cs => (literal? cs).map fun (content, rest) => (String.ofList content, rest)
  | cs =>
    match cs.takeWhile isKeyChar with
    | [] => none
    | key => some (String.ofList key, cs.dropWhile isKeyChar)

/-- Reads a key of at most so many parts, and the blanks behind it. -/
def keyWithin? : Nat → List Char → Option (List String × List Char)
  | 0, _ => none
  | parts + 1, cs => do
    let (key, rest) ← simpleKey? (skipBlanks cs)
    match skipBlanks rest with
    | '.' :: rest =>
      let (path, rest) ← keyWithin? parts rest
      return (key :: path, rest)
    | rest => return ([key], rest)

/-- Reads a key and the blanks behind it. -/
def key? (cs : List Char) : Option (List String × List Char) :=
  keyWithin? maxKeyParts cs

/-! ### Values -/

mutual

/-- Reads a value; arrays and inline tables may be nested so deeply below it. -/
def valueFueled (depth : Nat) : Nat → List Char → Option (Document × List Char)
  | 0, _ => none
  | fuel + 1, cs =>
    match cs with
    | '"' :: _ | '\'' :: _ =>
      (quoted? cs).map fun (content, rest) => (.text (String.ofList content), rest)
    | '[' :: cs =>
      match depth with
      | 0 => none
      | depth + 1 => do
        let (items, rest) ← itemsFueled depth fuel cs
        return (.list items, rest)
    | '{' :: cs =>
      match depth with
      | 0 => none
      | depth + 1 => do
        let (entries, rest) ← entriesFueled depth fuel [] cs
        return (entries.toDocument, rest)
    | cs => bare? cs

/-- Reads the items of an array and its closing bracket. -/
def itemsFueled (depth : Nat) : Nat → List Char → Option (List Document × List Char)
  | 0, _ => none
  | fuel + 1, cs => do
    match ← skipGap false cs with
    | ']' :: rest => return ([], rest)
    | cs =>
      let (item, rest) ← valueFueled depth fuel cs
      match ← skipGap false rest with
      | ']' :: rest => return ([item], rest)
      | ',' :: rest =>
        let (items, rest) ← itemsFueled depth fuel rest
        return (item :: items, rest)
      | _ => none

/-- Reads the entries of an inline table, added to those read before, and its closing brace. -/
def entriesFueled (depth : Nat) : Nat → Entries → List Char → Option (Entries × List Char)
  | 0, _, _ => none
  | fuel + 1, t, cs => do
    match ← skipGap false cs with
    | '}' :: rest => return (t, rest)
    | cs =>
      let (path, rest) ← key? cs
      let rest ← behind? '=' (← skipGap false rest)
      let (doc, rest) ← valueFueled depth fuel (← skipGap false rest)
      let t ← t.put doc path
      match ← skipGap false rest with
      | '}' :: rest => return (t, rest)
      | ',' :: rest => entriesFueled depth fuel t rest
      | _ => none

end

/-- Reads a value. -/
def value? (cs : List Char) : Option (Document × List Char) :=
  valueFueled maxDepth (2 * cs.length + 2) cs

/-! ### Lines -/

/-- A document that is being read. -/
structure Draft where
  root : Entries
  /-- Where the keys that follow go. -/
  place : List String

/-- The text behind a bracket, or two of them, that close a header. -/
def behindBrackets? : Nat → List Char → Option (List Char)
  | 0, cs => some cs
  | n + 1, cs => do behindBrackets? n (← behind? ']' cs)

/-- Reads a header behind its opening brackets, of which there were so many. -/
def header? (brackets : Nat) (define : Option Node → Option Node) (draft : Draft)
    (cs : List Char) : Option (Draft × List Char) := do
  let (path, rest) ← key? cs
  let rest ← behindBrackets? brackets rest
  let last ← path.getLast?
  let root ← draft.root.below (·.alter last define) path.dropLast
  return (⟨root, path⟩, rest)

/-- Reads a key and its value. -/
def assignment? (draft : Draft) (cs : List Char) : Option (Draft × List Char) := do
  let (path, rest) ← key? cs
  let (doc, rest) ← value? (skipBlanks (← behind? '=' rest))
  let root ← draft.root.below (·.put doc path) draft.place
  return ({ draft with root }, rest)

/-- Reads what a line holds. -/
def line? (draft : Draft) (cs : List Char) : Option (Draft × List Char) :=
  match cs with
  | '[' :: '[' :: cs => header? 2 Entries.listed draft cs
  | '[' :: cs => header? 1 Entries.headed draft cs
  | cs => assignment? draft cs

/-- Reads lines to the end of the text. -/
def linesFueled : Nat → Draft → List Char → Option Draft
  | _, draft, [] => some draft
  | 0, _, _ => none
  | fuel + 1, draft, cs => do
    let (draft, rest) ← line? draft cs
    linesFueled fuel draft (← endLine? rest)

/-- The text without the mark of its byte order. -/
def withoutMark : List Char → List Char
  | '\uFEFF' :: cs => cs
  | cs => cs

/-- Reads a text. -/
def read? (text : String) : Option Document := do
  let cs := withoutMark text.toList
  let lines ← skipGap false cs
  let draft ← linesFueled (lines.length + 1) ⟨[], []⟩ lines
  return draft.root.toDocument

end FieldbusNode.Toml
