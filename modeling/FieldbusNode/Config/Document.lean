/-
Documents.

A document is what a reader of some data format hands over: a tree of tables and
lists over scalars.  The functions here take one apart as a value of some type,
and refuse what is of another kind or does not fit.

The data formats differ in little that matters here, and a `Dialect` holds the
difference.

A number may be written down that no machine word holds.  It is no reason to
refuse a document as long as nobody looks at it.  A table is looked at as a whole,
entries that are not asked for included; a list only as far as it is asked for.
-/
import FieldbusNode.Binary32
import FieldbusNode.Event
import FieldbusNode.Word
namespace FieldbusNode

/-- A tree of data. -/
inductive Document
  | null
  | boolean (b : Bool)
  | integer (i : Int)
  /-- A number of the 64-bit binary format. -/
  | real (x : Binary.Value)
  /-- A number too large for every machine word, or with a digit it cannot have. -/
  | badNumber
  | text (s : String)
  /-- A date, a time, or both. -/
  | moment
  | list (items : List Document)
  /-- Keys are unique. -/
  | table (entries : List (String × Document))

namespace Document

/-- What data formats disagree on. -/
structure Dialect where
  /-- Whether a record given as a list may have no more items than the record has fields. -/
  exactLists : Bool
  /-- What may stand beside the name of a choice that is written as a table of one entry. -/
  emptyPayload : Document → Bool

/-- The dialect of JSON. -/
def Dialect.json : Dialect where
  exactLists := true
  emptyPayload
    | .null => true
    | _ => false

/-- The dialect of TOML. -/
def Dialect.toml : Dialect where
  exactLists := false
  emptyPayload
    | .list [] | .table [] => true
    | _ => false

/-! ### Scalars -/

/-- A text. -/
def text? : Document → Option String
  | .text s => some s
  | _ => none

/-- An integer between two bounds. -/
def integer? (low high : Int) : Document → Option Int
  | .integer i => if low ≤ i ∧ i ≤ high then some i else none
  | _ => none

/-- An integer that fits eight bits. -/
def uint8? (doc : Document) : Option UInt8 :=
  (doc.integer? 0 uint8Max).map fun i => UInt8.ofNat i.toNat

/-- An integer that fits sixteen bits. -/
def uint16? (doc : Document) : Option UInt16 :=
  (doc.integer? 0 uint16Max).map fun i => UInt16.ofNat i.toNat

/-- An integer that fits thirty-two bits. -/
def uint32? (doc : Document) : Option UInt32 :=
  (doc.integer? 0 uint32Max).map fun i => UInt32.ofNat i.toNat

/-- An integer that fits thirty-two bits with a sign. -/
def int32? (doc : Document) : Option Int32 :=
  (doc.integer? int32Min int32Max).map Int32.ofInt

/-- A number, rounded to 32-bit floating point.  An integer has to fit sixty-four bits, with a sign
or without. -/
def binary32? : Document → Option Binary32
  | .integer i => if int64Min ≤ i ∧ i ≤ uint64Max then some (.ofInt i) else none
  | .real x => some (.ofValue (Binary.binary32.convert x))
  | _ => none

/-- A log level, by name.  The name may also be the only key of a table. -/
def level? (d : Dialect) : Document → Option Level
  | .text name => Level.ofName? name
  | .table [(name, payload)] => if d.emptyPayload payload then Level.ofName? name else none
  | _ => none

/-! ### Soundness -/

mutual

/-- Whether there is no bad number in a document. -/
def isSound : Document → Bool
  | .badNumber => false
  | .list items => itemsAreSound items
  | .table entries => entriesAreSound entries
  | _ => true

/-- Whether there is no bad number in the items of a list. -/
def itemsAreSound : List Document → Bool
  | [] => true
  | doc :: items => doc.isSound && itemsAreSound items

/-- Whether there is no bad number in the entries of a table. -/
def entriesAreSound : List (String × Document) → Bool
  | [] => true
  | (_, doc) :: entries => doc.isSound && entriesAreSound entries

end

/-! ### Records -/

/-- The fields of a record of the given names: by name from a table, by position from a list.  What
else a table holds has to be sound.  A moment is a record without fields. -/
def fields? (d : Dialect) (names : List String) : Document → Option (String → Option Document)
  | .table entries =>
    let ignored := entries.filter fun entry => !names.contains entry.1
    if entriesAreSound ignored then some fun name => entries.lookup name else none
  | .list items =>
    if d.exactLists ∧ names.length < items.length then none
    else some fun name => (names.zip items).lookup name
  | .moment => some fun _ => none
  | _ => none

/-- A field that has to be there. -/
def required {α : Type} (read : Document → Option α) (field : Option Document) : Option α :=
  field.bind read

/-- A field with a default. -/
def optional {α : Type} (read : Document → Option α) (default : α) (field : Option Document) :
    Option α :=
  match field with
  | some doc => read doc
  | none => some default

end Document
end FieldbusNode
