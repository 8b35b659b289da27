/-
Tables of a TOML document under construction.

How a table came about decides what may still be added to it.  A header makes a
table, and every table above it that is not there yet.  A table made for the sake
of one below it may get its own header later, but only one.  A dotted key makes
tables too; those can be extended by further dotted keys, and by headers of
tables below them, but never get a header of their own.  A value, an inline table
included, is closed.
-/
import FieldbusNode.Config.Document
namespace FieldbusNode.Toml

/-- How a table came about. -/
inductive Origin
  /-- By its own header. -/
  | header
  /-- For the sake of a table below it. -/
  | implied
  /-- By a dotted key. -/
  | dotted
  deriving DecidableEq

/-- What a key stands for while the document is read. -/
inductive Node
  | value (doc : Document)
  | table (origin : Origin) (entries : List (String × Node))
  /-- An array of tables, the newest first. -/
  | tables (items : List (List (String × Node)))

/-- The entries of a table under construction. -/
abbrev Entries := List (String × Node)

namespace Entries

/-- Changes what a key stands for, given what it stands for now. -/
def alter (key : String) (f : Option Node → Option Node) : Entries → Option Entries
  | [] => do return [(key, ← f none)]
  | (k, node) :: rest =>
    if k = key then do return (k, ← f (some node)) :: rest
    else do return (k, node) :: (← alter key f rest)

/-- Changes the table at the end of a path of headers; tables on the way that are not there yet
are implied by it. -/
def below (f : Entries → Option Entries) : List String → Entries → Option Entries
  | [], t => f t
  | key :: path, t => t.alter key fun
    | none => do return .table .implied (← below f path [])
    | some (.table origin entries) => do return .table origin (← below f path entries)
    | some (.tables (newest :: older)) => do return .tables ((← below f path newest) :: older)
    | some _ => none

/-- Puts a value under a dotted key.  The table it goes into has to be one that dotted keys made,
and no table on the way may have a header. -/
def put (doc : Document) : List String → Entries → Option Entries
  | [], _ => none
  | [key], t => t.alter key fun
    | none => some (.value doc)
    | some _ => none
  | key :: next :: path, t => t.alter key fun
    | none => do return .table .dotted (← put doc (next :: path) [])
    | some (.table origin entries) =>
      if origin = .header ∨ (path = [] ∧ origin ≠ .dotted) then none
      else do return .table origin (← put doc (next :: path) entries)
    | some (.tables (newest :: older)) =>
      if path = [] then none
      else do return .tables ((← put doc (next :: path) newest) :: older)
    | some _ => none

/-- What a header makes of what its key stands for. -/
def headed : Option Node → Option Node
  | none => some (.table .header [])
  | some (.table .implied entries) => some (.table .header entries)
  | some _ => none

/-- What the header of an array of tables makes of what its key stands for. -/
def listed : Option Node → Option Node
  | none => some (.tables [[]])
  | some (.tables items) => some (.tables ([] :: items))
  | some _ => none

end Entries

/-! ### The finished document -/

mutual

/-- The document under a key. -/
def Node.toDocument : Node → Document
  | .value doc => doc
  | .table _ entries => .table (entriesToDocuments entries)
  | .tables items => .list (itemsToDocuments items).reverse

/-- The documents under all keys of a table. -/
def entriesToDocuments : List (String × Node) → List (String × Document)
  | [] => []
  | (key, node) :: rest => (key, node.toDocument) :: entriesToDocuments rest

/-- The documents of an array of tables. -/
def itemsToDocuments : List (List (String × Node)) → List Document
  | [] => []
  | entries :: rest => .table (entriesToDocuments entries) :: itemsToDocuments rest

end

/-- The document of a whole table. -/
def Entries.toDocument (t : Entries) : Document :=
  .table (entriesToDocuments t)

end FieldbusNode.Toml
