/-
Loading a configuration file.

A file has to be there, to be UTF-8, to be a TOML document of the right shape,
and to meet the demands, in this order; the first thing wrong is the error.
-/
import FieldbusNode.Config.Decoding
import FieldbusNode.Config.Validation
import FieldbusNode.Toml.Reader
namespace FieldbusNode

/-- What is under a path. -/
inductive File
  | missing
  /-- Something that cannot be read, a directory perhaps. -/
  | unreadable
  | content (bytes : ByteArray)

/-- A file with a text. -/
def File.ofText (text : String) : File :=
  .content text.toUTF8

/-- Why a configuration could not be loaded. -/
inductive LoadError
  | notFound
  | malformed
  | invalid (violation : Violation)
  deriving DecidableEq

/-- The wording of a failed load. -/
def LoadError.message : LoadError → String
  | .notFound => "Configuration file not found"
  | .malformed => "Failed to parse configuration"
  | .invalid violation => "Configuration validation failed: " ++ violation.message

/-- Reads a file as a document. -/
def File.document (file : File) : Except LoadError Document :=
  match file with
  | .missing => .error .notFound
  | .unreadable => .error .malformed
  | .content bytes =>
    match (String.fromUTF8? bytes).bind Toml.read? with
    | some doc => .ok doc
    | none => .error .malformed

/-- Reads a file as a value of some type. -/
def File.load {α : Type} (file : File) (ofDocument? : Document.Dialect → Document → Option α) :
    Except LoadError α := do
  match ofDocument? .toml (← file.document) with
  | some a => .ok a
  | none => .error .malformed

/-- A value, unless it violates a demand. -/
def checked {α : Type} (violations : α → List Violation) (a : α) : Except LoadError α :=
  match (violations a).head? with
  | none => .ok a
  | some v => .error (.invalid v)

namespace Config

/-- Loads a configuration and checks it. -/
def load (file : File) : Except LoadError Config := do
  checked violations (← file.load ofDocument?)

/-- Loads a configuration for an identity that may replace the configured one. -/
def loadFor (id : Option Identity) (file : File) : Except LoadError Config := do
  let config ← load file
  match id with
  | none => return config
  | some id => checked violations { config with device.id := id }

end Config
end FieldbusNode
