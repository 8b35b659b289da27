/-
Arguments of the program.

Arguments are read from left to right, and the first one that is wrong, or that
asks for the help or the version, ends the reading.  An option that takes a value
has it behind an equals sign or in the next argument; in the next argument it may
not look like an option.  Nothing may be given twice.  Behind two dashes
everything is a path.
-/
import FieldbusNode.Identity
import FieldbusNode.Word
namespace FieldbusNode.CommandLine

/-- What the arguments of a session say. -/
structure Arguments where
  /-- Path of the configuration. -/
  path : String
  /-- Replaces the configured identity. -/
  id : Option Identity
  /-- Cycles to run; without it there is no end. -/
  cycles : Option Nat
  /-- Processor core of the cycle. -/
  core : Nat
  /-- Scheduling priority of the cycle. -/
  priority : Int
  verbose : Bool
  json : Bool
  deriving DecidableEq

/-- Options with a value. -/
inductive Setting
  | id
  | cycles
  | core
  | priority
  deriving DecidableEq

/-- Options without a value. -/
inductive Switch
  | verbose
  | json
  | help
  | version
  deriving DecidableEq

/-- An option by its long name. -/
inductive NamedOption
  | setting (s : Setting)
  | switch (s : Switch)

/-- The option of a long name. -/
def named? : String → Option NamedOption
  | "device-id" => some (.setting .id)
  | "cycles" => some (.setting .cycles)
  | "cpu-core" => some (.setting .core)
  | "rt-priority" => some (.setting .priority)
  | "verbose" => some (.switch .verbose)
  | "json" => some (.switch .json)
  | "help" => some (.switch .help)
  | "version" => some (.switch .version)
  | _ => none

/-- The option of a letter. -/
def lettered? : Char → Option Switch
  | 'v' => some .verbose
  | 'h' => some .help
  | 'V' => some .version
  | _ => none

/-- Why reading ends before a session can begin. -/
inductive Stop
  | help
  | version
  /-- The arguments make no sense. -/
  | usage
  deriving DecidableEq

/-- What was read so far. -/
structure Given where
  path : Option String := none
  id : Option Identity := none
  cycles : Option Nat := none
  core : Option Nat := none
  priority : Option Int := none
  verbose : Bool := false
  json : Bool := false

namespace Given

/-- The session that was asked for, with defaults for what was not given. -/
def arguments (g : Given) : Arguments where
  path := g.path.getD "config/medulla.toml"
  id := g.id
  cycles := g.cycles
  core := g.core.getD 1
  priority := g.priority.getD 80
  verbose := g.verbose
  json := g.json

/-- Takes a path, which may not be empty. -/
def takePath (g : Given) (path : String) : Except Stop Given :=
  if g.path.isSome ∨ path = "" then .error .usage else .ok { g with path }

/-- An unsigned 64-bit number. -/
def natural? (text : String) : Option Nat :=
  (Text.readNumeral 10 uint64Max text.toList).toOption

/-- A signed 32-bit number. -/
def int32? (text : String) : Option Int :=
  match text.toList with
  | '-' :: '+' :: _ => none
  | '-' :: digits => ((Text.readNumeral 10 (int32Max + 1) digits).toOption).map fun n => -(n : Int)
  | digits => ((Text.readNumeral 10 int32Max digits).toOption).map Int.ofNat

/-- Takes a value that was not given before. -/
def takeOnce {α : Type} (before : Option α) (value : Option α) (update : Option α → Given) :
    Except Stop Given :=
  if before.isSome ∨ value.isNone then .error .usage else .ok (update value)

/-- Takes the value of a setting. -/
def takeSetting (g : Given) (s : Setting) (text : String) : Except Stop Given :=
  match s with
  | .id => takeOnce g.id (Identity.read text).toOption fun id => { g with id }
  | .cycles => takeOnce g.cycles (natural? text) fun cycles => { g with cycles }
  | .core => takeOnce g.core (natural? text) fun core => { g with core }
  | .priority => takeOnce g.priority (int32? text) fun priority => { g with priority }

/-- Turns a switch on. -/
def takeSwitch (g : Given) : Switch → Except Stop Given
  | .verbose => if g.verbose then .error .usage else .ok { g with verbose := true }
  | .json => if g.json then .error .usage else .ok { g with json := true }
  | .help => .error .help
  | .version => .error .version

/-- Takes letters behind one dash. -/
def takeLetters (g : Given) : List Char → Except Stop Given
  | [] => .ok g
  | c :: cs =>
    match lettered? c with
    | none => .error .usage
    | some s => do takeLetters (← g.takeSwitch s) cs

end Given

/-- What an argument is by its looks. -/
inductive Shape
  /-- Two dashes. -/
  | separator
  /-- A name behind two dashes, with a value if there is an equals sign. -/
  | long (name : String) (value : Option String)
  /-- Letters behind one dash. -/
  | letters (cs : List Char)
  /-- Anything else, a lone dash included. -/
  | plain

/-- What an argument is by its looks. -/
def Shape.of (arg : String) : Shape :=
  match arg.toList with
  | ['-', '-'] => .separator
  | '-' :: '-' :: cs =>
    let name := String.ofList (cs.takeWhile (· != '='))
    match cs.dropWhile (· != '=') with
    | _ :: value => .long name (some (String.ofList value))
    | [] => .long name none
  | ['-'] => .plain
  | '-' :: cs => .letters cs
  | _ => .plain

/-- Reads arguments that are all paths. -/
def readPaths (g : Given) : List String → Except Stop Given
  | [] => .ok g
  | arg :: rest => do readPaths (← g.takePath arg) rest

/-- Reads arguments, given what was read before. -/
def readArguments (g : Given) : List String → Except Stop Given
  | [] => .ok g
  | arg :: rest =>
    match Shape.of arg with
    | .separator => readPaths g rest
    | .letters cs => do readArguments (← g.takeLetters cs) rest
    | .plain => do readArguments (← g.takePath arg) rest
    | .long name attached =>
      match named? name, attached, rest with
      | some (.setting s), some text, rest => do readArguments (← g.takeSetting s text) rest
      | some (.setting s), none, text :: rest =>
        match Shape.of text with
        | .plain => do readArguments (← g.takeSetting s text) rest
        | _ => .error .usage
      | some (.switch s), none, rest => do readArguments (← g.takeSwitch s) rest
      | _, _, _ => .error .usage

/-- The session that arguments ask for. -/
def Arguments.read (args : List String) : Except Stop Arguments := do
  return (← readArguments {} args).arguments

end FieldbusNode.CommandLine
