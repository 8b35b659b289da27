/-
A session of the program: one node on a simulated board, with its master.

The master commands `run`, and `reset` while the node publishes `error`.  In a
round of the session the master steps and the node polls once.

A session leaves lines.  The configuration sets which of them are shown, and a
configuration that cannot be loaded is reported at the usual level.
-/
import FieldbusNode.CommandLine.Arguments
import FieldbusNode.Config.Loading
import FieldbusNode.Simulation.Station
namespace FieldbusNode.CommandLine

open Simulation

/-- Name and version of the program. -/
def versionText : String := "medulla_device 0.1.0"

/-- Why a session failed. -/
inductive Failure
  | load (e : LoadError)
  | start (e : StartError)
  | expiry (e : Expiry)
  deriving DecidableEq

/-- The wording of a failure. -/
def Failure.message : Failure → String
  | .load e => e.message
  | .start e => "device error: " ++ e.message
  | .expiry e => e.message

/-- One line of a session. -/
inductive Line
  | starting
  | configured (c : Config)
  /-- What the node or its board reported. -/
  | event (e : Event)
  | finished (rounds : Nat) (state : State)
  | failed (failure : Failure)
  | shutdown

namespace Line

/-- How severe a line is. -/
def level : Line → Level
  | starting | configured _ | finished .. | shutdown => .info
  | event e => e.level
  | failed _ => .error

/-- Text of a line, its severity aside. -/
def text : Line → String
  | starting => "Medulla device controller v0.1.0 starting..."
  | configured c =>
    "config OK service=" ++ c.shared.serviceName ++ " device=" ++ c.device.id.render ++
      " cycle_us=" ++ toString c.device.cycleTime.toNat
  | event e =>
    " ".intercalate (e.message :: e.fields.map fun (name, value) => name ++ "=" ++ value)
  | finished rounds state =>
    "simulation finished master_cycles=" ++ toString rounds ++ " final_state=" ++ state.name
  | failed failure => "FATAL: " ++ failure.message
  | shutdown => "Medulla device controller shutdown complete"

end Line

/-! ### Rounds -/

/-- What the master commands, given what the node published. -/
def masterCommand (published : State) : State :=
  if published = .error then .reset else .run

/-- The state the node published last. -/
def publishedState (s : Station) : State :=
  State.ofByte (s.board.tx.getByte Outbound.deviceState.offset)

/-- One round: the master steps and the node polls once. -/
def round (s : Station) : Except Expiry Outcome × Station :=
  ((s.act (.command (masterCommand (publishedState s)).toByte)).act .step).poll

/-- So many rounds, unless the watchdog runs out. -/
def rounds : Nat → Station → Except Expiry Unit × Station
  | 0, s => (.ok (), s)
  | n + 1, s =>
    match round s with
    | (.error e, s) => (.error e, s)
    | (.ok _, s) => rounds n s

/-! ### Sessions -/

/-- Starts the node of a configuration on a fresh rig. -/
def startStation (args : Arguments) (c : Config) : Except StartError Station :=
  let rig := Rig.fresh c.safety (Duration.ofMicros c.device.cycleTime.toNat)
  let board := Journal.note (.realTimeReady args.core args.priority) rig.board
  Station.start c { rig with board }

/-- What the board of a station reported, oldest first. -/
def reportedLines (s : Station) : List Line :=
  s.board.reported.reverse.map .event

/-- The last lines of a session: that it failed, or that it ended well. -/
def closing : Except Failure Unit → List Line
  | .error failure => [.failed failure]
  | .ok _ => [.shutdown]

/-- All lines of a session of so many rounds, and how it ended. -/
def session (args : Arguments) (config : Except LoadError Config) (count : Nat) :
    List Line × Except Failure Unit :=
  match config with
  | .error e => ([.starting], .error (.load e))
  | .ok c =>
    match startStation args c with
    | .error e => ([.starting, .configured c], .error (.start e))
    | .ok s =>
      let (outcome, s) := rounds count s
      ([.starting, .configured c] ++ reportedLines s ++ [.finished s.master.cycles s.state],
        outcome.mapError .expiry)

/-- The least severe level that is shown. -/
def shownLevel (args : Arguments) (config : Except LoadError Config) : Level :=
  if args.verbose then .debug
  else
    match config with
    | .ok c => c.shared.logLevel
    | .error _ => .info

/-- What a session leaves. -/
structure Transcript where
  lines : List Line
  /-- Exit code. -/
  code : Nat

/-- A session of so many rounds, as it is shown. -/
def transcript (args : Arguments) (file : File) (count : Nat) : Transcript :=
  let config := Config.loadFor args.id file
  let (lines, outcome) := session args config count
  let all := lines ++ closing outcome
  { lines := all.filter fun line => (shownLevel args config).admits line.level
    code := if outcome.isOk then 0 else 1 }

end FieldbusNode.CommandLine
