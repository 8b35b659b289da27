/-
The program.

A session with a number of cycles is simulated and printed.  One without goes on
in steps of one round each, at the pace of the configured cycle, until it fails
or is stopped from outside.
-/
import FieldbusNode.CommandLine.Rendering
namespace FieldbusNode.CommandLine

open Simulation

/-- What is under a path. -/
def readFile (path : String) : IO File := do
  try
    return .content (← IO.FS.readBinFile path)
  catch
    | .noFileOrDirectory .. => return .missing
    | _ => return .unreadable

/-- Prints the lines that are shown. -/
def printLines (json : Bool) (shown : Level) (lines : List Line) : IO Unit := do
  for line in lines do
    if shown.admits line.level then IO.println (line.render json)
  (← IO.getStdout).flush

/-- Goes on round after round, printing what each reports. -/
partial def goOn (json : Bool) (shown : Level) (pause : UInt32) (s : Station) : IO UInt32 := do
  printLines json shown (reportedLines s)
  let cleared := { s with controller.board.reported := [] }
  match round cleared with
  | (.error e, s) =>
    printLines json shown
      (reportedLines s ++ [.finished s.master.cycles s.state, .failed (.expiry e)])
    return 1
  | (.ok _, s) =>
    IO.sleep pause
    goOn json shown pause s

/-- Runs a session. -/
def runSession (args : Arguments) : IO UInt32 := do
  let file ← readFile args.path
  match args.cycles, Config.loadFor args.id file with
  | none, .ok config =>
    let shown := shownLevel args (.ok config)
    printLines args.json shown [.starting, .configured config]
    match startStation args config with
    | .ok s => goOn args.json shown (config.device.cycleTime / 1000) s
    | .error e =>
      printLines args.json shown [.failed (.start e)]
      return 1
  | count, _ =>
    let t := transcript args file (count.getD 0)
    printLines args.json .trace t.lines
    return UInt32.ofNat t.code

/-- Runs the program and gives its exit code. -/
def runProgram (args : List String) : IO UInt32 := do
  match Arguments.read args with
  | .ok args => runSession args
  | .error .help => IO.println helpText; return 0
  | .error .version => IO.println versionText; return 0
  | .error .usage => IO.eprintln usageText; return 2

end FieldbusNode.CommandLine

/-- Entry point. -/
def main (args : List String) : IO UInt32 :=
  FieldbusNode.CommandLine.runProgram args
