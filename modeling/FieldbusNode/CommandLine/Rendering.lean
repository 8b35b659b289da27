/-
Lines of a session as text.

A line is its severity and its text, or a JSON object with both.
-/
import FieldbusNode.CommandLine.Session
import FieldbusNode.Text.Hex
namespace FieldbusNode.CommandLine

/-- A character within a JSON text. -/
def jsonCharacter (c : Char) : List Char :=
  if c = '"' then ['\\', '"']
  else if c = '\\' then ['\\', '\\']
  else if c.toNat < 32 then ['\\', 'u'] ++ Text.hexDigits 4 c.toNat
  else [c]

/-- A text in JSON, quotes included. -/
def jsonText (s : String) : String :=
  "\"" ++ String.ofList (s.toList.flatMap jsonCharacter) ++ "\""

/-- A line as it is printed. -/
def Line.render (json : Bool) (line : Line) : String :=
  if json then
    "\x7b\"level\":" ++ jsonText line.level.tag ++ ",\"message\":" ++ jsonText line.text ++ "\x7d"
  else line.level.tag ++ " " ++ line.text

/-- The help. -/
def helpText : String :=
  "\n".intercalate
    ["Safety-gated fieldbus device controller for a legged robot",
      "",
      "Usage: medulla_device [OPTIONS] [CONFIG]",
      "",
      "Arguments:",
      "  [CONFIG]  Path to the node configuration TOML [default: config/medulla.toml]",
      "",
      "Options:",
      "      --device-id <DEVICE_ID>      Device identity override, hex (0x21) or decimal",
      "      --cycles <CYCLES>            Stop after this many synchronized cycles",
      "      --cpu-core <CPU_CORE>        CPU core to pin the cycle thread to [default: 1]",
      "      --rt-priority <RT_PRIORITY>  SCHED_FIFO priority [default: 80]",
      "  -v, --verbose                    Enable verbose logging (DEBUG level)",
      "      --json                       Output logs in JSON format",
      "  -h, --help                       Print help",
      "  -V, --version                    Print version"]

/-- What is printed when the arguments make no sense. -/
def usageText : String :=
  "error: invalid arguments\n\nUsage: medulla_device [OPTIONS] [CONFIG]\n\n" ++
    "For more information, try '--help'."

end FieldbusNode.CommandLine
