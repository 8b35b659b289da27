/-
Operating states of a node.

A state travels as one byte in both process-data directions: the node publishes
the state it is in, the master writes the state it wants.  The two directions
read an unknown byte differently.  As a command it asks for nothing
(`State.ofByte?`); as a published state it is taken for `error`
(`State.ofByte`).
-/
namespace FieldbusNode

/-- Operating state of a node. -/
inductive State
  /-- Outputs off, waiting for a run command. -/
  | idle
  /-- Pre-run checks. -/
  | init
  /-- Outputs live. -/
  | run
  /-- Cooperative stop, one tick long. -/
  | stop
  /-- The device's graceful stop controller is in charge. -/
  | halt
  /-- Clears faults, one tick long. -/
  | reset
  /-- Fault latched, stop line asserted every tick. -/
  | error
  deriving DecidableEq, Inhabited

namespace State

/-- Every state, in the order of the bytes. -/
def all : List State :=
  [.idle, .init, .run, .stop, .halt, .reset, .error]

/-- The byte a state travels as. -/
def toByte : State → UInt8
  | .idle => 0
  | .init => 1
  | .run => 2
  | .stop => 3
  | .halt => 4
  | .reset => 5
  | .error => 6

/-- The state a byte names, if it names one. -/
def ofByte? (byte : UInt8) : Option State :=
  all[byte.toNat]?

/-- The state a byte names, with every unknown byte folded into `error`. -/
def ofByte (byte : UInt8) : State :=
  (ofByte? byte).getD .error

/-- Outputs may be energized in `run` and `halt` only. -/
def outputsLive : State → Bool
  | .run | .halt => true
  | _ => false

/-- Name used in diagnostics. -/
def name : State → String
  | .idle => "Idle"
  | .init => "Init"
  | .run => "Run"
  | .stop => "Stop"
  | .halt => "Halt"
  | .reset => "Reset"
  | .error => "Error"

@[simp] theorem ofByte?_toByte (s : State) : ofByte? s.toByte = some s := by
  cases s <;> rfl

@[simp] theorem ofByte_toByte (s : State) : ofByte s.toByte = s := by
  simp [ofByte]

theorem toByte_injective {s t : State} (h : s.toByte = t.toByte) : s = t := by
  simpa using congrArg ofByte h

end State

/-- Why a transition was taken. -/
inductive Reason
  /-- The master asked for it. -/
  | commanded
  /-- Pre-run checks passed. -/
  | initComplete
  /-- Stop line asserted, or debounced over its limit. -/
  | stopLine
  /-- The master counter stalled. -/
  | masterWatchdog
  /-- The device reported a hardware fault. -/
  | hardwareFault
  /-- The device asked for its halt controller. -/
  | haltRequested
  /-- The halt controller gave up. -/
  | haltFailed
  /-- A one-tick state finished. -/
  | completed
  /-- The state was set from outside. -/
  | restored
  deriving DecidableEq

/-- Name used in diagnostics. -/
def Reason.name : Reason → String
  | .commanded => "Commanded"
  | .initComplete => "InitComplete"
  | .stopLine => "StopLine"
  | .masterWatchdog => "MasterWatchdog"
  | .hardwareFault => "HardwareFault"
  | .haltRequested => "HaltRequested"
  | .haltFailed => "HaltFailed"
  | .completed => "Completed"
  | .restored => "Restored"

/-- The state before a tick and the state after it. -/
structure Transition where
  source : State
  target : State
  deriving DecidableEq

/-- Whether the tick changed the state. -/
def Transition.changed (t : Transition) : Bool :=
  t.source != t.target

end FieldbusNode
