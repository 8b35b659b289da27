/-
The state machine of a node.

One tick runs per synchronized cycle.  It starts in the stage of the current
state; a stage either ends the tick or hands over to a later one, so a fault
found while running is handled in the tick that finds it:

    idle ──▶ init ──▶ run (ends the tick)
              │
              ▼
    run ──▶ stop ──▶ idle
     │ └──▶ halt ──▶ error        error ──▶ reset
     └──▶ error                   reset ──▶ idle

A tick acts on a `Plant`: the hooks of a device and the stop line of its board.
The plant is any type with such hooks, and whether its questions are answered
consistently is its own business.

Every entry into `error` restarts the dwell, and the tick of the entry does not
count towards it.
-/
import FieldbusNode.ProcessData
import FieldbusNode.Supervisor
namespace FieldbusNode

/-- What the state machine acts on. -/
class Plant (σ : Type) extends Journal σ where
  /-- Energizes the outputs. -/
  enableOutputs : σ → σ
  /-- De-energizes the outputs. -/
  disableOutputs : σ → σ
  /-- Applies the inbound commands to the outputs. -/
  updateOutputs : ProcessData → σ → σ
  /-- Emergency stop of the device. -/
  estop : σ → σ
  /-- Clears every latched flag. -/
  resetError : σ → σ
  /-- One step of the halt controller, and whether it succeeded. -/
  runHalt : σ → Bool × σ
  /-- Whether the sampled inputs show a hardware fault. -/
  faulty : σ → Bool
  /-- Whether the sampled inputs ask for the halt controller. -/
  wantsHalt : σ → Bool
  /-- Whether anybody asserts the stop line. -/
  lineAsserted : σ → Bool
  /-- Asserts the stop line. -/
  assertLine : σ → σ
  /-- Ends the own assertion of the stop line. -/
  releaseLine : σ → σ

/-- Transitions kept for diagnostics. -/
def historyDepth : Nat := 32

/-- One recorded transition. -/
structure TransitionRecord where
  tick : Nat
  source : State
  target : State
  reason : Reason
  deriving DecidableEq

/-- Current state, safety counters and recent transitions. -/
structure Machine where
  state : State
  supervisor : Supervisor
  /-- Recent transitions, oldest first. -/
  history : List TransitionRecord
  /-- Ticks run so far. -/
  ticks : Nat
  deriving DecidableEq

namespace Machine

/-- Starts in `idle`. -/
def ofConfig (c : SafetySection) : Machine :=
  ⟨.idle, .ofConfig c, [], 0⟩

/-- Appends a record; the oldest one makes room. -/
def remember (history : List TransitionRecord) (r : TransitionRecord) : List TransitionRecord :=
  let longer := history ++ [r]
  longer.drop (longer.length - historyDepth)

/-- The machine after a change of state.  Entering the current state is no change. -/
def moved (m : Machine) (target : State) (reason : Reason) : Machine :=
  if m.state = target then m
  else
    { m with
      state := target
      history := remember m.history ⟨m.ticks, m.state, target, reason⟩ }

section Tick

variable {σ : Type} [Plant σ]

/-- Changes the state and reports it. -/
def enter (m : Machine) (target : State) (reason : Reason) (s : σ) : Machine × σ :=
  (m.moved target reason,
    Journal.noteIf (m.state != target) (.transition m.state target reason) s)

/-- Enters `error` and restarts the dwell. -/
def enterError (m : Machine) (reason : Reason) (s : σ) : Machine × σ :=
  let (m, s) := m.enter .error reason s
  ({ m with supervisor := m.supervisor.restartDwell }, s)

/-- Sets the state from a raw byte; an unknown byte stands for `error`. -/
def restore (m : Machine) (raw : UInt8) (s : σ) : Machine × σ :=
  match State.ofByte raw with
  | .error => m.enterError .restored s
  | target => m.enter target .restored s

/-- `error`: outputs off and stop line asserted.  The tick that entered the state does not count
towards the dwell; a reset command is honoured once the dwell is over. -/
def errorStage (m : Machine) (data : ProcessData) (entered : Bool) (s : σ) : Machine × σ :=
  let s := Plant.assertLine (Plant.estop s)
  let m := if entered then m else { m with supervisor := m.supervisor.tickDwell }
  if data.command = some .reset ∧ m.supervisor.dwellElapsed then m.enter .reset .commanded s
  else (m, s)

/-- Enters `error` and carries on there. -/
def failStage (m : Machine) (reason : Reason) (data : ProcessData) (s : σ) : Machine × σ :=
  let (m, s) := m.enterError reason s
  m.errorStage data true s

/-- `reset`: clears the faults and goes to `idle`. -/
def resetStage (m : Machine) (s : σ) : Machine × σ :=
  let s := Plant.resetError (Plant.releaseLine s)
  { m with supervisor := m.supervisor.clear }.enter .idle .completed s

/-- `stop`: outputs off, then `idle`. -/
def stopStage (m : Machine) (s : σ) : Machine × σ :=
  m.enter .idle .completed (Plant.disableOutputs s)

/-- `halt`: one step of the halt controller, unless the stop line or a fault ends it.  A halt
controller that gives up ends the tick in `error`, before the stage of that state. -/
def haltStage (m : Machine) (data : ProcessData) (s : σ) : Machine × σ :=
  let tripped := m.supervisor.stopLineTripped
  let (m, s) := if tripped then m.enterError .stopLine s else (m, s)
  if Plant.faulty s then
    m.failStage .hardwareFault data (Plant.disableOutputs s)
  else if tripped then
    m.errorStage data true s
  else
    let (succeeded, s) := Plant.runHalt s
    if succeeded then (m, s) else m.enterError .haltFailed (Plant.disableOutputs s)

/-- Where a running machine goes, and why; `none` stays in `run`.  The command gives a first answer,
and every check behind it that finds something gives another one, the halt zone only as long as the
answer is not `error`. -/
def runDecision (command : Option State) (stalled halting tripped faulty : Bool) :
    Option (State × Reason) :=
  let next :=
    match command with
    | some .stop | some .idle => some (.stop, .commanded)
    | some .halt => some (.halt, .commanded)
    | some .error => some (.error, .commanded)
    | _ => none
  let next := if stalled then some (.error, .masterWatchdog) else next
  let failing := next.any fun choice => choice.1 == .error
  let next := if !failing && halting then some (.halt, .haltRequested) else next
  let next := if tripped then some (.error, .stopLine) else next
  if faulty then some (.error, .hardwareFault) else next

/-- `run`: leaves for what stands in the end, or applies the inbound commands. -/
def runStage (m : Machine) (data : ProcessData) (s : σ) : Machine × σ :=
  let counter := data.masterCounter
  let s := Journal.noteAll (m.supervisor.observeMasterEvents counter) s
  let m := { m with supervisor := m.supervisor.observeMaster counter }
  let faulty := Plant.faulty s
  let decision := runDecision data.command m.supervisor.masterStalled (Plant.wantsHalt s)
    m.supervisor.stopLineTripped faulty
  let s := if faulty then Plant.disableOutputs s else s
  match decision with
  | none => (m, Plant.updateOutputs data s)
  | some (.error, reason) => m.failStage reason data s
  | some (.halt, reason) =>
    let (m, s) := m.enter .halt reason s
    m.haltStage data s
  | some (_, reason) =>
    let (m, s) := m.enter .stop reason s
    m.stopStage s

/-- What the pre-run checks find, if anything. -/
def initDecision (asserted faulty halting : Bool) : Option Reason :=
  if asserted then some .stopLine
  else if faulty then some .hardwareFault
  else if halting then some .haltRequested
  else none

/-- `init`: clears the latched flags, takes the master counter as reference, and goes to `run` if
nothing stands against it. -/
def initStage (m : Machine) (data : ProcessData) (s : σ) : Machine × σ :=
  let s := Plant.resetError s
  let m := { m with supervisor := m.supervisor.rearmMaster data.masterCounter }
  match initDecision (Plant.lineAsserted s) (Plant.faulty s) (Plant.wantsHalt s) with
  | some reason => m.failStage reason data s
  | none => m.enter .run .initComplete (Plant.enableOutputs s)

/-- `idle`: releases the stop line and waits for a run command. -/
def idleStage (m : Machine) (data : ProcessData) (s : σ) : Machine × σ :=
  let s := Plant.releaseLine s
  if data.command = some .run then
    let (m, s) := m.enter .init .commanded s
    m.initStage data s
  else (m, s)

/-- One tick against the latest inbound record.  The stop line has been sampled before. -/
def tick (m : Machine) (data : ProcessData) (s : σ) : Machine × σ :=
  let m := { m with ticks := m.ticks + 1 }
  match m.state with
  | .idle => m.idleStage data s
  | .init => m.initStage data s
  | .run => m.runStage data s
  | .stop => m.stopStage s
  | .halt => m.haltStage data s
  | .reset => m.resetStage s
  | .error => m.errorStage data false s

end Tick
end Machine
end FieldbusNode
