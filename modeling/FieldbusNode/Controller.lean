/-
The controller of a node.

It waits for the cycle trigger and runs one synchronized cycle per edge:

    sample inputs, publish, take over the inbound record, count the cycle,
    ask the sensor for the next frame, feed the watchdog, sample the stop line,
    tick the state machine.

Between edges there is only housekeeping: an idle node feeds its watchdog.  A
watchdog that has run out is final: every further poll stops the outputs, asserts
the stop line and fails.
-/
import FieldbusNode.Config
import FieldbusNode.Device
import FieldbusNode.Statistics
namespace FieldbusNode

/-- Why a controller cannot be started. -/
inductive StartError
  /-- The identity names no kind of device. -/
  | unknownDevice (id : Identity)
  /-- The hardware could not be set up. -/
  | hardware (error : HardwareError)
  deriving DecidableEq

/-- The wording of a failed start. -/
def StartError.message : StartError → String
  | .unknownDevice id => "unknown device identity " ++ id.render
  | .hardware error => "hardware: " ++ error.message

/-- The local watchdog ran out. -/
structure Expiry where
  state : State
  /-- Synchronized cycles before it did. -/
  cycles : Nat
  deriving DecidableEq

/-- The wording of an expiry. -/
def Expiry.message (e : Expiry) : String :=
  "local watchdog expired in " ++ e.state.name ++ " after " ++ toString e.cycles ++ " cycles"

/-- What one pass of the loop did. -/
inductive Outcome
  /-- An edge was observed and a cycle ran. -/
  | synced (transition : Transition)
  /-- No edge came. -/
  | idle
  deriving DecidableEq

/-- A nanosecond count as a signed 64-bit number. -/
def signedNanos (nanos : Nat) : Int :=
  Int.bmod nanos (uint64Max + 1)

/-- A controller with its device and its board. -/
structure Controller (β : Type) where
  board : β
  device : Device
  data : ProcessData
  machine : Machine
  id : Identity
  /-- Cycle counter, as the next header will carry it. -/
  counter : UInt8
  statistics : Statistics
  /-- Expected fieldbus cycle in nanoseconds. -/
  cycleTime : Nat
  /-- Longest wait for an edge, in nanoseconds. -/
  idlePoll : Nat
  /-- Number of the edge observed last. -/
  lastSequence : Option Nat

namespace Controller

variable {β : Type} [Board β]

/-- Reports an event. -/
def note (c : Controller β) (e : Event) : Controller β :=
  { c with board := Journal.note e c.board }

/-- Hands the outbound record to the transport. -/
def publish (c : Controller β) : Controller β :=
  { c with
    board := Board.send c.data.wireBytes c.board
    data := c.data.published }

/-- Chooses and sets up the device, and publishes a header in `idle`, so the master sees the node
before the first edge.  The board comes back also when that fails. -/
def start (config : Config) (b : β) : Except StartError (Controller β) × β :=
  let id := config.device.id
  match id.kind? with
  | none => (.error (.unknownDevice id), b)
  | some kind =>
    let b := Journal.note (.deviceSelected id kind) b
    let device := Device.ofKind kind config.limits
    match device.setUp (.ofLayout kind.layout) b with
    | (.error e, b) => (.error (.hardware e), b)
    | (.ok data, b) =>
      let controller : Controller β :=
        { board := b
          device
          data := data.writeHeader id .idle 0 device.flags
          machine := .ofConfig config.safety
          id
          counter := 0
          statistics := .zero
          cycleTime := Duration.ofMicros config.device.cycleTime.toNat
          idlePoll := Duration.ofMicros config.device.idlePoll.toNat
          lastSequence := none }
      let ready := controller.publish.note
        (.controllerReady id kind.layout config.device.cycleTime.toNat)
      (.ok ready, ready.board)

/-! ### One synchronized cycle -/

/-- Edges lost between the last observed edge and this one. -/
def missedBefore (c : Controller β) (edge : Edge) : Nat :=
  match c.lastSequence with
  | some previous => edge.sequence - previous - 1
  | none => 0

/-- Accounts for lost edges. -/
def accountEdge (c : Controller β) (edge : Edge) : Controller β :=
  let missed := c.missedBefore edge
  let total := c.statistics.missedEdges + missed
  let board := Journal.trapIf (uint64Max < total) .overflow c.board
  { c with
    board := Journal.noteIf (0 < missed) (.edgesMissed missed edge.sequence) board
    statistics := { c.statistics with missedEdges := total }
    lastSequence := some edge.sequence }

/-- Samples the inputs and writes the telemetry. -/
def sampleInputs (c : Controller β) (sinceEdge : Nat) : Controller β :=
  let (device, data, board) := c.device.updateInputs sinceEdge c.data c.board
  { c with device, data, board }

/-- Publishes the outbound record under a new header and takes over the inbound record. -/
def exchange (c : Controller β) : Controller β :=
  let header := c.data.writeHeader c.id c.machine.state c.counter c.device.flags
  let c := { c with data := header }.publish
  let (received, board) := Board.receive c.data.layout.rxSize c.board
  { c with board, data := c.data.ingest received }

/-- Counts the cycle and does the device's work behind the exchange. -/
def afterExchange (c : Controller β) : Controller β :=
  let (device, board) := c.device.postSync c.board
  { c with counter := c.counter + 1, device, board }

/-- Feeds the watchdog if the state allows it. -/
def feed (c : Controller β) (edgeSeen : Bool) : Controller β :=
  if shouldFeed edgeSeen c.machine.state then { c with board := Board.feed c.board } else c

/-- Samples the stop line into the debounce. -/
def sampleStopLine (c : Controller β) : Controller β :=
  let asserted := Board.lineAsserted c.board
  let supervisor := c.machine.supervisor
  { c with
    board := Journal.noteAll (supervisor.sampleStopLineEvents asserted) c.board
    machine := { c.machine with supervisor := supervisor.sampleStopLine asserted } }

/-- Ticks the state machine. -/
def tick (c : Controller β) : Controller β :=
  let (machine, mounted) := c.machine.tick c.data (⟨c.device, c.board⟩ : Mounted β)
  { c with machine, device := mounted.device, board := mounted.board }

/-- Records the cycle: how long it took, and how long after its edge it sampled. -/
def recordCycle (c : Controller β) (edge : Edge) (sinceEdge : Nat) : Controller β :=
  let elapsed := Board.cycleDuration c.board
  let late : Bool := c.cycleTime < elapsed
  let recorded := c.statistics.record (signedNanos elapsed) (signedNanos sinceEdge)
  let board := Journal.trapIf (!recorded.InRange) .overflow c.board
  let overran := .cycleOverran (Duration.toMicrosWord elapsed) (Duration.toMicrosWord c.cycleTime)
  { c with
    board := Journal.noteIf late overran board
    statistics := recorded.countOverrun late }.note
    (.cycleComplete edge.sequence c.counter c.machine.state)

/-- One synchronized cycle. -/
def syncCycle (c : Controller β) (edge : Edge) : Controller β :=
  let c := c.accountEdge edge
  let sinceEdge := Board.sinceEdge c.board
  let c := c.sampleInputs sinceEdge |>.exchange |>.afterExchange
  let c := c.feed true |>.sampleStopLine |>.tick
  c.recordCycle edge sinceEdge

/-! ### The loop -/

/-- What a controller whose watchdog ran out does, and what it reports. -/
def expire (c : Controller β) : Expiry × Controller β :=
  let (device, board) := c.device.estop c.board
  let expiry : Expiry := ⟨c.machine.state, c.statistics.cycleCount⟩
  (expiry, { c with device, board := Board.assertLine board }.note
    (.watchdogExpired expiry.state expiry.cycles))

/-- Notes a poll without an edge and feeds the watchdog if the node is idle. -/
def idlePass (c : Controller β) : Controller β :=
  let statistics := { c.statistics with idlePolls := c.statistics.idlePolls + 1 }
  { c with statistics }.feed false

/-- One pass of the loop: the watchdog is checked, then an edge is awaited. -/
def poll (c : Controller β) : Except Expiry Outcome × Controller β :=
  let (expired, board) := Board.expired c.board
  let c := { c with board }
  if expired then
    let (expiry, c) := c.expire
    (.error expiry, c)
  else
    match Board.awaitEdge c.idlePoll c.board with
    | (some edge, board) =>
      let synced := { c with board }.syncCycle edge
      (.ok (.synced ⟨c.machine.state, synced.machine.state⟩), synced)
    | (none, board) => (.ok .idle, { c with board }.idlePass)

/-- Polls until so many cycles have run in total, or the passes are used up. -/
def loop (maxCycles : Option Nat) : Nat → Controller β → Except Expiry Unit × Controller β
  | 0, c => (.ok (), c)
  | passes + 1, c =>
    if maxCycles.any (· ≤ c.statistics.cycleCount) then (.ok (), c)
    else
      match c.poll with
      | (.error expiry, c) => (.error expiry, c)
      | (.ok _, c) => c.loop maxCycles passes

/-- Runs the loop and reports its begin and, unless the watchdog ran out, its end. -/
def run (c : Controller β) (maxCycles : Option Nat) (passes : Nat) :
    Except Expiry Unit × Controller β :=
  let entered := .loopEntered (Duration.toMicrosWord c.cycleTime) (Duration.toMicrosWord c.idlePoll)
  match (c.note entered).loop maxCycles passes with
  | (.error expiry, c) => (.error expiry, c)
  | (.ok _, c) =>
    let s := c.statistics
    (.ok (), c.note (.loopStopped s.cycleCount s.average s.greatest s.overruns s.missedEdges
      c.machine.state))

end Controller
end FieldbusNode
