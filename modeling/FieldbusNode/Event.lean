/-
Diagnostic events.

An event is a value; its text is made in one place, `Event.render`.  What a
controller reports goes through a `Journal`, which is a part of whatever it acts
on, so events keep their order among what the hardware reports itself.
-/
import FieldbusNode.Flags
import FieldbusNode.Hardware.Error
import FieldbusNode.Identity
import FieldbusNode.Inertial.Frame
import FieldbusNode.Record.Field
import FieldbusNode.State
import FieldbusNode.Trap
namespace FieldbusNode

/-- How severe an event is. -/
inductive Level
  | trace
  | debug
  | info
  | warn
  | error
  deriving DecidableEq, Inhabited

namespace Level

/-- Severity as a number, larger for more severe. -/
def rank : Level → Nat
  | trace => 0
  | debug => 1
  | info => 2
  | warn => 3
  | error => 4

/-- Name in configurations. -/
def name : Level → String
  | trace => "trace"
  | debug => "debug"
  | info => "info"
  | warn => "warn"
  | error => "error"

/-- Name in front of an event. -/
def tag : Level → String
  | trace => "TRACE"
  | debug => "DEBUG"
  | info => "INFO"
  | warn => "WARN"
  | error => "ERROR"

/-- Every level. -/
def all : List Level := [.trace, .debug, .info, .warn, .error]

/-- The level of a name. -/
def ofName? (name : String) : Option Level :=
  all.find? (·.name == name)

/-- Whether a filter at the first level lets an event of the second through. -/
def admits (filter level : Level) : Bool :=
  filter.rank ≤ level.rank

end Level

/-- Something worth reporting. -/
inductive Event
  /-- A device was chosen by the identity. -/
  | deviceSelected (id : Identity) (kind : Kind)
  /-- The controller is ready. -/
  | controllerReady (id : Identity) (layout : Layout) (cycleMicros : Nat)
  /-- Real-time set-up is done; this build leaves the operating system alone. -/
  | realTimeReady (core : Nat) (priority : Int)
  | loopEntered (budgetMicros idlePollMicros : Nat)
  | loopStopped (cycles : Nat) (average greatest : Int) (overruns missedEdges : Nat)
      (state : State)
  /-- A cycle took longer than the cycle time. -/
  | cycleOverran (elapsedMicros budgetMicros : Nat)
  | cycleComplete (sequence : Nat) (counter : UInt8) (state : State)
  /-- Edges were lost between two observed ones. -/
  | edgesMissed (missed sequence : Nat)
  /-- The local watchdog ran out; outputs are stopped. -/
  | watchdogExpired (state : State) (cycles : Nat)
  | transition (source target : State) (reason : Reason)
  | stopLineTripped (count : Nat)
  | masterStalled (errors : Nat) (counter : UInt16)
  /-- An actuator's hardware call failed. -/
  | actuatorFault (flag : Flag) (error : HardwareError)
  /-- A sample showed faults that were not latched yet. -/
  | faultsLatched (faults : Flags)
  | boomEncoderFailed (channel : EncoderChannel) (error : HardwareError)
  | boomVoltageFailed (error : HardwareError)
  | imuTransportFault (error : HardwareError)
  | imuFrameRejected (error : Inertial.FrameError)
  | imuSequenceGap (expected sequence skipped : UInt8)
  /-- The edge queue of a board was full. -/
  | edgeLost (sequence : Nat)
  /-- The watchdog of a board ran out. -/
  | watchdogLatched (sinceFeedMicros : Nat)
  | amplifierSwitched (enabled : Bool)
  deriving DecidableEq

namespace Event

/-- How severe the event is. -/
def level : Event → Level
  | cycleComplete .. | amplifierSwitched .. => .trace
  | realTimeReady .. | faultsLatched .. | edgeLost .. => .debug
  | deviceSelected .. | controllerReady .. | loopEntered .. | loopStopped .. | transition .. =>
    .info
  | cycleOverran .. | edgesMissed .. | stopLineTripped .. | masterStalled ..
  | imuFrameRejected .. | imuSequenceGap .. | watchdogLatched .. => .warn
  | watchdogExpired .. | actuatorFault .. | boomEncoderFailed .. | boomVoltageFailed ..
  | imuTransportFault .. => .error

/-- Message of the event. -/
def message : Event → String
  | deviceSelected .. => "device type selected"
  | controllerReady .. => "device controller initialized"
  | realTimeReady .. => "RT setup complete"
  | loopEntered .. => "entering cycle loop"
  | loopStopped .. => "cycle loop stopped"
  | cycleOverran .. => "cycle overran its budget"
  | cycleComplete .. => "cycle complete"
  | edgesMissed .. => "edges missed"
  | watchdogExpired .. => "local watchdog expired, outputs stopped"
  | transition .. => "state transition"
  | stopLineTripped .. => "stop line debounce tripped"
  | masterStalled .. => "master watchdog tripped"
  | actuatorFault .. => "actuator hardware fault"
  | faultsLatched .. => "sampled faults latched"
  | boomEncoderFailed .. => "boom encoder read failed"
  | boomVoltageFailed .. => "boom logic voltage read failed"
  | imuTransportFault .. => "imu transport fault"
  | imuFrameRejected .. => "imu frame rejected"
  | imuSequenceGap .. => "imu sequence gap"
  | edgeLost .. => "edge queue full, oldest edge lost"
  | watchdogLatched .. => "simulated local watchdog expired"
  | amplifierSwitched .. => "amplifier"

/-- Names and values that go with the message, in the order they are written. -/
def fields : Event → List (String × String)
  | deviceSelected id kind =>
    [("id", id.render), ("kind", kind.name), ("position", toString id.position)]
  | controllerReady id layout cycleMicros =>
    [("id", id.render), ("layout", layout.name), ("rx_bytes", toString layout.rxSize),
      ("tx_bytes", toString layout.txSize), ("cycle_us", toString cycleMicros)]
  | realTimeReady core priority =>
    [("cpu_core", toString core), ("rt_priority", toString priority), ("rt", "false")]
  | loopEntered budgetMicros idlePollMicros =>
    [("budget_us", toString budgetMicros), ("idle_poll_us", toString idlePollMicros)]
  | loopStopped cycles average greatest overruns missedEdges state =>
    [("cycles", toString cycles), ("avg_ns", toString average), ("max_ns", toString greatest),
      ("overruns", toString overruns), ("missed_edges", toString missedEdges),
      ("state", state.name)]
  | cycleOverran elapsedMicros budgetMicros =>
    [("elapsed_us", toString elapsedMicros), ("budget_us", toString budgetMicros)]
  | cycleComplete sequence counter state =>
    [("seq", toString sequence), ("counter", toString counter.toNat), ("state", state.name)]
  | edgesMissed missed sequence =>
    [("missed", toString missed), ("seq", toString sequence)]
  | watchdogExpired state cycles =>
    [("state", state.name), ("cycles", toString cycles)]
  | transition source target reason =>
    [("from", source.name), ("to", target.name), ("reason", reason.name)]
  | stopLineTripped count => [("count", toString count)]
  | masterStalled errors counter =>
    [("errors", toString errors), ("counter", toString counter.toNat)]
  | actuatorFault flag error =>
    [("flag", (Flags.single flag).render), ("err", error.message)]
  | faultsLatched faults => [("faults", faults.render)]
  | boomEncoderFailed channel error => [("channel", channel.name), ("err", error.message)]
  | boomVoltageFailed error => [("err", error.message)]
  | imuTransportFault error => [("err", error.message)]
  | imuFrameRejected error => [("err", error.message)]
  | imuSequenceGap expected sequence skipped =>
    [("expected", toString expected.toNat), ("sequence", toString sequence.toNat),
      ("skipped", toString skipped.toNat)]
  | edgeLost sequence => [("sequence", toString sequence)]
  | watchdogLatched sinceFeedMicros => [("since_feed_us", toString sinceFeedMicros)]
  | amplifierSwitched enabled => [("enabled", if enabled then "true" else "false")]

/-- One line: level, message, then `name=value` for every field. -/
def render (e : Event) : String :=
  " ".intercalate <|
    e.level.tag :: e.message :: e.fields.map fun (name, value) => name ++ "=" ++ value

end Event

/-- Something that keeps what is reported to it. -/
class Journal (σ : Type) where
  /-- Reports an event. -/
  note : Event → σ → σ
  /-- Reports a failed run-time check; the first one counts. -/
  trap : Trap → σ → σ

/-- Reports events in order. -/
def Journal.noteAll {σ : Type} [Journal σ] (events : List Event) (s : σ) : σ :=
  events.foldl (fun s e => Journal.note e s) s

/-- Reports an event if a condition holds. -/
def Journal.noteIf {σ : Type} [Journal σ] (condition : Bool) (e : Event) (s : σ) : σ :=
  if condition then Journal.note e s else s

/-- Reports a failed run-time check if a condition holds. -/
def Journal.trapIf {σ : Type} [Journal σ] (condition : Bool) (t : Trap) (s : σ) : σ :=
  if condition then Journal.trap t s else s

namespace Journal

variable {σ : Type} [Journal σ]

/-- What one report keeps, several keep. -/
theorem noteAll_keeps {P : σ → Prop} (kept : ∀ (e : Event) (s : σ), P s → P (note e s))
    (events : List Event) {s : σ} (h : P s) : P (noteAll events s) := by
  unfold noteAll
  induction events generalizing s with
  | nil => exact h
  | cons e rest ih => exact ih (kept e s h)

/-- What one report leaves alone, several leave alone. -/
theorem noteAll_leaves {α : Type} {f : σ → α} (same : ∀ (e : Event) (s : σ), f (note e s) = f s)
    (events : List Event) (s : σ) : f (noteAll events s) = f s := by
  unfold noteAll
  induction events generalizing s with
  | nil => rfl
  | cons e rest ih => exact (ih (note e s)).trans (same e s)

theorem noteIf_leaves {α : Type} {f : σ → α} (same : ∀ (e : Event) (s : σ), f (note e s) = f s)
    (condition : Bool) (e : Event) (s : σ) : f (noteIf condition e s) = f s := by
  cases condition with
  | true => exact same e s
  | false => rfl

theorem trapIf_leaves {α : Type} {f : σ → α} (same : ∀ (t : Trap) (s : σ), f (trap t s) = f s)
    (condition : Bool) (t : Trap) (s : σ) : f (trapIf condition t s) = f s := by
  cases condition with
  | true => exact same t s
  | false => rfl

end Journal
end FieldbusNode
