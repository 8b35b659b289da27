/-
A bench plant for the state machine.

The answers to the machine's questions are set from outside, and the hooks it
calls are recorded.  `Recorded` adds the record to any plant.
-/
import FieldbusNode.Machine
namespace FieldbusNode.Bench

/-- A hook of a plant. -/
inductive Hook
  | enableOutputs
  | disableOutputs
  | updateOutputs
  | estop
  | resetError
  | runHalt
  | assertLine
  | releaseLine
  deriving DecidableEq

/-- Text of a hook. -/
def Hook.render : Hook → String
  | .enableOutputs => "enable_outputs"
  | .disableOutputs => "disable_outputs"
  | .updateOutputs => "update_outputs"
  | .estop => "estop"
  | .resetError => "reset_error"
  | .runHalt => "run_halt"
  | .assertLine => "assert_stop"
  | .releaseLine => "deassert_stop"

/-- A plant and the hooks that were called on it, newest first. -/
structure Recorded (σ : Type) where
  plant : σ
  hooks : List Hook := []

namespace Recorded

variable {σ : Type}

/-- Calls a hook of the plant and records it. -/
def call (r : Recorded σ) (hook : Hook) (f : σ → σ) : Recorded σ :=
  ⟨f r.plant, hook :: r.hooks⟩

instance [Plant σ] : Plant (Recorded σ) where
  note e r := { r with plant := Journal.note e r.plant }
  trap t r := { r with plant := Journal.trap t r.plant }
  enableOutputs r := r.call .enableOutputs Plant.enableOutputs
  disableOutputs r := r.call .disableOutputs Plant.disableOutputs
  updateOutputs data r := r.call .updateOutputs (Plant.updateOutputs data)
  estop r := r.call .estop Plant.estop
  resetError r := r.call .resetError Plant.resetError
  runHalt r := ((Plant.runHalt r.plant).1, r.call .runHalt fun s => (Plant.runHalt s).2)
  faulty r := Plant.faulty r.plant
  wantsHalt r := Plant.wantsHalt r.plant
  lineAsserted r := Plant.lineAsserted r.plant
  assertLine r := r.call .assertLine Plant.assertLine
  releaseLine r := r.call .releaseLine Plant.releaseLine

end Recorded

/-- A plant whose answers are set from outside. -/
structure Script where
  /-- A fault that stays. -/
  fault : Bool := false
  /-- A fault until errors are reset. -/
  latchedFault : Bool := false
  halt : Bool := false
  /-- The halt controller gives up. -/
  haltFails : Bool := false
  /-- The stop line is asserted from outside. -/
  external : Bool := false
  /-- The stop line is asserted by the machine. -/
  asserted : Bool := false
  /-- What was reported, newest first. -/
  reported : List Event := []
  /-- The first failed run-time check. -/
  trapped : Option Trap := none

namespace Script

/-- Whether anybody asserts the stop line. -/
def lineAsserted (s : Script) : Bool := s.external || s.asserted

instance : Plant Script where
  note e s := { s with reported := e :: s.reported }
  trap t s := { s with trapped := s.trapped.or (some t) }
  enableOutputs s := s
  disableOutputs s := s
  updateOutputs _ s := s
  estop s := s
  resetError s := { s with latchedFault := false }
  runHalt s := (!s.haltFails, s)
  faulty s := s.fault || s.latchedFault
  wantsHalt s := s.halt
  lineAsserted s := s.lineAsserted
  assertLine s := { s with asserted := true }
  releaseLine s := { s with asserted := false }

end Script

/-- A state machine on a scripted plant, with the master counter it is fed. -/
structure MachineBench where
  machine : Machine
  plant : Recorded Script
  data : ProcessData
  counter : UInt16

namespace MachineBench

/-- A fresh machine on a fresh plant. -/
def ofConfig (c : SafetySection) : MachineBench where
  machine := .ofConfig c
  plant := { plant := {} }
  data := .ofLayout ⟨"bench", Inbound.headerEnd, Outbound.headerEnd⟩
  counter := 0

/-- Sets the state from a raw byte. -/
def restore (b : MachineBench) (raw : UInt8) : MachineBench :=
  let (machine, plant) := b.machine.restore raw b.plant
  { b with machine, plant }

/-- Samples the stop line into the debounce. -/
def sampleLine (b : MachineBench) : MachineBench :=
  let asserted := Plant.lineAsserted b.plant
  let supervisor := b.machine.supervisor
  { b with
    plant := Journal.noteAll (supervisor.sampleStopLineEvents asserted) b.plant
    machine := { b.machine with supervisor := supervisor.sampleStopLine asserted } }

/-- One tick under a command.  The master counter takes the given value or advances by one; the
stop line is sampled first, unless that is switched off. -/
def tick (b : MachineBench) (command : UInt8) (counter : Option UInt16) (sample : Bool) :
    MachineBench :=
  let counter := counter.getD (b.counter + 1)
  let data := b.data.loadHeader command counter
  let b := if sample then b.sampleLine else b
  let (machine, plant) := b.machine.tick data b.plant
  { machine, plant, data, counter }

end MachineBench
end FieldbusNode.Bench
