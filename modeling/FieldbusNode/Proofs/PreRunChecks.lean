/-
What the pre-run checks know of the cycle they run in.

They clear the latched flags first, so a read that failed in this very cycle counts
only as far as it shows in the sample.  An actuator puts a value on the unsafe side in
the place of what it could not read, and a missing encoder stays missing; both
survive the clearing, whatever board it is and whatever else has happened before.
The debounce of the limit switches does not survive it: it starts again with the run.
-/
import FieldbusNode.Proofs.FaultReaction
import FieldbusNode.Proofs.HookProtocol
namespace FieldbusNode

open Bench (Hook Recorded)
open Simulation (SimBoard Station Move)

/-! ### Actuators -/

namespace Actuator.Monitor

variable {β : Type} [Hardware β] {m : Monitor} {r : Readings}

/-- What an actuator reads from a board. -/
def readings (m : Monitor) (b : β) : Readings :=
  (Readings.collect m.motorEncoder b).1

theorem motorEncoder_of_failed {b : β} {e : HardwareError}
    (failed : (m.readings b).motor = some (.error e)) : m.motorEncoder = true := by
  cases fitted : m.motorEncoder with
  | true => rfl
  | false =>
      rw [readings, fitted] at failed
      nomatch failed

/-- Clearing the flags leaves the sample, and what it shows by itself. -/
theorem faulty_reset (flag : Flag) (fault : Flags.faultMask.has flag = true)
    (shows : (m.judge r.sample).has flag = true) (other : flag ≠ .limitSwitch) :
    (m.observe r).reset.faulty = true := by
  have still : ((m.observe r).reset.judge r.sample).has flag = true := by
    rw [← shows]
    cases flag with
    | limitSwitch => exact absurd rfl other
    | halt => nomatch fault
    | _ => rfl
  have evaluated : (m.observe r).reset.evaluate = (m.observe r).reset.judge r.sample := rfl
  refine Flags.hasFault_of_has ?_ fault
  rw [Flags.has_union, evaluated, still, Bool.or_true]

/-! ### The limit switches -/

theorem limitSwitch_enable (m : Monitor) (b : β) : (m.enable b).1.limitSwitch = m.limitSwitch := by
  unfold enable
  split <;> rfl

theorem limitSwitch_estop (m : Monitor) (b : β) : (m.estop b).1.limitSwitch = m.limitSwitch := by
  unfold estop disable
  dsimp only
  split <;> rfl

end Actuator.Monitor

namespace Device

variable {β : Type}

/-- The debounce of the limit switches, if the device has any. -/
def limitSwitch? : Device → Option Debounce
  | .actuator _ m => some m.limitSwitch
  | .boom _ | .imu _ => none

/-- A read of an actuator fails on a board, and what stands for it in the sample is outside of its
limit. -/
inductive Fails [Hardware β] (b : β) : Device → Prop
  | outputEncoder {joint : Joint} {m : Actuator.Monitor} {e : HardwareError}
      (failed : (m.readings b).output = .error e) : Fails b (.actuator joint m)
  | motorEncoder {joint : Joint} {m : Actuator.Monitor} {e : HardwareError}
      (failed : (m.readings b).motor = some (.error e)) : Fails b (.actuator joint m)
  | thermistor {joint : Joint} {m : Actuator.Monitor} {e : HardwareError}
      (failed : .error e ∈ (m.readings b).thermistors.toList)
      (limit : m.limits.thermistorMax < 65535) : Fails b (.actuator joint m)
  | motorVoltage {joint : Joint} {m : Actuator.Monitor} {e : HardwareError}
      (failed : (m.readings b).motorVoltage = .error e)
      (limit : 0 < m.limits.motorVoltageMin) : Fails b (.actuator joint m)
  | logicVoltage {joint : Joint} {m : Actuator.Monitor} {e : HardwareError}
      (failed : (m.readings b).logicVoltage = .error e)
      (limit : 0 < m.limits.logicVoltageMin) : Fails b (.actuator joint m)
  | amplifier {joint : Joint} {m : Actuator.Monitor} {e : HardwareError}
      (failed : (m.readings b).amplifierFault = .error e) : Fails b (.actuator joint m)

/-- What failed in the sample of an actuator is still found after its flags were cleared. -/
theorem Fails.found [Hardware β] {b : β} {joint : Joint} {m : Actuator.Monitor}
    (fails : Fails b (.actuator joint m)) : (m.observe (m.readings b)).reset.faulty = true := by
  cases fails with
  | outputEncoder failed =>
      refine Actuator.Monitor.faulty_reset .sensor rfl ?_ (by decide)
      show ((Actuator.value? (m.readings b).output).isNone || _) = true
      rw [failed]
      rfl
  | motorEncoder failed =>
      have fitted := Actuator.Monitor.motorEncoder_of_failed failed
      refine Actuator.Monitor.faulty_reset .sensor rfl ?_ (by decide)
      show (_ || (m.motorEncoder && ((m.readings b).motor.bind Actuator.value?).isNone)) = true
      rw [fitted, failed]
      simp [Actuator.value?]
  | @thermistor _ _ e failed limit =>
      refine Actuator.Monitor.faulty_reset .thermistor rfl ?_ (by decide)
      show ((m.readings b).thermistors.map (Actuator.valueOr 65535)).any
        (m.limits.thermistorMax < ·) = true
      rw [Triple.any_eq_true]
      have stands : Actuator.valueOr 65535 (.error e) ∈
          (m.readings b).thermistors.toList.map (Actuator.valueOr 65535) :=
        List.mem_map_of_mem failed
      exact ⟨65535, stands, decide_eq_true limit⟩
  | motorVoltage failed limit =>
      refine Actuator.Monitor.faulty_reset .motorVoltage rfl ?_ (by decide)
      show (decide (Actuator.valueOr 0 (m.readings b).motorVoltage < _) || _) = true
      rw [failed, Bool.or_eq_true]
      exact Or.inl (decide_eq_true limit)
  | logicVoltage failed limit =>
      refine Actuator.Monitor.faulty_reset .logicVoltage rfl ?_ (by decide)
      show (decide (Actuator.valueOr 0 (m.readings b).logicVoltage < _) || _) = true
      rw [failed, Bool.or_eq_true]
      exact Or.inl (decide_eq_true limit)
  | amplifier failed =>
      refine Actuator.Monitor.faulty_reset .amplifier rfl ?_ (by decide)
      show Actuator.valueOr true (m.readings b).amplifierFault = true
      rw [failed]
      rfl

theorem limitSwitch?_enable [Hardware β] (d : Device) (b : β) :
    (d.enable b).1.limitSwitch? = d.limitSwitch? := by
  cases d with
  | actuator joint m => exact congrArg some (m.limitSwitch_enable b)
  | boom | imu => rfl

theorem limitSwitch?_estop [Hardware β] (d : Device) (b : β) :
    (d.estop b).1.limitSwitch? = d.limitSwitch? := by
  cases d with
  | actuator joint m => exact congrArg some (m.limitSwitch_estop b)
  | boom | imu => rfl

end Device

/-! ### The tick of the checks -/

namespace Machine

variable {σ : Type} [Plant σ] {m m' : Machine} {data : ProcessData}

/-- What an idle machine can do: wait for a run command, or follow it to one of two ends. -/
inductive FromIdle (m : Machine) (data : ProcessData) (s : σ) : State → σ → Prop
  | waits (command : data.command ≠ some .run) : FromIdle m data s .idle (Plant.releaseLine s)
  | starts (command : data.command = some .run) (clear : findings (checked s) = none) :
      FromIdle m data s .run (Journal.note (.transition .init .run .initComplete)
        (Plant.enableOutputs (checked s)))
  | refuses (command : data.command = some .run) {reason : Reason}
      (found : findings (checked s) = some reason) :
      FromIdle m data s .error (Plant.assertLine (Plant.estop
        (Journal.note (.transition .init .error reason) (checked s))))

theorem Way.of_idle {s s' : σ} (way : Way m data s m' s') (here : m.state = .idle) :
    FromIdle m data s m'.state s' := by
  cases way with
  | waits _ command =>
      rw [state_counted, here]
      exact .waits command
  | starts checking clear =>
      cases checking with
      | commanded _ command =>
          rw [state_moved]
          exact .starts command clear
      | resumed there => simp [here] at there
  | refuses checking found =>
      cases checking with
      | commanded _ command =>
          rw [state_failed]
          exact .refuses command found
      | resumed there => simp [here] at there
  | trips halting | breaks halting | halts halting | givesUp halting =>
      have origin := halting.origin
      simp [here] at origin
  | _ => simp_all

/-- An idle machine that is commanded to run does what its checks say. -/
theorem Way.of_commanded {s s' : σ} (way : Way m data s m' s') (here : m.state = .idle)
    (command : data.command = some .run) :
    (findings (checked s) = none → m'.state = .run ∧
        s' = Journal.note (.transition .init .run .initComplete)
          (Plant.enableOutputs (checked s))) ∧
      ∀ {reason : Reason}, findings (checked s) = some reason → m'.state = .error ∧
        s' = Plant.assertLine (Plant.estop
          (Journal.note (.transition .init .error reason) (checked s))) := by
  have step := way.of_idle here
  generalize m'.state = target at step
  cases step with
  | waits other => exact absurd command other
  | starts _ clear =>
      rw [clear]
      exact ⟨fun _ => ⟨rfl, rfl⟩, nofun⟩
  | refuses _ found =>
      rw [found]
      refine ⟨nofun, ?_⟩
      rintro _ ⟨⟩
      exact ⟨rfl, rfl⟩

/-- A fault that is left after the flags were cleared keeps an idle machine from running, and its
outputs from being energized. -/
theorem Way.refused {s s' : Recorded σ} (way : Way m data s m' s') (idle : m.state = .idle)
    (faulty : Plant.faulty (checked s) = true) :
    m'.state ≠ .run ∧ (.enableOutputs ∈ s'.hooks → .enableOutputs ∈ s.hooks) := by
  have step := way.of_idle idle
  generalize m'.state = target at step
  cases step with
  | waits => simp
  | starts _ clear =>
      have sound := (findings_eq_none.mp clear).2.1
      rw [faulty] at sound
      nomatch sound
  | refuses => simp [checked]

end Machine

/-! ### The cycle of the checks -/

namespace Controller

variable {β : Type} [Board β] {c : Controller β} {edge : Edge}

theorem readied_of_actuator {joint : Joint} {m : Actuator.Monitor}
    (device : c.device = .actuator joint m) (edge : Edge) : (c.readied edge).device =
      .actuator joint (m.observe (m.readings (c.accountEdge edge).board)) := by
  obtain ⟨board, _, _, _, _, _, _, _, _, _⟩ := c
  subst device
  rfl

theorem refused_of_fails (idle : c.machine.state = .idle)
    (fails : c.device.Fails (c.accountEdge edge).board) :
    (c.syncCycle edge).machine.state ≠ .run ∧ .enableOutputs ∉ (c.readied edge).tickHooks := by
  obtain ⟨joint, m, device⟩ : ∃ joint m, c.device = .actuator joint m := by
    generalize c.device = d at fails
    cases fails <;> exact ⟨_, _, rfl⟩
  rw [device] at fails
  let recorded : Recorded (Mounted β) := ⟨(c.readied edge).mounted, []⟩
  have faulty : Plant.faulty (Machine.checked recorded) = true := by
    show (c.readied edge).device.resetError.faulty = true
    rw [readied_of_actuator device]
    exact fails.found
  have way := Machine.tick_way (c.readied edge).machine (c.readied edge).data recorded
  obtain ⟨away, calls⟩ := way.refused idle faulty
  -- Recording the hooks of the tick has not changed where it ends.
  rw [((c.readied edge).machine.tick_recorded (c.readied edge).data recorded).1] at away
  exact ⟨away, fun called => nomatch calls (List.mem_reverse.mp called)⟩

/-- The checks start the debounce of the limit switches again, whatever they find. -/
theorem limitSwitch_of_commanded (idle : c.machine.state = .idle)
    (command : (c.readied edge).data.command = some .run) :
    ∀ d ∈ (c.syncCycle edge).device.limitSwitch?, d.count = 0 := by
  have cleared (device : Device) : ∀ d ∈ device.resetError.limitSwitch?, d.count = 0 := by
    intro d mem
    cases device with
    | actuator joint m =>
        obtain rfl := Option.some.inj mem
        rfl
    | boom | imu => nomatch mem
  have step := (c.readied edge).tick_way.of_idle idle
  show ∀ d ∈ (c.readied edge).tick.mounted.device.limitSwitch?, d.count = 0
  generalize (c.readied edge).tick.mounted = p, (c.readied edge).tick.machine.state = target at step
  cases step with
  | waits other => exact absurd command other
  | starts =>
      show ∀ d ∈ ((c.readied edge).device.resetError.enable _).1.limitSwitch?, d.count = 0
      rw [Device.limitSwitch?_enable]
      exact cleared _
  | refuses =>
      show ∀ d ∈ ((c.readied edge).device.resetError.estop _).1.limitSwitch?, d.count = 0
      rw [Device.limitSwitch?_estop]
      exact cleared _

/-- **No actuator starts on a sample that it failed to take.**

This is so on any board, whatever else the cycle finds.  The debounce of the limit switches is no
part of it, since the checks start it again. -/
theorem pre_run_checks (idle : c.machine.state = .idle)
    (command : (c.readied edge).data.command = some .run) :
    (c.device.Fails (c.accountEdge edge).board →
      (c.syncCycle edge).machine.state ≠ .run ∧ .enableOutputs ∉ (c.readied edge).tickHooks) ∧
    ∀ d ∈ (c.syncCycle edge).device.limitSwitch?, d.count = 0 :=
  ⟨refused_of_fails idle, limitSwitch_of_commanded idle command⟩

end Controller

namespace Simulation.Station

/-- A cycle in `idle`, then the output encoder fails and a run command comes. -/
def blinded : List Move :=
  [.act .step, .poll, .act (.encoderFault .output true), .act (.command State.run.toByte),
    .act .step]

/-- A hip that cannot read its output encoder does not start. -/
theorem pre_run_checks_blinded : ∃ s, Started hipConfig s ∧ (s.moves blinded).state = .idle ∧
    ((s.moves blinded).controller.readied ⟨2, 2000000⟩).data.command = some .run ∧
      (s.moves blinded).controller.device.Fails
        ((s.moves blinded).controller.accountEdge ⟨2, 2000000⟩).board ∧
      ((s.moves blinded).controller.syncCycle ⟨2, 2000000⟩).machine.state ≠ .run ∧
      .enableOutputs ∉ ((s.moves blinded).controller.readied ⟨2, 2000000⟩).tickHooks := by
  have valid : hipConfig.Valid := by decide
  have named : hipConfig.device.id.kind? = some Joint.hip.kind := rfl
  obtain ⟨s, started, idle, command, fault⟩ : ∃ s, Started hipConfig s ∧
      (s.moves blinded).state = .idle ∧
      ((s.moves blinded).controller.readied ⟨2, 2000000⟩).data.command = some .run ∧
      (s.moves blinded).board.encoderFaults.output = true :=
    ⟨_, ⟨1000000, [], rfl⟩, by decide +kernel, by decide +kernel, by decide +kernel⟩
  have fails : (s.moves blinded).controller.device.Fails
      ((s.moves blinded).controller.accountEdge ⟨2, 2000000⟩).board := by
    obtain ⟨m, device⟩ := started.device_moves valid.limits named blinded
    have wiring := (s.moves blinded).controller.wiring_accountEdge ⟨2, 2000000⟩
    have broken := (congrArg (fun b : SimBoard => b.encoderFaults.output) wiring).trans fault
    rw [device]
    refine .outputEncoder (e := .sensorFault "Output encoder timeout") ?_
    rw [Actuator.Monitor.readings, SimBoard.collect_actuator]
    exact if_pos broken
  obtain ⟨refused, -⟩ := Controller.pre_run_checks idle command
  exact ⟨s, started, idle, command, fails, refused fails⟩

/-- A hip with the shortest debounce of its limit switches. -/
def touchyConfig : Config where
  shared := { serviceName := "hip" }
  device := { id := ⟨0x20⟩ }
  limits := { limitSwitchLimit := 1 }

/-- A limit switch is pressed for two cycles in `idle`, and stays pressed under a run command. -/
def pressed : List Move :=
  [.act (.limitSwitches 1), .act .step, .poll, .act .step, .poll,
    .act (.command State.run.toByte), .act .step]

/-- A hip starts although the cycle leaves the debounce of its limit switches over the limit. -/
theorem started_while_pressed : touchyConfig.Valid ∧ ∃ s, Started touchyConfig s ∧
    (s.moves pressed).state = .idle ∧
      ((s.moves pressed).controller.readied ⟨3, 3000000⟩).data.command = some .run ∧
      (∃ d ∈ ((s.moves pressed).controller.readied ⟨3, 3000000⟩).device.limitSwitch?,
        d.tripped = true) ∧
      ((s.moves pressed).controller.syncCycle ⟨3, 3000000⟩).machine.state = .run ∧
      .enableOutputs ∈ ((s.moves pressed).controller.readied ⟨3, 3000000⟩).tickHooks :=
  ⟨by decide, _, ⟨1000000, [], rfl⟩, by decide +kernel, by decide +kernel, by decide +kernel,
    by decide +kernel, by decide +kernel⟩

end Simulation.Station
end FieldbusNode
