/-
What a device samples on a simulated board.

No read of a simulated board disturbs what the next one finds, so the readings of a
cycle are a function of the board, and they depend on its wiring only.  With them
the sampling of each kind of device is one equation.
-/
import FieldbusNode.Device
import FieldbusNode.Proofs.Board
namespace FieldbusNode

open Simulation (SimBoard)

namespace Simulation.SimBoard

/-- What an actuator reads. -/
def actuatorReadings (motorEncoder : Bool) (b : SimBoard) : Actuator.Readings where
  output := b.readEncoder .output
  motor := if motorEncoder then some (b.readEncoder .motor) else none
  thermistors := b.thermistors.map .ok
  motorVoltage := .ok b.motorVoltage
  logicVoltage := .ok b.logicVoltage
  limitSwitches := .ok b.limitSwitches
  amplifierFault := .ok b.amplifierFault

/-- What a boom reads. -/
def boomReadings (b : SimBoard) : BoomReadings where
  pitch := b.readEncoder .boomPitch
  pan := b.readEncoder .boomPan
  tilt := b.readEncoder .boomTilt
  logicVoltage := .ok b.logicVoltage

/-- What an inertial measurement unit reads. -/
def imuReading (b : SimBoard) : Except HardwareError (List UInt8) :=
  .ok (b.imu.outgoing.take Inertial.frameLength)

theorem collect_actuator (motorEncoder : Bool) (b : SimBoard) :
    Actuator.Readings.collect motorEncoder b = (b.actuatorReadings motorEncoder, b) := by
  cases motorEncoder <;> rfl

/-- The board once its inertial sensor was read. -/
def fetched (b : SimBoard) : SimBoard :=
  { b with imu.outgoing := [] }

end Simulation.SimBoard

/-! ### Reports -/

namespace ProcessData

theorem outbound_writeOutbound? {p q : ProcessData} {f : Field} {t : ValueType} {value : Int}
    (h : p.writeOutbound? f t value = .ok q) : ∃ outbound, q = { p with outbound } := by
  unfold writeOutbound? at h
  split at h
  · nomatch h
  · cases written : p.outbound.write? f t value with
    | error trap =>
        rw [written] at h
        nomatch h
    | ok outbound =>
        rw [written] at h
        exact ⟨outbound, (Except.ok.inj h).symm⟩

theorem writeAll?_cons (p : ProcessData) (item : Item) (rest : List Item) :
    p.writeAll? (item :: rest) =
      (p.writeOutbound? item.field item.type item.value).bind (·.writeAll? rest) := rfl

theorem outbound_writeAll? {p q : ProcessData} {items : List Item}
    (h : p.writeAll? items = .ok q) : ∃ outbound, q = { p with outbound } := by
  induction items generalizing p with
  | nil =>
      obtain rfl := Except.ok.inj h
      exact ⟨p.outbound, rfl⟩
  | cons item rest ih =>
      rw [writeAll?_cons] at h
      cases first : p.writeOutbound? item.field item.type item.value with
      | error t =>
          rw [first] at h
          nomatch h
      | ok r =>
          rw [first] at h
          obtain ⟨_, rfl⟩ := outbound_writeOutbound? first
          obtain ⟨outbound, rfl⟩ := ih h
          exact ⟨outbound, rfl⟩

variable {σ : Type} [Journal σ] (p : ProcessData) (items : List Item) (s : σ)

/-- A report touches the outbound record and nothing else of the data. -/
theorem outbound_report :
    (p.report items s).1 = { p with outbound := (p.report items s).1.outbound } := by
  unfold report
  split
  · rename_i q written
    obtain ⟨outbound, rfl⟩ := outbound_writeAll? written
    rfl
  · rfl

/-- What a failed check leaves alone, a report leaves alone. -/
theorem report_leaves {α : Type} {f : σ → α}
    (same : ∀ (t : Trap) (s : σ), f (Journal.trap t s) = f s) : f (p.report items s).2 = f s := by
  unfold report
  split
  · rfl
  · exact same _ s

end ProcessData

namespace Device

variable (sinceEdge : Nat) (data : ProcessData) (b : SimBoard)

theorem updateInputs_actuator (joint : Joint) (m : Actuator.Monitor) :
    (Device.actuator joint m).updateInputs sinceEdge data b =
      (.actuator joint (m.observe (b.actuatorReadings m.motorEncoder)),
        data.report (sampleTelemetry joint (b.actuatorReadings m.motorEncoder).sample
          (timestepOfNanos sinceEdge))
          (Journal.noteAll (m.observeEvents (b.actuatorReadings m.motorEncoder)) b)) := by
  simp only [updateInputs, SimBoard.collect_actuator]

theorem updateInputs_boom (unit : Boom) :
    (Device.boom unit).updateInputs sinceEdge data b =
      (.boom (unit.observe b.boomReadings),
        data.report (Boom.telemetry b.boomReadings (timestepOfNanos sinceEdge))
          (Journal.noteAll (unit.observeEvents b.boomReadings) b)) := rfl

theorem updateInputs_imu (unit : Imu) :
    (Device.imu unit).updateInputs sinceEdge data b =
      (.imu (unit.observe b.imuReading).1,
        data.report ((unit.observe b.imuReading).1.telemetry (unit.observe b.imuReading).2.1)
          (Journal.noteAll (unit.observe b.imuReading).2.2
            (Journal.trapIf (unit.observe b.imuReading).1.gapsOverflow .overflow b.fetched))) := rfl

/-- The device once it has sampled a board. -/
def sampled (b : SimBoard) : Device → Device
  | .actuator joint m => .actuator joint (m.observe (b.actuatorReadings m.motorEncoder))
  | .boom unit => .boom (unit.observe b.boomReadings)
  | .imu unit => .imu (unit.observe b.imuReading).1

theorem device_updateInputs (device : Device) :
    (device.updateInputs sinceEdge data b).1 = device.sampled b := by
  cases device with
  | actuator joint m => rw [updateInputs_actuator, sampled]
  | boom unit => rfl
  | imu unit => rfl

/-- What is sampled depends on the wiring. -/
theorem sampled_of_wiring {b b' : SimBoard} (h : b'.wiring = b.wiring) (device : Device) :
    device.sampled b' = device.sampled b := by
  have erased (b : SimBoard) : device.sampled b.wiring = device.sampled b := by
    cases device <;> rfl
  rw [← erased b', h, erased b]

/-- Sampling reports, and fetches what an inertial sensor has to say. -/
theorem updateInputs_leaves_or {α : Type} {f : SimBoard → α}
    (note : ∀ (e : Event) (b : SimBoard), f (Journal.note e b) = f b)
    (trap : ∀ (t : Trap) (b : SimBoard), f (Journal.trap t b) = f b) (device : Device) :
    f (device.updateInputs sinceEdge data b).2.2 = f b ∨
      f (device.updateInputs sinceEdge data b).2.2 = f b.fetched := by
  have told (items : List ProcessData.Item) (events : List Event) (b : SimBoard) :
      f (data.report items (Journal.noteAll events b)).2 = f b :=
    (data.report_leaves items _ trap).trans (Journal.noteAll_leaves note events b)
  cases device with
  | actuator joint m =>
      rw [updateInputs_actuator]
      exact Or.inl (told _ _ b)
  | boom unit => exact Or.inl (told _ _ b)
  | imu unit => exact Or.inr ((told _ _ _).trans (Journal.trapIf_leaves trap _ _ b.fetched))

/-- What is no matter of reports, failed checks and fetched frames is as it was before. -/
theorem updateInputs_leaves {α : Type} {f : SimBoard → α}
    (note : ∀ (e : Event) (b : SimBoard), f (Journal.note e b) = f b)
    (trap : ∀ (t : Trap) (b : SimBoard), f (Journal.trap t b) = f b)
    (fetch : ∀ b : SimBoard, f b.fetched = f b) (device : Device) :
    f (device.updateInputs sinceEdge data b).2.2 = f b := by
  rcases updateInputs_leaves_or sinceEdge data b note trap device with same | fetched
  · exact same
  · exact fetched.trans (fetch b)

theorem wiring_updateInputs (device : Device) :
    (device.updateInputs sinceEdge data b).2.2.wiring = b.wiring ∨
      (device.updateInputs sinceEdge data b).2.2.wiring = b.fetched.wiring :=
  updateInputs_leaves_or sinceEdge data b (f := SimBoard.wiring) (fun _ _ => rfl)
    (fun _ _ => rfl) device

end Device

/-! ### The layout -/

@[simp] theorem ProcessData.layout_writeHeader (p : ProcessData) (id : Identity) (state : State)
    (counter : UInt8) (flags : Flags) : (p.writeHeader id state counter flags).layout = p.layout :=
  rfl

@[simp] theorem ProcessData.layout_published (p : ProcessData) :
    p.published.layout = p.layout := rfl

@[simp] theorem ProcessData.layout_ingest (p : ProcessData) (received : List UInt8) :
    (p.ingest received).layout = p.layout := rfl

section Telemetry

variable {β : Type} [Hardware β] (device : Device) (sinceEdge : Nat) (data : ProcessData) (b : β)

/-- Sampling writes telemetry, and with it the outbound record and nothing else. -/
theorem Device.outbound_updateInputs : (device.updateInputs sinceEdge data b).2.1 =
    { data with outbound := (device.updateInputs sinceEdge data b).2.1.outbound } := by
  cases device with
  | actuator | boom | imu => exact data.outbound_report _ _

theorem Device.layout_updateInputs :
    (device.updateInputs sinceEdge data b).2.1.layout = data.layout := by
  rw [outbound_updateInputs]

end Telemetry

end FieldbusNode
