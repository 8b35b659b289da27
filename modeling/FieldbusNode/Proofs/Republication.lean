/-
The pipeline of an inertial measurement unit.

A frame that is sent at one sync pulse is read in the cycle behind it and published there, and
the pulse at the end of that cycle sends the next one.  So what the master reads after a number
of cycles is decided by the pulses before the last one (`Pulse.shown`): the frame of the latest of
them if it was accepted, and else what was there before, under the invalid sequence number.

`Controller.Serves` says where a station stands between two moves.  Actions from outside set the
pulse that comes next (`serves_act`), a pass that runs a cycle takes one pulse in and sends
another (`Serves.syncCycle`), and any other pass leaves the pipeline alone.
-/
import FieldbusNode.Proofs.Calm
import FieldbusNode.Proofs.Pulses
import FieldbusNode.Proofs.Readback
namespace FieldbusNode

open ProcessData (Item)
open Simulation (SimBoard Sensor Pulse Rig Action Station Move)
open Inertial (invalidSequence)

/-! ### Telemetry -/

/-- What the telemetry of an inertial measurement unit says. -/
structure Imu.Telemetry where
  sample : Inertial.Sample
  checksum : UInt32
  deriving DecidableEq

/-- The same under another sequence number. -/
def Imu.Telemetry.numbered (t : Telemetry) (sequence : UInt8) : Telemetry :=
  { t with sample.sequence := sequence }

/-- The telemetry that a master reads from the record of an inertial measurement unit. -/
def Record.imuTelemetry (r : Record) : Imu.Telemetry where
  sample :=
    { angleDelta := ImuFields.standard.angleDelta.map fun f => UInt32.ofNat (r.getNat f)
      accel := ImuFields.standard.accel.map fun f => UInt32.ofNat (r.getNat f)
      status := UInt8.ofNat (r.getNat ImuFields.standard.status)
      sequence := UInt8.ofNat (r.getNat ImuFields.standard.sequence)
      temperature := (UInt16.ofNat (r.getNat ImuFields.standard.temperature)).toInt16 }
  checksum := UInt32.ofNat (r.getNat ImuFields.standard.checksum)

/-- The telemetry behind some pulses, the newest first.  A frame that arrived as it was sent shows
with its checksum; in place of one that did not the telemetry before shows, without a valid
sequence number. -/
def Simulation.Pulse.shown : List Pulse → Imu.Telemetry
  | [] => ⟨{ Inertial.Sample.zero with sequence := invalidSequence }, 0⟩
  | p :: earlier =>
    if p.perturbed then (shown earlier).numbered invalidSequence
    else ⟨p.frame earlier, Inertial.checksum (p.frame earlier).body⟩

/-- A frame that arrived as it was sent shows a valid sequence number, and no other does. -/
theorem Simulation.Pulse.invalid_iff (p : Pulse) (earlier : List Pulse) :
    (shown (p :: earlier)).sample.sequence = invalidSequence ↔ p.perturbed = true := by
  cases perturbed : p.perturbed with
  | true =>
      have hidden : shown (p :: earlier) = (shown earlier).numbered invalidSequence :=
        if_pos perturbed
      rw [hidden]
      exact iff_of_true rfl rfl
  | false =>
      have told : shown (p :: earlier) =
          ⟨p.frame earlier, Inertial.checksum (p.frame earlier).body⟩ :=
        if_neg (by simp [perturbed])
      rw [told]
      refine iff_of_false (fun same => ?_) Bool.false_ne_true
      have number := congrArg UInt8.toNat same
      have small := Nat.mod_lt (earlier.length + ((p :: earlier).map skip).sum) (y := 128)
        (by decide)
      rw [frame, UInt8.toNat_ofNat_of_lt' (Nat.lt_trans small (by decide))] at number
      exact absurd number (Nat.ne_of_lt (Nat.lt_trans small (by decide)))

namespace Imu

variable (unit : Imu)

/-- The last accepted frame, and how many were rejected. -/
def account : Telemetry × Nat :=
  (⟨unit.lastGood, unit.lastChecksum⟩, unit.framesRejected)

/-- What is reported in each field. -/
def values (sequence : UInt8) : List (Field × Nat) :=
  let s := unit.lastGood
  Kind.imu.fields.zip
    [s.angleDelta.first.toNat, s.angleDelta.second.toNat, s.angleDelta.third.toNat,
      s.accel.first.toNat, s.accel.second.toNat, s.accel.third.toNat, s.status.toNat,
      sequence.toNat, s.temperature.toUInt16.toNat, unit.lastChecksum.toNat]

/-- This is what the telemetry leaves in the fields. -/
theorem written_telemetry (sequence : UInt8) :
    (unit.telemetry sequence).map Item.written = unit.values sequence := by
  have word (f : Field) (w : UInt32) : Item.written ⟨f, .u32, w.toNat⟩ = (f, w.toNat) :=
    Item.written_of_lt w.toNat_lt
  have byte (f : Field) (w : UInt8) : Item.written ⟨f, .u8, w.toNat⟩ = (f, w.toNat) :=
    Item.written_of_lt w.toNat_lt
  -- A negative temperature is written as the two's complement it is held in.
  have half (f : Field) (w : Int16) :
      Item.written ⟨f, .i16, w.toInt⟩ = (f, w.toUInt16.toNat) := by
    have signed : w.toInt = Int.bmod w.toUInt16.toNat (2 ^ 16) := w.toBitVec.toInt_eq_toNat_bmod
    have modulus : (ValueType.i16.modulus : Int) = ((2 ^ 16 : Nat) : Int) := rfl
    have small := w.toUInt16.toNat_lt
    have wraps : (w.toInt % (ValueType.i16.modulus : Int)).toNat = w.toUInt16.toNat := by
      rw [signed, modulus, Int.bmod_emod]
      omega
    exact congrArg (Prod.mk f) wraps
  simp only [telemetry, values, Triple.toList, List.zip_cons_cons, List.zip_nil_right,
    List.map_cons, List.map_nil, List.cons_append, List.nil_append, word, byte, half]
  rfl

theorem fields_of_values (sequence : UInt8) :
    (unit.values sequence).map Prod.fst = Kind.imu.fields := rfl

variable {unit} {sequence : UInt8}

/-- Every number fits its field. -/
theorem lt_of_mem_values {v : Field × Nat} (mem : v ∈ unit.values sequence) :
    v.2 < Bytes.modulus v.1.width := by
  have word (w : UInt32) : w.toNat < Bytes.modulus 4 := w.toNat_lt
  have half (w : UInt16) : w.toNat < Bytes.modulus 2 := w.toNat_lt
  have byte (w : UInt8) : w.toNat < Bytes.modulus 1 := w.toNat_lt
  have all : ∀ v ∈ unit.values sequence, v.2 < Bytes.modulus v.1.width := by
    simp only [values, ImuFields.toList, Kind.fields, Triple.toList, List.cons_append,
      List.nil_append, List.zip_cons_cons, List.zip_nil_right, List.forall_mem_cons]
    exact ⟨word _, word _, word _, word _, word _, word _, byte _, byte _, half _, word _,
      List.forall_mem_nil _⟩
  exact all v mem

/-- **The master reads the last accepted frame, under the sequence number of the cycle.** -/
theorem telemetry_of_report (data : ProcessData) {r : Record}
    (read : ∀ f ∈ Kind.imu.fields, r.getNat f =
      (data.fill ((unit.telemetry sequence).map Item.written)).outbound.getNat f) :
    r.imuTelemetry = unit.account.1.numbered sequence := by
  have shown : ∀ v ∈ unit.values sequence, r.getNat v.1 = v.2 := by
    intro v mem
    have apart := Kind.fields_apart .imu
    have fits : ∀ f ∈ Kind.imu.fields, f.stop ≤ recordCapacity := by decide
    rw [← unit.fields_of_values sequence] at apart fits
    rw [read v.1 (List.of_mem_zip mem).1, written_telemetry]
    exact (data.outbound.getNat_fill apart fits mem).trans (Nat.mod_eq_of_lt (lt_of_mem_values mem))
  simp only [values, ImuFields.toList, Kind.fields, Triple.toList, List.cons_append,
    List.nil_append, List.zip_cons_cons, List.zip_nil_right, List.forall_mem_cons] at shown
  obtain ⟨turnX, turnY, turnZ, pushX, pushY, pushZ, status, number, temperature, checksum, -⟩ :=
    shown
  simp only [Record.imuTelemetry, Triple.map, turnX, turnY, turnZ, pushX, pushY, pushZ, status,
    number, temperature, checksum, UInt32.ofNat_toNat, UInt8.ofNat_toNat, UInt16.ofNat_toNat,
    Int16.toInt16_toUInt16]
  rfl

/-! ### One reading -/

/-- What is received is decoded without what earlier frames left in the buffer. -/
theorem take_store (unit : Imu) (bytes : List UInt8) :
    (unit.store bytes).buffer.take bytes.length = bytes :=
  List.take_left' rfl

theorem observe_accepted (unit : Imu) {bytes : List UInt8}
    (whole : bytes.length ≤ Inertial.frameLength) {s : Inertial.Sample}
    (accepted : Inertial.Sample.decode bytes = .ok s) :
    (unit.observe (.ok bytes)).1.account =
        (⟨s, Inertial.checksum (bytes.take Inertial.checksumSpan)⟩, unit.account.2) ∧
      (unit.observe (.ok bytes)).2.1 = s.sequence := by
  unfold observe
  simp only [List.take_of_length_le whole, take_store, accepted]
  exact ⟨rfl, trivial⟩

theorem observe_rejected (unit : Imu) {bytes : List UInt8}
    (whole : bytes.length ≤ Inertial.frameLength) {e : Inertial.FrameError}
    (rejected : Inertial.Sample.decode bytes = .error e) :
    (unit.observe (.ok bytes)).1.account = (unit.account.1, unit.account.2 + 1) ∧
      (unit.observe (.ok bytes)).2.1 = invalidSequence := by
  unfold observe
  simp only [List.take_of_length_le whole, take_store, rejected]
  exact ⟨rfl, trivial⟩

/-- The frames of some pulses were taken in.  Behind a rejected one the sequence number alone is
not that of the last accepted one. -/
structure Took (account : Telemetry × Nat) (sent : List Pulse) : Prop where
  last : account.1.numbered invalidSequence = (Pulse.shown sent).numbered invalidSequence
  rejected : account.2 = sent.countP Pulse.perturbed

/-- **One frame more.**  What is reported behind it is what the pulses so far show. -/
theorem Took.observe {sent : List Pulse} (took : Took unit.account sent) {p : Pulse}
    {bytes : List UInt8} (received : bytes = Sensor.disturb p.fault (p.frame sent).encode) :
    Took (unit.observe (.ok bytes)).1.account (p :: sent) ∧
      (unit.observe (.ok bytes)).1.account.1.numbered (unit.observe (.ok bytes)).2.1 =
        Pulse.shown (p :: sent) := by
  have whole : bytes.length ≤ Inertial.frameLength := by
    rw [received]
    exact Pulse.length_disturb_le _ _
  obtain ⟨last, rejected⟩ := took
  cases perturbed : p.perturbed with
  | true =>
      obtain ⟨e, refused⟩ := Pulse.decode_disturbed perturbed (p.frame sent)
      rw [← received] at refused
      obtain ⟨account, number⟩ := unit.observe_rejected whole refused
      have shown : Pulse.shown (p :: sent) = (Pulse.shown sent).numbered invalidSequence :=
        if_pos perturbed
      refine ⟨⟨?_, ?_⟩, ?_⟩
      · rw [account, shown, last]
        rfl
      · rw [account, rejected, List.countP_cons_of_pos perturbed]
      · rw [account, number, shown, last]
  | false =>
      rw [Pulse.disturb_of_intact perturbed] at received
      have accepted : Inertial.Sample.decode bytes = .ok (p.frame sent) := by
        rw [received, Inertial.Sample.decode_encode]
      have covered : bytes.take Inertial.checksumSpan = (p.frame sent).body := by
        rw [received]
        exact List.take_left' (p.frame sent).length_body
      obtain ⟨account, number⟩ := unit.observe_accepted whole accepted
      rw [covered] at account
      have shown : Pulse.shown (p :: sent) =
          ⟨p.frame sent, Inertial.checksum (p.frame sent).body⟩ :=
        if_neg (by simp [perturbed])
      refine ⟨⟨?_, ?_⟩, ?_⟩
      · rw [account, shown]
      · rw [account, rejected, List.countP_cons_of_neg (by simp [perturbed])]
      · rw [account, number, shown]
        rfl

end Imu

/-! ### The device in a tick -/

/-- The last accepted frame of an inertial measurement unit, and how many were rejected. -/
def Device.account? : Device → Option (Imu.Telemetry × Nat)
  | .imu unit => some unit.account
  | _ => none

/-- No hook touches the last accepted frame, and none rejects one. -/
theorem Mounted.account_keeps (account : Option (Imu.Telemetry × Nat)) :
    Plant.Keeps fun p : Mounted SimBoard => p.device.account? = account :=
  device_keeps (P := fun d => d.account? = account) (fun _ h => h) (fun _ h => h) fun _ _ h => h

theorem Device.eq_of_account? {d : Device} {account : Imu.Telemetry × Nat}
    (h : d.account? = some account) : ∃ unit, d = .imu unit ∧ unit.account = account := by
  cases d with
  | actuator | boom => nomatch h
  | imu unit => exact ⟨unit, rfl, Option.some.inj h⟩

/-! ### A pass -/

namespace Controller

variable {c c' : Controller SimBoard} {sent : List Pulse} {last next : Pulse}

/-- A controller that has read the frames of some pulses, with the frame of a last one in front of
it and another pulse to come. -/
structure Serves (sent : List Pulse) (last next : Pulse) (c : Controller SimBoard) : Prop where
  layout : c.data.layout = Kind.imu.layout
  account : ∃ account, c.device.account? = some account ∧ Imu.Took account sent
  next : c.board.imu.upcoming = next
  counted : c.board.imu.nextSequence = UInt8.ofNat (Pulse.count (last :: sent) % 128)
  outgoing : c.board.imu.outgoing = Sensor.disturb last.fault (last.frame sent).encode
  published : c.board.tx.imuTelemetry = Pulse.shown sent

/-- The pipeline is in the account of the device, in the sensor and in the published record. -/
theorem Serves.congr (h : c.Serves sent last next) (layout : c'.data.layout = c.data.layout)
    (account : c'.device.account? = c.device.account?) (imu : c'.board.imu = c.board.imu)
    (tx : c'.board.tx = c.board.tx) : c'.Serves sent last next := by
  refine ⟨layout.trans h.layout, ?_, ?_, ?_, ?_, ?_⟩
  · rw [account]
    exact h.account
  · rw [imu]
    exact h.next
  · rw [imu]
    exact h.counted
  · rw [imu]
    exact h.outgoing
  · rw [tx]
    exact h.published

theorem Serves.of_wiring (h : c.Serves sent last next) (layout : c'.data.layout = c.data.layout)
    (device : c'.device = c.device) (wiring : c'.board.wiring = c.board.wiring) :
    c'.Serves sent last next :=
  h.congr layout (congrArg Device.account? device) (SimBoard.imu_of_wiring wiring)
    (congrArg Prod.fst (SimBoard.published_of_wiring wiring))

theorem Serves.feed (h : c.Serves sent last next) (edgeSeen : Bool) :
    (c.feed edgeSeen).Serves sent last next := by
  unfold Controller.feed
  split
  · exact h.of_wiring rfl rfl (SimBoard.wiring_feed c.board)
  · exact h

theorem Serves.expire (h : c.Serves sent last next) : c.expire.2.Serves sent last next := by
  have account := (Mounted.account_keeps c.device.account?).estop c.mounted rfl
  have imu := (Mounted.imu_keeps c.board.imu).estop c.mounted rfl
  exact h.congr rfl account imu (congrArg Prod.fst c.published_expire)

/-- **A cycle takes in the frame of one pulse and sends that of the next.** -/
theorem Serves.syncCycle (h : c.Serves sent last next) (edge : Edge) :
    (c.syncCycle edge).Serves (last :: sent) next next.following := by
  obtain ⟨layout, ⟨_, made, took⟩, rfl, counted, outgoing, -⟩ := h
  obtain ⟨unit, device, rfl⟩ := Device.eq_of_account? made
  have whole : c.board.imu.outgoing.length ≤ Inertial.frameLength := by
    rw [outgoing]
    exact Pulse.length_disturb_le _ _
  have reading {b : SimBoard} (imu : b.imu = c.board.imu) :
      b.imuReading = .ok c.board.imu.outgoing := by
    rw [SimBoard.imuReading, imu, List.take_of_length_le whole]
  obtain ⟨took, shown⟩ := took.observe outgoing
  have account : (c.syncCycle edge).device.account? =
      some (unit.observe (.ok c.board.imu.outgoing)).1.account := by
    have sampled : (c.readied edge).device = .imu (unit.observe (.ok c.board.imu.outgoing)).1 := by
      rw [device_readied, device, Device.sampled, reading rfl]
    have ticked := (c.readied edge).tick_way.keeps (Mounted.account_keeps _)
      (congrArg Device.account? sampled)
    exact ticked
  have imu : (c.syncCycle edge).board.imu = c.board.imu.pulse := by
    have asked : (c.readied edge).board.imu = c.board.imu.pulse := imu_readied device edge
    rw [imu_syncCycle]
    exact asked
  rw [Sensor.pulse_eq counted] at imu
  have reported : (c.inputsSampled edge).data =
      c.data.fill (((unit.observe (.ok c.board.imu.outgoing)).1.telemetry
        (unit.observe (.ok c.board.imu.outgoing)).2.1).map Item.written) := by
    have accounted := reading (SimBoard.imu_of_wiring (c.wiring_accountEdge edge))
    have own : c.data.layout = c.device.kind.layout := by
      rw [device]
      exact layout
    have written := Device.data_updateInputs own (Board.sinceEdge (c.accountEdge edge).board)
      (c.accountEdge edge).board
    refine written.trans ?_
    rw [device, Device.reports, accounted]
  refine ⟨(c.layout_syncCycle edge).trans layout, ⟨_, account, took⟩, ?_, ?_, ?_, ?_⟩
  · rw [imu]
    rfl
  · rw [imu]
  · rw [imu]
    rfl
  · rw [← shown]
    refine Imu.telemetry_of_report c.data fun f mem => ?_
    rw [getNat_syncCycle layout edge mem, reported]

/-- A pass serves the next pulse if it runs a cycle, and else leaves the pipeline alone. -/
theorem Serves.poll (h : c.Serves sent last next) :
    if c.cycle?.isSome then c.poll.2.Serves (last :: sent) next next.following
    else c.poll.2.Serves sent last next := by
  have pass := c.poll_pass
  have layout := pass.layout
  generalize c.poll.1 = outcome, c.poll.2 = c' at pass layout
  cases pass with
  | syncs alive cycle =>
      rw [cycle]
      obtain ⟨rest, -, -, rfl⟩ := eq_of_cycle? cycle
      refine Serves.syncCycle ?_ _
      exact h.of_wiring rfl rfl (SimBoard.wiring_latchWatchdog c.board)
  | expires expired =>
      have none : c.cycle? = none := by simp [cycle?, expired]
      rw [none]
      refine Serves.expire ?_
      exact h.of_wiring rfl rfl (SimBoard.wiring_latchWatchdog c.board)
  | waits alive quiet =>
      have none : c.cycle? = none := Option.map_eq_none_iff.mp (told?_of_waiting alive quiet)
      rw [none]
      have waited := (SimBoard.wiring_awaitEdge c.board.latchWatchdog c.idlePoll).trans
        (SimBoard.wiring_latchWatchdog c.board)
      refine Serves.feed ?_ false
      exact h.of_wiring rfl rfl waited

end Controller

/-! ### Runs -/

namespace Simulation

/-- An action sets the pulse that comes next. -/
theorem Sensor.upcoming_act (s : Sensor) (action : Action) :
    (s.act action).upcoming = s.upcoming.act action := by
  cases action <;> rfl

theorem Sensor.nextSequence_act (s : Sensor) (action : Action) :
    (s.act action).nextSequence = s.nextSequence := by
  cases action <;> rfl

theorem Rig.imu_run (rig : Rig) (schedule : List Action) :
    (rig.run schedule).board.imu.upcoming = schedule.foldl Pulse.act rig.board.imu.upcoming ∧
      (rig.run schedule).board.imu.nextSequence = rig.board.imu.nextSequence := by
  induction schedule generalizing rig with
  | nil => exact ⟨rfl, rfl⟩
  | cons action rest ih =>
      obtain ⟨upcoming, counted⟩ := ih (rig.act action)
      rw [imu_act, Sensor.upcoming_act] at upcoming
      rw [imu_act, Sensor.nextSequence_act] at counted
      exact ⟨upcoming, counted⟩

namespace Station

/-- The pulses of a run, the newest first: those before it, and one for every cycle.  The one that
comes next is what the actions before it have made of it. -/
def pulses (s : Station) (sent : List Pulse) (next : Pulse) : List Move → List Pulse
  | [] => sent
  | .act action :: rest => (s.act action).pulses sent (next.act action) rest
  | .poll :: rest =>
    if s.controller.cycle?.isSome then s.poll.2.pulses (next :: sent) next.following rest
    else s.poll.2.pulses sent next rest

variable {s : Station} {sent : List Pulse} {last next : Pulse}

theorem serves_act (h : s.controller.Serves sent last next) (action : Action) :
    (s.act action).controller.Serves sent last (next.act action) := by
  obtain ⟨layout, account, rfl, counted, outgoing, published⟩ := h
  have imu := Rig.imu_act ⟨s.board, s.master⟩ action
  refine ⟨layout, account, ?_, ?_, ?_, ?_⟩
  · exact (congrArg Sensor.upcoming imu).trans (s.board.imu.upcoming_act action)
  · exact ((congrArg Sensor.nextSequence imu).trans (s.board.imu.nextSequence_act action)).trans
      counted
  · exact ((congrArg Sensor.outgoing imu).trans (s.board.imu.outgoing_act action)).trans outgoing
  · exact (congrArg Record.imuTelemetry (s.tx_act action)).trans published

/-- **A station keeps serving the pulses of its run.** -/
theorem serves_moves (h : s.controller.Serves sent last next) (run : List Move) :
    ∃ sent' last' next', s.pulses (last :: sent) next run = last' :: sent' ∧
      sent'.length = sent.length + (s.chronicle run).length ∧
      (s.moves run).controller.Serves sent' last' next' := by
  induction run generalizing s sent last next with
  | nil => exact ⟨sent, last, next, rfl, rfl, h⟩
  | cons move rest ih =>
      cases move with
      | act action => exact ih (serves_act h action)
      | poll =>
          have polled := h.poll
          cases cycle : s.controller.cycle? with
          | none =>
              rw [cycle] at polled
              have told : s.controller.told? = none := by rw [Controller.told?, cycle]; rfl
              rw [pulses, cycle, chronicle, told]
              exact ih polled
          | some found =>
              rw [cycle] at polled
              obtain ⟨sent', last', next', pulses_eq, count, serves⟩ := ih (s := s.poll.2) polled
              refine ⟨sent', last', next', ?_, ?_, serves⟩
              · rw [pulses, cycle]
                exact pulses_eq
              · rw [count, chronicle, Controller.told?, cycle, List.length_cons, Nat.add_right_comm,
                  Nat.add_assoc]
                rfl

/-- A unit that has just started has sent its first pulse and read nothing. -/
theorem serves_of_start {config : Config} {period : Nat} {before : List Action}
    (named : config.device.id.kind? = some .imu)
    (started : start config ((Rig.fresh config.safety period).run before) = .ok s) :
    s.controller.Serves [] (before.foldl Pulse.act .fresh)
      (before.foldl Pulse.act .fresh).following := by
  obtain ⟨_, found, -⟩ := controller_of_start started
  obtain ⟨kind, data, board, named', setUp, made⟩ := Controller.eq_of_start found
  obtain rfl : kind = .imu := Option.some.inj (named'.symm.trans named)
  have layout : data.layout = Kind.imu.layout := Device.layout_setUp setUp
  obtain ⟨upcoming, counted⟩ := Rig.imu_run (.fresh config.safety period) before
  generalize ((Rig.fresh config.safety period).run before).board = b at *
  rw [Device.setUp_eq rfl] at setUp
  obtain ⟨reported, asked⟩ := Prod.mk.inj setUp
  have none : b.imu.nextSequence = UInt8.ofNat (Pulse.count [] % 128) := counted
  have pulsed := Sensor.pulse_eq none
  have imu : board.imu = b.imu.pulse := congrArg SimBoard.imu asked.symm
  rw [pulsed] at imu
  have first : before.foldl Pulse.act .fresh = b.imu.upcoming := upcoming.symm
  rw [made, first]
  refine ⟨(Controller.layout_assembled ..).trans layout, ⟨_, rfl, rfl, rfl⟩, ?_, ?_, ?_, ?_⟩
  · exact congrArg Sensor.upcoming imu
  · exact congrArg Sensor.nextSequence imu
  · exact congrArg Sensor.outgoing imu
  · show _ = Imu.fresh.account.1.numbered invalidSequence
    refine Imu.telemetry_of_report (.ofLayout Kind.imu.layout) fun f mem => ?_
    rw [Controller.getNat_assembled layout _ mem]
    exact congrArg (·.outbound.getNat f) (Except.ok.inj reported).symm

/-- **The telemetry of an inertial measurement unit is decided by the pulses before the last.**
After every run, as many frames were read as cycles were run.  The record shows the latest of them
if it arrived as it was sent, and else what it showed before, under the invalid sequence number;
only then does it show that number.  As many frames were rejected as were disturbed. -/
theorem telemetry_follows_pulses {config : Config} {period : Nat} {before : List Action}
    (named : config.device.id.kind? = some .imu)
    (started : start config ((Rig.fresh config.safety period).run before) = .ok s)
    (run : List Move) :
    let first := before.foldl Pulse.act .fresh
    ∃ last sent unit, s.pulses [first] first.following run = last :: sent ∧
      sent.length = (s.chronicle run).length ∧
      (s.moves run).controller.device = .imu unit ∧
      unit.framesRejected = sent.countP Pulse.perturbed ∧
      (s.moves run).board.tx.imuTelemetry = Pulse.shown sent ∧
      ∀ p earlier, sent = p :: earlier →
        ((s.moves run).board.tx.imuTelemetry.sample.sequence = invalidSequence ↔
          p.perturbed = true) := by
  obtain ⟨sent, last, next, pulses, count, serves⟩ :=
    serves_moves (serves_of_start named started) run
  obtain ⟨_, made, took⟩ := serves.account
  obtain ⟨unit, device, rfl⟩ := Device.eq_of_account? made
  refine ⟨last, sent, unit, pulses, count.trans (Nat.zero_add _), device, took.rejected,
    serves.published, ?_⟩
  rintro p earlier rfl
  rw [show (s.moves run).board.tx.imuTelemetry = _ from serves.published]
  exact Pulse.invalid_iff p earlier

/-- New readings. -/
def turned : Inertial.Sample := ⟨⟨1, 2, 3⟩, ⟨4, 5, 6⟩, 7, 0, -8⟩

/-- They are set behind the first cycle, and the frame that says so comes five numbers on. -/
def turning : List Move :=
  [.act .step, .poll, .act (.imuSample turned), .act (.imuDisturb (.skipSequence 5)), .act .step,
    .poll, .act .step, .poll]

/-- The first frame is disturbed and rejected, the second arrives, and the third is the one with the
new readings. -/
theorem telemetry_follows_pulses_turning :
    ∃ s unit, start { legConfig with device := { id := ⟨0x40⟩ } }
        ((Rig.fresh legConfig.safety 1000000).run [.imuDisturb .flipBit]) = .ok s ∧
      (s.moves (turning.take 2)).board.tx.imuTelemetry.sample.sequence = invalidSequence ∧
      (s.moves (turning.take 6)).board.tx.imuTelemetry.sample.sequence = 1 ∧
      (s.moves turning).board.tx.imuTelemetry.sample = { turned with sequence := 7 } ∧
      (s.moves turning).controller.device = .imu unit ∧ unit.framesRejected = 1 := by
  have named : { legConfig with device := { id := ⟨0x40⟩ } : Config }.device.id.kind? = some .imu :=
    rfl
  obtain ⟨s, started, one, two, three⟩ :
      ∃ s, start { legConfig with device := { id := ⟨0x40⟩ } }
          ((Rig.fresh legConfig.safety 1000000).run [.imuDisturb .flipBit]) = .ok s ∧
        s.pulses [⟨.zero, .flipBit⟩] ⟨.zero, .none⟩ (turning.take 2) =
          [⟨.zero, .none⟩, ⟨.zero, .flipBit⟩] ∧
        s.pulses [⟨.zero, .flipBit⟩] ⟨.zero, .none⟩ (turning.take 6) =
          [⟨turned, .skipSequence 5⟩, ⟨.zero, .none⟩, ⟨.zero, .flipBit⟩] ∧
        s.pulses [⟨.zero, .flipBit⟩] ⟨.zero, .none⟩ turning =
          [⟨turned, .none⟩, ⟨turned, .skipSequence 5⟩, ⟨.zero, .none⟩, ⟨.zero, .flipBit⟩] := by
    refine ⟨_, rfl, ?_, ?_, ?_⟩ <;> decide +kernel
  have law := telemetry_follows_pulses named started
  obtain ⟨_, _, _, sent, -, -, -, first, -⟩ := law (turning.take 2)
  obtain ⟨-, rfl⟩ := List.cons.inj (one.symm.trans sent)
  obtain ⟨_, _, _, sent, -, -, -, second, -⟩ := law (turning.take 6)
  obtain ⟨-, rfl⟩ := List.cons.inj (two.symm.trans sent)
  obtain ⟨_, _, unit, sent, -, device, rejected, third, -⟩ := law turning
  obtain ⟨-, rfl⟩ := List.cons.inj (three.symm.trans sent)
  refine ⟨s, unit, started, ?_, ?_, ?_, device, rejected⟩
  · rw [first]
    rfl
  · rw [second]
    rfl
  · rw [third]
    rfl

end Station
end Simulation
end FieldbusNode
