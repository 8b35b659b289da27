/-
Skipped frames without end.

A sensor counts its frames to 127 and begins again, so one that jumps ahead by 127 in front of
every frame sends the same number all the time.  Its unit takes every one of them for the first
frame behind 127 lost ones.  No frame can show more than that (`Imu.skipped_le`), but nothing
ever takes it back either: lap after lap the unit counts 127 frames (`Station.sequenceGaps_laps`).

Nothing else happens in these laps.  The node is served and idle, so its watchdog is fed, and time
goes on by one cycle time a lap.
-/
import FieldbusNode.Proofs.Durations
import FieldbusNode.Proofs.SequenceNumbers
import FieldbusNode.Proofs.Uptime
namespace FieldbusNode

open Simulation (SimBoard Rig Action Station Move)

/-! ### One frame -/

/-- The last frame that was sent carries the number zero. -/
structure Simulation.Sensor.Lapped (s : Sensor) : Prop where
  next : s.nextSequence = 1
  sent : ∃ sample : Inertial.Sample, sample.sequence = 0 ∧ s.outgoing = sample.encode

/-- Behind zero, a jump ahead by 127 leads to zero again. -/
theorem Simulation.Sensor.Lapped.pulse {s : Sensor} (h : s.Lapped) :
    Lapped (Sensor.pulse { s with pending := .skipSequence 127 }) := by
  have back : (s.nextSequence + 127) &&& 0x7F = 0 := by
    rw [h.next]
    rfl
  refine ⟨?_, { s.sample with sequence := 0 }, rfl, ?_⟩
  · show ((s.nextSequence + 127) &&& 0x7F) + 1 &&& 0x7F = 1
    rw [back]
    rfl
  · show Inertial.Sample.encode { s.sample with sequence := (s.nextSequence + 127) &&& 0x7F } = _
    rw [back]

namespace Imu

/-- A frame as a sensor encodes it is accepted with its number. -/
theorem tracking_observe_encode (unit : Imu) (s : Inertial.Sample) :
    (unit.observe (.ok s.encode)).1.tracking = unit.tracking.take s.sequence := by
  have whole (bytes : List UInt8) (read : (.ok s.encode : Except HardwareError _) = .ok bytes) :
      bytes.length ≤ Inertial.frameLength := by
    obtain rfl := Except.ok.inj read
    exact Nat.le_of_eq s.length_encode
  rw [unit.tracking_observe whole]
  simp only [Deed.track, Deed.accepted?, s.decode_encode]
  rfl

/-- What a unit keeps of the numbers after so many zeros. -/
def Tracking.ofZeros : Nat → Tracking
  | 0 => ⟨none, 0⟩
  | n + 1 => ⟨some 1, 127 * n⟩

theorem Tracking.take_ofZeros (n : Nat) : (ofZeros n).take 0 = ofZeros (n + 1) := by
  cases n <;> rfl

theorem Tracking.gaps_ofZeros (n : Nat) : (ofZeros n).gaps = 127 * (n - 1) := by
  cases n <;> rfl

end Imu

/-- A cycle of an idle unit without a run command reads the sensor and asks it again. -/
theorem Controller.syncCycle_of_waiting {c : Controller SimBoard} {unit : Imu}
    (layout : c.data.layout.Valid) (device : c.device = .imu unit) (idle : c.machine.state = .idle)
    (command : c.board.rx.command ≠ some .run) (edge : Edge) :
    (c.syncCycle edge).machine.state = .idle ∧
      (c.syncCycle edge).device = .imu (unit.observe c.board.imuReading).1 ∧
      (c.syncCycle edge).board.imu = c.board.imu.pulse := by
  have here : (c.readied edge).machine.state = .idle := (c.quiet_readied edge).state.trans idle
  have waiting : (c.readied edge).data.command ≠ some .run := by
    rw [command_readied layout]
    exact command
  have read : (c.readied edge).device = .imu (unit.observe c.board.imuReading).1 := by
    rw [device_readied, device]
    rfl
  obtain ⟨stays, released⟩ : (c.readied edge).tick.machine.state = .idle ∧
      (c.readied edge).tick.mounted = Plant.releaseLine (c.readied edge).mounted := by
    have way := (c.readied edge).tick_way.of_idle here
    generalize (c.readied edge).tick.machine.state = state,
      (c.readied edge).tick.mounted = behind at way
    cases way with
    | waits => exact ⟨rfl, rfl⟩
    | starts ordered | refuses ordered => exact absurd ordered waiting
  refine ⟨stays, ?_, ?_⟩
  · have kept : (c.readied edge).tick.device = (c.readied edge).device :=
      congrArg Mounted.device released
    exact kept.trans read
  · rw [imu_syncCycle, imu_readied device]

/-- So does a pass that serves an edge. -/
theorem Controller.poll_of_waiting {c : Controller SimBoard} {unit : Imu}
    (layout : c.data.layout.Valid) (device : c.device = .imu unit) (idle : c.machine.state = .idle)
    (command : c.board.rx.command ≠ some .run) (alive : c.board.Alive) {edge : Edge}
    {rest : List Edge} (queue : c.board.edges = edge :: rest) :
    c.poll.2.machine.state = .idle ∧
      c.poll.2.device = .imu (unit.observe c.board.imuReading).1 ∧
      c.poll.2.board.imu = c.board.imu.pulse := by
  rw [poll_of_edge alive queue]
  exact syncCycle_of_waiting (c := { c with board := { c.board with edges := rest } }) layout device
    idle command edge

/-! ### One lap -/

namespace Simulation.Station

variable {config : Config} {n : Nat} {s : Station}

/-- A step of the master and the pass that serves it, as an idle unit without orders sees them. -/
theorem Rested.served_of_waiting (h : Rested config s) (valid : config.Valid)
    (idle : s.state = .idle) (command : s.master.command = State.idle.toByte)
    (layout : s.controller.data.layout.Valid) {unit : Imu}
    (device : s.controller.device = .imu unit) :
    (s.act .step).poll.2.state = .idle ∧
      (s.act .step).poll.2.controller.device = .imu (unit.observe s.board.imuReading).1 ∧
      (s.act .step).poll.2.board.imu = s.board.imu.pulse ∧
      (s.act .step).poll.2.board.now = s.board.now + s.master.period := by
  obtain ⟨alive, edge, queue⟩ := h.step valid
  obtain ⟨_, backlog⟩ := h.stepped
  have imu : (s.act .step).board.imu = s.board.imu := Rig.imu_act ⟨s.board, s.master⟩ .step
  have unordered : (s.act .step).board.rx.command ≠ some .run := by
    have inbound : (s.act .step).board.rx = s.master.prepared.rx :=
      congrArg Backlog.inbound backlog
    rw [inbound, s.master.command_prepared, command, State.ofByte?_toByte]
    nofun
  obtain ⟨stays, read, asked⟩ := Controller.poll_of_waiting (c := (s.act .step).controller)
    layout device idle unordered alive queue
  obtain ⟨timing, -⟩ := Controller.timing_of_edge alive queue
  have reading : (s.act .step).board.imuReading = s.board.imuReading := by
    unfold SimBoard.imuReading
    rw [imu]
  have read : (s.act .step).poll.2.controller.device =
      .imu (unit.observe (s.act .step).board.imuReading).1 := read
  rw [reading] at read
  refine ⟨stays, read, asked.trans (congrArg Sensor.pulse imu), ?_⟩
  have passed := Rig.timing_step ⟨s.board, s.master⟩
  exact (congrArg Timing.now timing).trans (congrArg Timing.now passed)

/-- The sensor skips 127 frames before the next, and a cycle reads the one it has sent. -/
def lap : List Move :=
  [.act (.imuDisturb (.skipSequence 127)), .act .step, .poll]

/-- So many laps. -/
def laps (n : Nat) : List Move :=
  (List.replicate n lap).flatten

/-- An idle unit without orders after so many laps. -/
structure Lapped (config : Config) (n : Nat) (s : Station) : Prop where
  rested : Rested config s
  idle : s.state = .idle
  command : s.master.command = State.idle.toByte
  layout : s.controller.data.layout.Valid
  device : ∃ unit, s.controller.device = .imu unit ∧ unit.tracking = .ofZeros n
  sensor : s.board.imu.Lapped
  now : s.board.now = n * Duration.ofMicros config.device.cycleTime.toNat

theorem Lapped.lap (h : Lapped config n s) (valid : config.Valid) :
    Lapped config (n + 1) (s.moves lap) := by
  have rested : Rested config (s.act (.imuDisturb (.skipSequence 127))) := h.rested.act rfl
  obtain ⟨unit, device, tracking⟩ := h.device
  obtain ⟨sample, zero, outgoing⟩ := h.sensor.sent
  obtain ⟨idle, read, asked, now⟩ :=
    rested.served_of_waiting valid h.idle h.command h.layout device
  refine ⟨rested.served valid, idle, h.command, ?_, ⟨_, read, ?_⟩, ?_, ?_⟩
  · have kept := s.layout_moves Station.lap
    rw [kept]
    exact h.layout
  · have sent : (s.act (.imuDisturb (.skipSequence 127))).board.imuReading = .ok sample.encode := by
      show Except.ok (s.board.imu.outgoing.take Inertial.frameLength) = _
      rw [outgoing, List.take_of_length_le (Nat.le_of_eq sample.length_encode)]
    rw [sent, Imu.tracking_observe_encode, tracking, zero, Imu.Tracking.take_ofZeros]
  · have sensor : (s.moves Station.lap).board.imu = _ := asked
    rw [sensor]
    exact h.sensor.pulse
  · have later : (s.moves Station.lap).board.now = s.board.now + s.master.period := now
    rw [later, h.now, h.rested.sane.period, Nat.succ_mul]

theorem laps_succ (n : Nat) : laps (n + 1) = laps n ++ lap := by
  rw [laps, List.replicate_succ', List.flatten_append, List.flatten_singleton]
  rfl

theorem Lapped.laps (h : Lapped config 0 s) (valid : config.Valid) (n : Nat) :
    Lapped config n (s.moves (laps n)) := by
  induction n with
  | zero => exact h
  | succ n ih =>
      rw [laps_succ, moves_append]
      exact ih.lap valid

/-- The sensor of a unit that has just started was asked for its first frame, the number zero. -/
theorem lapped_start (named : config.device.id.kind? = some .imu)
    (h : start config (.fresh config.safety (Duration.ofMicros config.device.cycleTime.toNat)) =
      .ok s) : Lapped config 0 s := by
  have begun : start config ((Rig.fresh config.safety
    (Duration.ofMicros config.device.cycleTime.toNat)).run []) = .ok s := h
  obtain ⟨starts, master⟩ := starts_of_start h
  obtain ⟨_, found, -⟩ := controller_of_start h
  have sensor : s.board.imu = Sensor.fresh.pulse := Controller.imu_start named found
  obtain ⟨kind, data, ready, named', -, made⟩ := Controller.eq_of_start found
  obtain rfl : Kind.imu = kind := Option.some.inj (named.symm.trans named')
  refine ⟨rested_start (List.forall_mem_nil _) begun, ?_, ?_, starts.layout, ⟨.fresh, ?_, rfl⟩, ?_,
    ?_⟩
  · rw [state, made]
    rfl
  · rw [master]
    rfl
  · rw [made]
    rfl
  · rw [sensor]
    exact ⟨rfl, _, rfl, rfl⟩
  · rw [Nat.zero_mul]
    exact congrArg SimBoard.now starts.clockwork

/-- **Every lap but the first counts 127 frames.** -/
theorem sequenceGaps_laps (valid : config.Valid) (named : config.device.id.kind? = some .imu)
    (h : start config (.fresh config.safety (Duration.ofMicros config.device.cycleTime.toNat)) =
      .ok s) (n : Nat) :
    (s.moves (laps n)).controller.device.sequenceGaps = 127 * (n - 1) := by
  obtain ⟨unit, device, tracking⟩ := ((lapped_start named h).laps valid n).device
  have gaps : unit.sequenceGaps = (Imu.Tracking.ofZeros n).gaps :=
    congrArg Imu.Tracking.gaps tracking
  rw [device, ← Imu.Tracking.gaps_ofZeros]
  exact gaps

/-- The moves of a lap. -/
theorem mem_laps {move : Move} {n : Nat} (mem : move ∈ laps n) : move ∈ lap := by
  obtain ⟨one, listed, mem⟩ := List.mem_flatten.mp mem
  rwa [(List.mem_replicate.mp listed).2] at mem

theorem length_laps (n : Nat) : (laps n).length = n * 3 := by
  rw [laps, List.length_flatten, List.map_replicate, List.sum_replicate, smul_eq_mul]
  rfl

/-- On a clock that nobody sets, the cycles of these laps take no time. -/
theorem sum_durations_laps
    (h : start config (.fresh config.safety (Duration.ofMicros config.device.cycleTime.toNat)) =
      .ok s) (n : Nat) : (s.durations (laps n)).sum = 0 := by
  obtain ⟨_, found, -⟩ := controller_of_start h
  have free : s.board.workload = 0 := Controller.workload_start found
  apply List.sum_eq_zero
  rw [← free]
  refine durations_of_unset fun nanos mem => ?_
  simpa [lap] using mem_laps mem

end Simulation.Station
end FieldbusNode
