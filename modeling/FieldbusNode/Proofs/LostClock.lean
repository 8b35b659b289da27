/-
A node that loses its clock is cut off, once and for all.

Away from `idle` a pass without an edge lets one poll time pass and feeds nothing.  The
watchdog is looked at before the wait and compared strictly, so a wait may end after
the timeout and only the pass behind it fails: with `t` gone since the last feed,
passes go on as long as `t` and the waits before them are no more than the timeout.

From the pass that fails on, nothing brings the node back.  A watchdog that has run out
stays so, the outputs stay off, the stop line stays asserted by the node itself, and no
cycle runs, whatever edges come (`CutOff`).
-/
import FieldbusNode.Proofs.Chronicle
import FieldbusNode.Proofs.Watchdog
namespace FieldbusNode

open Simulation (SimBoard Rig Action Station Move)

theorem Mounted.off_estop {p : Mounted SimBoard} (off : p.board.amplifierEnabled = false) :
    (Plant.estop p).board.amplifierEnabled = false := by
  obtain ⟨device, b⟩ := p
  cases device with
  | actuator => rfl
  | boom | imu => exact off

namespace Simulation.Station

/-- What a pass of a station reports if its watchdog has run out. -/
def expiry (s : Station) : Expiry := ⟨s.state, s.controller.statistics.cycleCount⟩

/-! ### Cut off -/

/-- A station that was cut off as another one says: it is no further, and its outputs are safe. -/
structure CutOff (expiry : Expiry) (published : Record × Nat) (s : Station) : Prop where
  latched : s.board.watchdogExpired = true
  expiry : s.expiry = expiry
  published : s.board.published = published
  off : s.board.amplifierEnabled = false
  asserted : s.board.selfAsserted = true

namespace CutOff

variable {report : Expiry} {record : Record × Nat} {s : Station}

/-- A pass that finds its watchdog spent cuts the station off, if it takes the outputs away. -/
theorem of_spent (spent : ¬s.board.Alive) (off : s.poll.2.board.amplifierEnabled = false) :
    CutOff s.expiry s.board.published s.poll.2 := by
  have made : s.poll.2.controller =
      { s.controller with board := s.board.latchWatchdog }.expire.2 :=
    congrArg Prod.snd (Controller.poll_of_spent spent)
  refine ⟨?_, ?_, ?_, off, ?_⟩
  · show s.poll.2.controller.board.watchdogExpired = true
    rw [made, Controller.watchdogExpired_expire]
    exact SimBoard.latchWatchdog_of_spent spent
  · show (⟨s.poll.2.controller.machine.state, s.poll.2.controller.statistics.cycleCount⟩ : Expiry) =
      s.expiry
    rw [made]
    rfl
  · show s.poll.2.controller.board.published = s.board.published
    rw [made, Controller.published_expire]
    exact SimBoard.published_of_wiring s.board.wiring_latchWatchdog
  · show s.poll.2.controller.board.selfAsserted = true
    rw [made]
    rfl

theorem spent (h : CutOff report record s) : ¬s.board.Alive := by
  intro alive
  have unlatched : s.board.watchdogExpired = false := alive.1
  rw [h.latched] at unlatched
  cases unlatched

theorem fails (h : CutOff report record s) : s.poll.1 = .error report := by
  rw [← h.expiry]
  exact congrArg Prod.fst (Controller.poll_of_spent h.spent)

theorem unsynced (h : CutOff report record s) : s.controller.cycle? = none := by
  unfold Controller.cycle?
  exact if_pos (SimBoard.latchWatchdog_of_spent h.spent)

theorem poll (h : CutOff report record s) : CutOff report record s.poll.2 := by
  have made : s.poll.2.controller =
      { s.controller with board := s.board.latchWatchdog }.expire.2 :=
    congrArg Prod.snd (Controller.poll_of_spent h.spent)
  have off : s.poll.2.board.amplifierEnabled = false := by
    show s.poll.2.controller.board.amplifierEnabled = false
    rw [made, SimBoard.latchWatchdog_of_expired h.latched]
    exact Mounted.off_estop (p := s.controller.mounted) h.off
  have again := of_spent h.spent off
  rwa [h.expiry, h.published] at again

theorem act (h : CutOff report record s) (action : Action) :
    CutOff report record (s.act action) := by
  have amplifier := Rig.amplifier_act ⟨s.board, s.master⟩ action
  refine ⟨Rig.watchdogExpired_act _ action h.latched, h.expiry, ?_, ?_, ?_⟩
  · exact (Rig.published_act _ action).trans h.published
  · exact (congrArg Prod.fst amplifier).trans h.off
  · exact (Rig.selfAsserted_act _ action).trans h.asserted

theorem moves (h : CutOff report record s) (run : List Move) :
    CutOff report record (s.moves run) :=
  moves_keeps (fun _ action h => h.act action) (fun _ h => h.poll) h run

end CutOff

/-! ### Silence -/

/-- A station after so many passes with nothing else between them. -/
def silence (s : Station) (passes : Nat) : Station := s.moves (.replicate passes .poll)

theorem silence_succ (s : Station) (k : Nat) : s.silence (k + 1) = (s.silence k).poll.2 := by
  unfold silence
  rw [List.replicate_succ', moves_append]
  rfl

/-- A station that has only waited since it was another one. -/
structure Silent (s : Station) (k : Nat) (s' : Station) : Prop where
  machine : s'.controller.machine = s.controller.machine
  cycles : s'.controller.statistics.cycleCount = s.controller.statistics.cycleCount
  idlePoll : s'.controller.idlePoll = s.controller.idlePoll
  published : s'.board.published = s.board.published
  empty : s'.board.edges = []
  timeout : s'.board.watchdogTimeout = s.board.watchdogTimeout
  lastFeed : s'.board.lastFeed = s.board.lastFeed
  now : s'.board.now = s.board.now + k * s.controller.idlePoll
  unlatched : s'.board.sinceFeed ≤ s'.board.watchdogTimeout → s'.board.watchdogExpired = false

namespace Silent

variable {s s' : Station} {k : Nat}

theorem start (alive : s.board.Alive) (empty : s.board.edges = []) : Silent s 0 s := by
  refine ⟨rfl, rfl, rfl, rfl, empty, rfl, rfl, ?_, fun _ => alive.1⟩
  rw [Nat.zero_mul]
  rfl

theorem expiry (h : Silent s k s') : s'.expiry = s.expiry := by
  show (⟨s'.controller.machine.state, s'.controller.statistics.cycleCount⟩ : Expiry) = s.expiry
  rw [h.machine, h.cycles]
  rfl

theorem away (h : Silent s k s') (away : s.state ≠ .idle) :
    s'.controller.machine.state ≠ .idle := by
  rw [h.machine]
  exact away

theorem sinceFeed (h : Silent s k s') (past : s.board.lastFeed ≤ s.board.now) :
    s'.board.sinceFeed = s.board.sinceFeed + k * s.controller.idlePoll := by
  show s'.board.now - s'.board.lastFeed = s.board.now - s.board.lastFeed + _
  rw [h.now, h.lastFeed]
  omega

/-- The watchdog is alive as long as the waits have not used up its timeout. -/
theorem alive_iff (h : Silent s k s') (past : s.board.lastFeed ≤ s.board.now) :
    s'.board.Alive ↔
      s.board.sinceFeed + k * s.controller.idlePoll ≤ s.board.watchdogTimeout := by
  rw [← h.sinceFeed past, ← h.timeout]
  constructor
  · intro alive
    exact alive.2
  · intro recent
    exact ⟨h.unlatched recent, recent⟩

theorem next (h : Silent s k s') (away : s.state ≠ .idle) (alive : s'.board.Alive) :
    Silent s (k + 1) s'.poll.2 := by
  have made : s'.poll.2.controller = _ :=
    congrArg Prod.snd (Controller.poll_of_away alive h.empty (h.away away))
  have board : s'.poll.2.board = s'.board.advance s'.controller.idlePoll :=
    congrArg Controller.board made
  have timing := s'.board.timing_advance s'.controller.idlePoll
  rw [← board] at timing
  have backlog := s'.board.backlog_advance s'.controller.idlePoll
  rw [← board] at backlog
  have published := SimBoard.published_of_wiring (s'.board.wiring_advance s'.controller.idlePoll)
  rw [← board] at published
  refine ⟨?_, ?_, ?_, published.trans h.published, ?_, ?_, ?_, ?_, ?_⟩
  · rw [made]
    exact h.machine
  · rw [made]
    exact h.cycles
  · rw [made]
    exact h.idlePoll
  · exact (congrArg Backlog.edges backlog).trans h.empty
  · exact (congrArg Timing.timeout timing).trans h.timeout
  · exact (congrArg Timing.lastFeed timing).trans h.lastFeed
  · have later : s'.poll.2.board.now = s'.board.now + s'.controller.idlePoll :=
      congrArg Timing.now timing
    rw [later, h.now, h.idlePoll, Nat.succ_mul]
    omega
  · intro recent
    have alive : s'.poll.2.board.timing.Alive := by
      rw [timing, Timing.alive_advance]
      refine ⟨alive.1, ?_⟩
      have later : s'.poll.2.board.sinceFeed =
          s'.board.now + s'.controller.idlePoll - s'.board.lastFeed := by
        show s'.poll.2.board.timing.now - s'.poll.2.board.timing.lastFeed = _
        rw [timing]
        rfl
      have timeout : s'.poll.2.board.watchdogTimeout = s'.board.watchdogTimeout :=
        congrArg Timing.timeout timing
      rw [later, timeout] at recent
      exact recent
    exact alive.1

end Silent

/-- As long as the waits before it have not used up the timeout, a station can wait once more. -/
theorem silent_silence {s : Station} (away : s.state ≠ .idle) (empty : s.board.edges = [])
    (unlatched : s.board.watchdogExpired = false) (past : s.board.lastFeed ≤ s.board.now) {k : Nat}
    (recent : s.board.sinceFeed + (k - 1) * s.controller.idlePoll ≤ s.board.watchdogTimeout) :
    Silent s k (s.silence k) := by
  induction k with
  | zero =>
      rw [Nat.zero_sub, Nat.zero_mul] at recent
      exact Silent.start ⟨unlatched, recent⟩ empty
  | succ k ih =>
      rw [Nat.add_sub_cancel] at recent
      have before : Silent s k (s.silence k) := by
        apply ih
        have fewer : (k - 1) * s.controller.idlePoll ≤ k * s.controller.idlePoll :=
          Nat.mul_le_mul_right _ (Nat.sub_le k 1)
        omega
      rw [silence_succ]
      exact before.next away ((before.alive_iff past).mpr recent)

/-- A station that finds no edge waits for so many passes, and is then cut off for good. -/
structure CutOffAfter (passes : Nat) (s : Station) : Prop where
  waits : ∀ k < passes, (s.silence k).poll.1 = .ok .idle
  expires : (s.silence passes).poll.1 = .error s.expiry
  stays : ∀ later, ((s.silence (passes + 1)).moves later).poll.1 = .error s.expiry ∧
    ((s.silence (passes + 1)).moves later).controller.cycle? = none ∧
    CutOff s.expiry s.board.published ((s.silence (passes + 1)).moves later)

section Silence

variable {limits : Limits} {kind : Kind} {s : Station}

/-- A station that is sound keeps its outputs off once a pass has failed. -/
theorem cutOff_of_spent (sound : s.controller.mounted.Sound limits kind)
    (spent : ¬s.board.Alive) : CutOff s.expiry s.board.published s.poll.2 := by
  have looked := s.controller.quiet_of_wiring (SimBoard.wiring_latchWatchdog s.board)
  refine .of_spent spent ?_
  show s.controller.poll.2.board.amplifierEnabled = false
  rw [Controller.poll_of_spent spent]
  exact Controller.amplifierEnabled_expire (looked.sound sound)

theorem cutOff_of_silence (sound : s.controller.mounted.Sound limits kind)
    (away : s.state ≠ .idle) (empty : s.board.edges = []) (alive : s.board.Alive)
    (past : s.board.lastFeed ≤ s.board.now) (waits : 0 < s.controller.idlePoll) :
    CutOffAfter ((s.board.watchdogTimeout - s.board.sinceFeed) / s.controller.idlePoll + 1) s := by
  have recent : s.board.sinceFeed ≤ s.board.watchdogTimeout := alive.2
  generalize last : (s.board.watchdogTimeout - s.board.sinceFeed) / s.controller.idlePoll = q
  have fits (k : Nat) : k ≤ q ↔
      s.board.sinceFeed + k * s.controller.idlePoll ≤ s.board.watchdogTimeout := by
    rw [← last, Nat.le_div_iff_mul_le waits]
    omega
  have silent (k : Nat) (within : k ≤ q + 1) : Silent s k (s.silence k) := by
    apply silent_silence away empty alive.1 past
    exact (fits (k - 1)).mp (by omega)
  have whole := silent (q + 1) (Nat.le_refl _)
  have spent : ¬(s.silence (q + 1)).board.Alive := by
    intro alive
    have more := (fits (q + 1)).mpr ((whole.alive_iff past).mp alive)
    omega
  refine ⟨?_, ?_, ?_⟩
  · intro k less
    have sofar := silent k (Nat.le_of_lt less)
    have alive := (sofar.alive_iff past).mpr ((fits k).mp (Nat.le_of_lt_succ less))
    exact congrArg Prod.fst (Controller.poll_of_away alive sofar.empty (sofar.away away))
  · rw [← whole.expiry]
    exact congrArg Prod.fst (Controller.poll_of_spent spent)
  · intro later
    have still : (s.silence (q + 1)).controller.mounted.Sound limits kind := sound_moves sound _
    have entered := cutOff_of_spent still spent
    rw [← silence_succ, whole.expiry, whole.published] at entered
    have dead := entered.moves later
    exact ⟨dead.fails, dead.unsynced, dead⟩

end Silence

/--
**A node that loses its clock is cut off after its timeout, exactly and finally.**

The node is under a configuration that passes its checks, and any run has brought it to where it
is not idle, has no edge to serve and a watchdog that has not run out.
-/
theorem lost_clock_cuts_off {config : Config} (valid : config.Valid) {s : Station}
    (started : Started config s) (run : List Move) (away : (s.moves run).state ≠ .idle)
    (empty : (s.moves run).board.edges = [])
    (unlatched : (s.moves run).board.watchdogExpired = false)
    (recent : (s.moves run).board.sinceFeed ≤
      Duration.ofMicros config.safety.watchdogTimeout.toNat) :
    CutOffAfter ((Duration.ofMicros config.safety.watchdogTimeout.toNat -
      (s.moves run).board.sinceFeed) / Duration.ofMicros config.device.idlePoll.toNat + 1)
      (s.moves run) := by
  obtain ⟨kind, begins⟩ := started.begins valid.limits
  have sound := sound_moves begins.sound run
  obtain ⟨period, before, h⟩ := started
  obtain ⟨⟨⟨timeout, past⟩, idlePoll⟩, -⟩ := (sane_start h).moves run
  have timeout : (s.moves run).board.watchdogTimeout =
      Duration.ofMicros config.safety.watchdogTimeout.toNat := timeout
  have waits : Duration.ofMicros 10 ≤ Duration.ofMicros config.device.idlePoll.toNat :=
    Duration.ofMicros_le_ofMicros.mpr valid.device.idlePoll.1
  rw [← timeout] at recent
  rw [← idlePoll] at waits
  rw [← timeout, ← idlePoll]
  exact cutOff_of_silence sound away empty ⟨unlatched, recent⟩ past
    (Nat.lt_of_lt_of_le (by decide) waits)

/-- A run command and one cycle. -/
def entered : List Move := [.act (.command State.run.toByte), .act .step, .poll]

/-- A leg in `run` waits seventeen times half a millisecond, and edges do not bring it back. -/
theorem lost_clock_cuts_off_entered : legConfig.Valid ∧ ∃ s, Started legConfig s ∧
    (s.moves entered).state = .run ∧ (s.moves entered).board.edges = [] ∧
    (s.moves entered).board.watchdogExpired = false ∧ (s.moves entered).board.sinceFeed = 0 ∧
    ((s.moves entered).silence 16).poll.1 = .ok .idle ∧
    ((s.moves entered).silence 17).poll.1 = .error ⟨.run, 1⟩ ∧
    (((s.moves entered).silence 18).moves [.act .step, .poll]).poll.1 = .error ⟨.run, 1⟩ := by
  have valid : legConfig.Valid := by decide
  obtain ⟨s, started, running, empty, unlatched, fed, cycles⟩ : ∃ s, Started legConfig s ∧
      (s.moves entered).state = .run ∧ (s.moves entered).board.edges = [] ∧
      (s.moves entered).board.watchdogExpired = false ∧ (s.moves entered).board.sinceFeed = 0 ∧
      (s.moves entered).expiry = ⟨.run, 1⟩ := by
    refine ⟨_, ⟨1000000, [], rfl⟩, ?_, ?_, ?_, ?_, ?_⟩ <;> decide +kernel
  have cut := lost_clock_cuts_off valid started entered (by rw [running]; nofun) empty unlatched
    (by rw [fed]; exact Nat.zero_le _)
  rw [fed] at cut
  obtain ⟨waits, expires, stays⟩ := cut
  rw [cycles] at expires stays
  exact ⟨valid, s, started, running, empty, unlatched, fed, waits 16 (by decide), expires,
    (stays [.act .step, .poll]).1⟩

end Simulation.Station
end FieldbusNode
