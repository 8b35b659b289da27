/-
The local watchdog of a node that is served.

The watchdog counts from its last feed.  A cycle feeds it in any state, a pass without
an edge only while the node is idle.  So a node whose edges are served as they come, and
that waits only while it is idle, has fed its watchdog whenever it is about to meet the
next period of the master or the next wait of its own (`Rested`).  Both are shorter than
the timeout, because a configuration that passes its checks has a timeout above the
cycle time and an idle poll that is no longer than it.
-/
import FieldbusNode.Proofs.Backlog
import FieldbusNode.Proofs.Outputs
namespace FieldbusNode

open Simulation (SimBoard Rig Action Station Move Master)

namespace Simulation

/-! ### The time on a board -/

namespace Timing

/-- Time passes, and the watchdog runs out if that was too long. -/
def advance (t : Timing) (nanos : Nat) : Timing :=
  { t with
    now := t.now + nanos
    expired := t.expired || decide (t.timeout < t.now + nanos - t.lastFeed) }

theorem alive_advance (t : Timing) (nanos : Nat) :
    (t.advance nanos).Alive ↔ t.expired = false ∧ t.now + nanos - t.lastFeed ≤ t.timeout := by
  unfold Alive advance
  simp only [Bool.or_eq_false_iff, decide_eq_false_iff_not, Nat.not_lt]
  constructor
  · rintro ⟨⟨unlatched, -⟩, recent⟩
    exact ⟨unlatched, recent⟩
  · rintro ⟨unlatched, recent⟩
    exact ⟨⟨unlatched, recent⟩, recent⟩

end Timing

namespace SimBoard

variable {b b' : SimBoard}

theorem timing_of_clockwork (h : b'.clockwork = b.clockwork) : b'.timing = b.timing := by
  have erased := congrArg timing h
  exact erased

theorem timing_pushEdge (b : SimBoard) : b.pushEdge.timing = b.timing := by
  unfold pushEdge
  dsimp only
  split <;> rfl

theorem timing_advance (b : SimBoard) (nanos : Nat) :
    (b.advance nanos).timing = b.timing.advance nanos := by
  have advanced := congrArg timing (b.clockwork_advance nanos)
  exact advanced

theorem timing_feed (alive : b.Alive) : b.feed.timing = { b.timing with lastFeed := b.now } := by
  rw [feed_of_alive alive]
  rfl

theorem timing_latchWatchdog (b : SimBoard) : ∃ expired,
    b.latchWatchdog.timing = { b.timing with expired } := by
  have latched := congrArg timing b.clockwork_latchWatchdog
  exact ⟨_, latched⟩

end SimBoard

theorem Rig.timing_step (rig : Rig) :
    (rig.act .step).board.timing = rig.board.timing.advance rig.master.period := by
  have fired : (rig.act .step).board =
      ({ rig.board with rx := rig.master.prepared.rx }.advance rig.master.period).pushEdge := rfl
  rw [fired, SimBoard.timing_pushEdge, SimBoard.timing_advance]
  rfl

/-! ### What settings make of it -/

/-- A watchdog with this timeout, that was not fed in the future. -/
structure Timing.Sane (timeout : Nat) (t : Timing) : Prop where
  timeout : t.timeout = timeout
  past : t.lastFeed ≤ t.now

namespace Timing.Sane

variable {timeout : Nat} {b : SimBoard}

theorem latchWatchdog (h : b.timing.Sane timeout) : b.latchWatchdog.timing.Sane timeout := by
  obtain ⟨expired, latched⟩ := b.timing_latchWatchdog
  rw [latched]
  exact ⟨h.timeout, h.past⟩

theorem feed (h : b.timing.Sane timeout) : b.feed.timing.Sane timeout :=
  ⟨h.latchWatchdog.timeout, Nat.le_refl _⟩

theorem advance {t : Timing} (h : t.Sane timeout) (nanos : Nat) :
    (t.advance nanos).Sane timeout :=
  ⟨h.timeout, Nat.le_trans h.past (Nat.le_add_right _ _)⟩

end Timing.Sane

structure Rig.Sane (timeout period : Nat) (rig : Rig) : Prop where
  timing : rig.board.timing.Sane timeout
  period : rig.master.period = period

namespace Rig.Sane

variable {timeout period : Nat} {rig : Rig}

theorem act (h : rig.Sane timeout period) (action : Action) :
    (rig.act action).Sane timeout period := by
  obtain ⟨timing, period⟩ := h
  cases action with
  | step =>
      refine ⟨?_, period⟩
      rw [rig.timing_step]
      exact timing.advance _
  | advance nanos =>
      refine ⟨?_, period⟩
      show (rig.board.advance nanos).timing.Sane timeout
      rw [SimBoard.timing_advance]
      exact timing.advance nanos
  | setInbound f t value =>
      simp only [Rig.act]
      split <;> exact ⟨timing, period⟩
  | _ => exact ⟨timing, period⟩

theorem run (h : rig.Sane timeout period) (schedule : List Action) :
    (rig.run schedule).Sane timeout period := by
  induction schedule generalizing rig with
  | nil => exact h
  | cons action rest ih => exact ih (h.act action)

end Rig.Sane
end Simulation

namespace Controller

section Timing

variable {c : Controller SimBoard}

/-- A pass that serves an edge feeds the watchdog. -/
theorem timing_of_edge (alive : c.board.Alive) {edge : Edge} {rest : List Edge}
    (queue : c.board.edges = edge :: rest) :
    c.poll.2.board.timing = { c.board.timing with lastFeed := c.board.now } ∧
      c.poll.2.board.edges = rest := by
  rw [poll_of_edge alive queue]
  refine ⟨?_, congrArg Simulation.Backlog.edges (backlog_syncCycle _ edge)⟩
  have fed := clockwork_syncCycle { c with board := { c.board with edges := rest } } edge
  exact (SimBoard.timing_of_clockwork fed).trans
    (SimBoard.timing_feed (b := { c.board with edges := rest }) alive)

/-- A pass of an idle node that waits feeds the watchdog, if it is still alive by then. -/
theorem timing_of_idle (alive : c.board.Alive) (queue : c.board.edges = [])
    (idle : c.machine.state = .idle) (later : (c.board.timing.advance c.idlePoll).Alive) :
    c.poll.2.board.timing = { c.board.timing.advance c.idlePoll with
        lastFeed := (c.board.timing.advance c.idlePoll).now } ∧
      c.poll.2.board.edges = [] := by
  have idle : { c with board := c.board.advance c.idlePoll }.machine.state = .idle := idle
  have waited := c.board.timing_advance c.idlePoll
  rw [poll_of_empty alive queue, idlePass_of_idle idle]
  rw [← waited] at later ⊢
  refine ⟨SimBoard.timing_feed later, ?_⟩
  have kept := (SimBoard.backlog_feed _).trans (c.board.backlog_advance c.idlePoll)
  exact (congrArg Simulation.Backlog.edges kept).trans queue

/-- A pass of any other node that waits lets time pass, and that is all. -/
theorem poll_of_away (alive : c.board.Alive) (queue : c.board.edges = [])
    (away : c.machine.state ≠ .idle) :
    c.poll = (.ok .idle, { c with
      board := c.board.advance c.idlePoll
      statistics := { c.statistics with idlePolls := c.statistics.idlePolls + 1 } }) := by
  have away : { c with board := c.board.advance c.idlePoll }.machine.state ≠ .idle := away
  rw [poll_of_empty alive queue, idlePass_of_away away]

theorem isOk_poll (alive : c.board.Alive) : c.poll.1.isOk = true := by
  cases queue : c.board.edges with
  | nil =>
      rw [poll_of_empty alive queue]
      rfl
  | cons edge rest =>
      rw [poll_of_edge alive queue]
      rfl

end Timing

structure Sane (timeout idlePoll : Nat) (c : Controller SimBoard) : Prop where
  timing : c.board.timing.Sane timeout
  idlePoll : c.idlePoll = idlePoll

namespace Sane

variable {timeout idlePoll : Nat} {c : Controller SimBoard}

theorem on (h : c.Sane timeout idlePoll) {b : SimBoard} (timing : b.timing.Sane timeout) :
    ({ c with board := b } : Controller SimBoard).Sane timeout idlePoll :=
  ⟨timing, h.idlePoll⟩

theorem syncCycle (h : c.Sane timeout idlePoll) (edge : Edge) :
    (c.syncCycle edge).Sane timeout idlePoll := by
  refine ⟨?_, h.idlePoll⟩
  rw [SimBoard.timing_of_clockwork (c.clockwork_syncCycle edge)]
  exact h.timing.feed

theorem expire (h : c.Sane timeout idlePoll) : c.expire.2.Sane timeout idlePoll := by
  refine ⟨?_, h.idlePoll⟩
  rw [SimBoard.timing_of_clockwork c.clockwork_expire]
  exact h.timing

theorem idlePass (h : c.Sane timeout idlePoll) : c.idlePass.Sane timeout idlePoll := by
  by_cases idle : c.machine.state = .idle
  · rw [idlePass_of_idle idle]
    exact ⟨h.timing.feed, h.idlePoll⟩
  · rw [idlePass_of_away idle]
    exact ⟨h.timing, h.idlePoll⟩

theorem poll (h : c.Sane timeout idlePoll) : c.poll.2.Sane timeout idlePoll := by
  by_cases alive : c.board.Alive
  · cases queue : c.board.edges with
    | cons edge rest =>
        rw [poll_of_edge alive queue]
        exact (h.on (b := { c.board with edges := rest }) h.timing).syncCycle edge
    | nil =>
        rw [poll_of_empty alive queue]
        refine (h.on ?_).idlePass
        rw [SimBoard.timing_advance]
        exact h.timing.advance c.idlePoll
  · rw [poll_of_spent alive]
    exact (h.on h.timing.latchWatchdog).expire

end Sane
end Controller

namespace Simulation.Station

/-- The settings of a station, as they came from its configuration and its rig. -/
structure Sane (config : Config) (period : Nat) (s : Station) : Prop where
  controller : s.controller.Sane (Duration.ofMicros config.safety.watchdogTimeout.toNat)
    (Duration.ofMicros config.device.idlePoll.toNat)
  period : s.master.period = period

variable {config : Config} {period : Nat} {s : Station}

theorem Sane.move (h : s.Sane config period) (move : Move) : (s.move move).Sane config period := by
  cases move with
  | poll => exact ⟨h.controller.poll, h.period⟩
  | act action =>
      have found : Rig.Sane _ period ⟨s.board, s.master⟩ := ⟨h.controller.timing, h.period⟩
      have acted := found.act action
      exact ⟨h.controller.on acted.timing, acted.period⟩

theorem Sane.moves (h : s.Sane config period) (run : List Move) :
    (s.moves run).Sane config period := by
  induction run generalizing s with
  | nil => exact h
  | cons move rest ih => exact ih (h.move move)

theorem sane_start {before : List Action}
    (h : start config ((Rig.fresh config.safety period).run before) = .ok s) :
    s.Sane config period := by
  obtain ⟨starts, master⟩ := starts_of_start h
  have fresh : (Rig.fresh config.safety period).Sane
      (Duration.ofMicros config.safety.watchdogTimeout.toNat) period :=
    ⟨⟨rfl, Nat.le_refl 0⟩, rfl⟩
  obtain ⟨timing, kept⟩ := fresh.run before
  refine ⟨⟨?_, starts.idlePoll⟩, ?_⟩
  · rw [SimBoard.timing_of_clockwork starts.clockwork]
    exact timing
  · rw [master]
    exact kept

/-! ### Runs in which every edge is served -/

/-- Runs in which every step of the master is served at once, and passes without an edge come only
while the node is idle.  Nothing else takes time. -/
inductive Attended : Station → List Move → Prop
  | done {s : Station} : Attended s []
  | served {s : Station} {rest : List Move} (next : Attended (s.act .step).poll.2 rest) :
      Attended s (.act .step :: .poll :: rest)
  | acted {s : Station} {action : Action} {rest : List Move} (still : action.passesTime = false)
      (next : Attended (s.act action) rest) : Attended s (.act action :: rest)
  | waited {s : Station} {rest : List Move} (idle : s.state = .idle)
      (next : Attended s.poll.2 rest) : Attended s (.poll :: rest)

/-- A station that has just fed its watchdog, and has no edge to serve. -/
structure Rested (config : Config) (s : Station) : Prop where
  sane : s.Sane config (Duration.ofMicros config.device.cycleTime.toNat)
  unlatched : s.board.watchdogExpired = false
  fed : s.board.lastFeed = s.board.now
  empty : s.board.edges = []

namespace Rested

theorem alive_of_timing (h : Rested config s) (valid : config.Valid) {nanos : Nat}
    (short : nanos ≤ Duration.ofMicros config.device.cycleTime.toNat) {b : SimBoard}
    (passed : b.timing = s.board.timing.advance nanos) : b.Alive := by
  have outlasts : Duration.ofMicros config.device.cycleTime.toNat ≤
      Duration.ofMicros config.safety.watchdogTimeout.toNat :=
    Duration.ofMicros_le_ofMicros.mpr (Nat.le_of_lt valid.safety.watchdog)
  have timeout : s.board.timing.timeout = Duration.ofMicros config.safety.watchdogTimeout.toNat :=
    h.sane.controller.timing.timeout
  show b.timing.Alive
  rw [passed, Timing.alive_advance, timeout]
  refine ⟨h.unlatched, ?_⟩
  show s.board.now + nanos - s.board.lastFeed ≤ _
  rw [h.fed]
  omega

theorem alive (h : Rested config s) : s.board.Alive := by
  refine ⟨h.unlatched, ?_⟩
  show s.board.now - s.board.lastFeed ≤ _
  rw [h.fed, Nat.sub_self]
  exact Nat.zero_le _

theorem act (h : Rested config s) {action : Action} (still : action.passesTime = false) :
    Rested config (s.act action) := by
  have same := Rig.clockwork_act ⟨s.board, s.master⟩ still
  have timing : (s.act action).board.timing = s.board.timing := SimBoard.timing_of_clockwork same
  have edges : (s.act action).board.edges = s.board.edges :=
    congrArg Backlog.edges (SimBoard.backlog_of_clockwork same)
  refine ⟨h.sane.move (.act action), ?_, ?_, edges.trans h.empty⟩
  · exact (congrArg Timing.expired timing).trans h.unlatched
  · have now := congrArg Timing.now timing
    have lastFeed := congrArg Timing.lastFeed timing
    exact lastFeed.trans (h.fed.trans now.symm)

theorem step (h : Rested config s) (valid : config.Valid) :
    (s.act .step).board.Alive ∧ ∃ edge, (s.act .step).board.edges = [edge] := by
  refine ⟨?_, ?_⟩
  · have passed := Rig.timing_step ⟨s.board, s.master⟩
    rw [show Master.period _ = _ from h.sane.period] at passed
    exact h.alive_of_timing valid (Nat.le_refl _) passed
  · obtain ⟨b, fired, same⟩ := Rig.step_board ⟨s.board, s.master⟩
    obtain ⟨queue, edges, short⟩ := b.edges_pushEdge
    have none : b.edges = [] := (congrArg Backlog.edges same).trans h.empty
    rw [none] at short
    obtain rfl : queue = [] := List.eq_nil_of_length_eq_zero (Nat.le_zero.mp short)
    refine ⟨⟨b.edgeSequence + 1, b.now⟩, ?_⟩
    show (Rig.act _ _).board.edges = _
    rw [fired]
    exact edges

theorem served (h : Rested config s) (valid : config.Valid) :
    Rested config (s.act .step).poll.2 := by
  obtain ⟨alive, edge, queue⟩ := h.step valid
  obtain ⟨timing, edges⟩ := Controller.timing_of_edge alive queue
  refine ⟨(h.sane.move (.act .step)).move .poll, ?_, ?_, edges⟩
  · exact (congrArg Timing.expired timing).trans alive.1
  · exact (congrArg Timing.lastFeed timing).trans (congrArg Timing.now timing).symm

theorem waited (h : Rested config s) (valid : config.Valid) (idle : s.state = .idle) :
    Rested config s.poll.2 := by
  have short : s.controller.idlePoll ≤ Duration.ofMicros config.device.cycleTime.toNat := by
    rw [h.sane.controller.idlePoll]
    exact Duration.ofMicros_le_ofMicros.mpr valid.device.idlePoll.2
  have later : (s.board.timing.advance s.controller.idlePoll).Alive := by
    rw [← SimBoard.timing_advance]
    exact h.alive_of_timing valid short (SimBoard.timing_advance _ _)
  obtain ⟨timing, edges⟩ := Controller.timing_of_idle h.alive h.empty idle later
  refine ⟨h.sane.move .poll, ?_, ?_, edges⟩
  · exact (congrArg Timing.expired timing).trans later.1
  · exact (congrArg Timing.lastFeed timing).trans (congrArg Timing.now timing).symm

end Rested

theorem rested_start {before : List Action}
    (still : ∀ action ∈ before, action.passesTime = false)
    (h : start config ((Rig.fresh config.safety
      (Duration.ofMicros config.device.cycleTime.toNat)).run before) = .ok s) :
    Rested config s := by
  obtain ⟨starts, -⟩ := starts_of_start h
  have same : s.board.clockwork =
      SimBoard.clockwork (.fresh (Duration.ofMicros config.safety.watchdogTimeout.toNat)) :=
    starts.clockwork.trans (Rig.clockwork_run _ still)
  have timing := SimBoard.timing_of_clockwork same
  refine ⟨sane_start h, congrArg Timing.expired timing, ?_, ?_⟩
  · exact (congrArg Timing.lastFeed timing).trans (congrArg Timing.now timing).symm
  · exact congrArg Backlog.edges (SimBoard.backlog_of_clockwork same)

/-- What holds now and all along the rest of a run holds all along the run. -/
theorem along_cons {P : Station → Prop} {move : Move} {rest : List Move} (here : P s)
    (later : ∀ sofar, sofar <+: rest → P ((s.move move).moves sofar)) :
    ∀ sofar, sofar <+: move :: rest → P (s.moves sofar) := by
  intro sofar begins
  rcases List.prefix_cons_iff.mp begins with rfl | ⟨tail, rfl, within⟩
  · exact here
  · exact later tail within

theorem Rested.attended {run : List Move} (attended : s.Attended run) (valid : config.Valid)
    (h : Rested config s) :
    s.fails run = false ∧ ∀ sofar, sofar <+: run → (s.moves sofar).board.Alive := by
  induction attended with
  | done =>
      refine ⟨rfl, ?_⟩
      intro sofar begins
      obtain rfl := List.prefix_nil.mp begins
      exact h.alive
  | @served s rest next ih =>
      obtain ⟨unfailed, alive⟩ := ih (h.served valid)
      obtain ⟨stepped, -⟩ := h.step valid
      have ok : (s.act .step).poll.1.isOk = true := Controller.isOk_poll stepped
      refine ⟨?_, along_cons (P := fun s => s.board.Alive) h.alive
        (along_cons (P := fun s => s.board.Alive) stepped alive)⟩
      simp only [fails, failsOn, move, ok, Bool.not_true, Bool.false_or]
      exact unfailed
  | acted still next ih =>
      obtain ⟨unfailed, alive⟩ := ih (h.act still)
      exact ⟨unfailed, along_cons (P := fun s => s.board.Alive) h.alive alive⟩
  | @waited s rest idle next ih =>
      obtain ⟨unfailed, alive⟩ := ih (h.waited valid idle)
      have ok : s.poll.1.isOk = true := Controller.isOk_poll h.alive
      refine ⟨?_, along_cons (P := fun s => s.board.Alive) h.alive alive⟩
      simp only [fails, failsOn, ok, Bool.not_true, Bool.false_or]
      exact unfailed

/--
**A node that is served or idle is never cut off by its own watchdog.**

The node is under a configuration that passes its checks, on a rig whose master steps once a
cycle time, and nothing takes time but these steps and its own waits.  No pass fails, and at no
moment, also between a step and the pass that serves it, has the watchdog run out.
-/
theorem attended_never_expires (valid : config.Valid) {before : List Action}
    (still : ∀ action ∈ before, action.passesTime = false)
    (h : start config ((Rig.fresh config.safety
      (Duration.ofMicros config.device.cycleTime.toNat)).run before) = .ok s)
    {run : List Move} (attended : s.Attended run) :
    s.fails run = false ∧ ∀ sofar, sofar <+: run → (s.moves sofar).board.Alive :=
  (rested_start still h).attended attended valid

/-- Two waits in `idle`, two cycles that get into `run` and stay there, one that stops, and another
wait. -/
def shift : List Move :=
  [.poll, .poll, .act (.command State.run.toByte), .act .step, .poll, .act .step, .poll,
    .act (.command State.stop.toByte), .act .step, .poll, .poll]

theorem attended_never_expires_shift : legConfig.Valid ∧ ∃ s,
    start legConfig ((Rig.fresh legConfig.safety
      (Duration.ofMicros legConfig.device.cycleTime.toNat)).run []) = .ok s ∧
      s.Attended shift ∧ (s.moves (shift.take 7)).state = .run ∧ s.fails shift = false ∧
      (s.moves shift).board.Alive := by
  have valid : legConfig.Valid := by decide
  obtain ⟨s, started, first, second, running, stopped⟩ : ∃ s,
      start legConfig ((Rig.fresh legConfig.safety
        (Duration.ofMicros legConfig.device.cycleTime.toNat)).run []) = .ok s ∧
        s.state = .idle ∧ s.poll.2.state = .idle ∧ (s.moves (shift.take 7)).state = .run ∧
        (s.moves (shift.take 10)).state = .idle := by
    refine ⟨_, rfl, ?_, ?_, ?_, ?_⟩ <;> decide +kernel
  have attended : s.Attended shift :=
    .waited first <| .waited second <| .acted rfl <| .served <| .served <| .acted rfl <| .served <|
      .waited stopped .done
  obtain ⟨unfailed, alive⟩ := attended_never_expires valid (List.forall_mem_nil _) started attended
  exact ⟨valid, s, started, attended, running, unfailed, alive shift (List.prefix_refl shift)⟩

end Simulation.Station
end FieldbusNode
