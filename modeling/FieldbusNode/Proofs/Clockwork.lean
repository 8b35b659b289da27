/-
The clockwork of a simulated board.

Time, the queue of edges, the local watchdog and the inbound record are what
`SimBoard.wiring` leaves out, and `SimBoard.clockwork` is the board with everything
else erased.  No device touches it, and no hook of a tick does.  A cycle takes its
edge off the queue and feeds the watchdog; a pass without an edge lets time pass and
feeds the watchdog of an idle node.

A watchdog that is alive lets a pass go on.  The equations `poll_of_spent`,
`poll_of_edge` and `poll_of_empty` are the three things a pass can be, told apart by
the watchdog and by the queue.
-/
import FieldbusNode.Proofs.Publishing
namespace FieldbusNode

open Simulation (SimBoard Rig Action Station Move)

/-- The time, and what the watchdog makes of it. -/
structure Simulation.Timing where
  now : Nat
  timeout : Nat
  lastFeed : Nat
  expired : Bool

/-- The watchdog has not run out. -/
def Simulation.Timing.Alive (t : Timing) : Prop :=
  t.expired = false ∧ t.now - t.lastFeed ≤ t.timeout

namespace Simulation.SimBoard

/-- Time, the queue of edges, the watchdog and the inbound record, with all else erased. -/
def clockwork (b : SimBoard) : SimBoard :=
  { fresh b.watchdogTimeout with
    now := b.now
    edges := b.edges
    edgeSequence := b.edgeSequence
    lastEdgeAt := b.lastEdgeAt
    droppedEdges := b.droppedEdges
    lastFeed := b.lastFeed
    feedCount := b.feedCount
    watchdogExpired := b.watchdogExpired
    rx := b.rx }

def timing (b : SimBoard) : Timing :=
  ⟨b.now, b.watchdogTimeout, b.lastFeed, b.watchdogExpired⟩

/-- The watchdog of a board has not run out. -/
def Alive (b : SimBoard) : Prop := b.timing.Alive

instance (b : SimBoard) : Decidable b.Alive := inferInstanceAs (Decidable (_ ∧ _))

variable {b b' : SimBoard}

theorem clockwork_noteAll (b : SimBoard) (events : List Event) :
    (Journal.noteAll events b).clockwork = b.clockwork :=
  Journal.noteAll_leaves (f := clockwork) (fun _ _ => rfl) events b

theorem clockwork_noteIf (b : SimBoard) (condition : Bool) (e : Event) :
    (Journal.noteIf condition e b).clockwork = b.clockwork :=
  Journal.noteIf_leaves (f := clockwork) (fun _ _ => rfl) condition e b

/-! ### The watchdog -/

theorem latchWatchdog_of_alive (alive : b.Alive) : b.latchWatchdog = b := by
  have unlatched : b.watchdogExpired = false := alive.1
  have recent : b.sinceFeed ≤ b.watchdogTimeout := alive.2
  simp [latchWatchdog, unlatched, Nat.not_lt.mpr recent]

theorem latchWatchdog_of_spent (spent : ¬b.Alive) : b.latchWatchdog.watchdogExpired = true := by
  by_cases latched : b.watchdogExpired = true
  · rw [latchWatchdog_of_expired latched, latched]
  · have late : b.watchdogTimeout < b.sinceFeed := by
      apply Nat.lt_of_not_le
      intro recent
      exact spent ⟨Bool.eq_false_iff.mpr latched, recent⟩
    unfold latchWatchdog
    rw [if_pos (by simp [latched, late])]
    rfl

theorem feed_of_alive (alive : b.Alive) :
    b.feed = { b with lastFeed := b.now, feedCount := b.feedCount + 1 } := by
  unfold feed
  rw [latchWatchdog_of_alive alive]

theorem clockwork_latchWatchdog (b : SimBoard) :
    b.latchWatchdog.clockwork =
      { b.clockwork with
        watchdogExpired := b.watchdogExpired || decide (b.watchdogTimeout < b.sinceFeed) } := by
  unfold latchWatchdog
  cases latched : b.watchdogExpired with
  | true =>
      rw [if_neg (by simp), Bool.true_or, ← latched]
      rfl
  | false =>
      by_cases late : b.watchdogTimeout < b.sinceFeed
      · rw [if_pos (by simp [late]), decide_eq_true late]
        rfl
      · rw [if_neg (by simp [late]), decide_eq_false late, Bool.or_false, ← latched]
        rfl

theorem clockwork_feed (same : b'.clockwork = b.clockwork) :
    b'.feed.clockwork = b.feed.clockwork := by
  have latched : b'.latchWatchdog.clockwork = b.latchWatchdog.clockwork := by
    rw [clockwork_latchWatchdog, clockwork_latchWatchdog]
    exact congrArg (fun k : SimBoard => { k with
      watchdogExpired := k.watchdogExpired || decide (k.watchdogTimeout < k.sinceFeed) }) same
  exact congrArg (fun k : SimBoard => { k with
    lastFeed := k.now
    feedCount := k.feedCount + 1 }) latched

/-- Time passes, and the watchdog runs out if that was too long. -/
theorem clockwork_advance (b : SimBoard) (nanos : Nat) :
    (b.advance nanos).clockwork =
      { b.clockwork with
        now := b.now + nanos
        watchdogExpired :=
          b.watchdogExpired || decide (b.watchdogTimeout < b.now + nanos - b.lastFeed) } := by
  unfold advance Journal.trapIf
  dsimp only
  rw [clockwork_latchWatchdog]
  split <;> rfl

theorem feedCount_latchWatchdog (b : SimBoard) : b.latchWatchdog.feedCount = b.feedCount := by
  unfold latchWatchdog
  split <;> rfl

theorem feedCount_feed (b : SimBoard) : b.feed.feedCount = b.feedCount + 1 :=
  congrArg (· + 1) b.feedCount_latchWatchdog

theorem feedCount_advance (b : SimBoard) (nanos : Nat) :
    (b.advance nanos).feedCount = b.feedCount := by
  unfold advance
  dsimp only
  rw [feedCount_latchWatchdog]
  exact Journal.trapIf_leaves (f := feedCount) (fun _ _ => rfl) _ _ _

end Simulation.SimBoard

/-! ### Devices leave the clockwork alone -/

theorem Actuator.Monitor.Driven.clockwork {m m' : Monitor} {b b' : SimBoard}
    (driven : m.Driven b m' b') : b'.clockwork = b.clockwork := by
  cases driven with
  | rests | traps | takes => rfl
  | refused => exact SimBoard.clockwork_noteIf b _ _

theorem Mounted.clockwork_keeps (k : SimBoard) :
    Plant.Keeps fun p : Mounted SimBoard => p.board.clockwork = k :=
  board_keeps (fun _ _ h => h) (fun _ _ h => h) (fun driven h => driven.clockwork.trans h)
    (fun _ _ h => h)

namespace Device

variable (d : Device) (data : ProcessData) (b : SimBoard)

theorem clockwork_updateInputs (sinceEdge : Nat) :
    (d.updateInputs sinceEdge data b).2.2.clockwork = b.clockwork :=
  updateInputs_leaves sinceEdge data b (f := SimBoard.clockwork) (fun _ _ => rfl)
    (fun _ _ => rfl) (fun _ => rfl) d

theorem clockwork_postSync : (d.postSync b).2.clockwork = b.clockwork := by
  cases d <;> rfl

theorem clockwork_setUp : (d.setUp data b).2.clockwork = b.clockwork := by
  rw [setUp_leaves (f := SimBoard.clockwork) fun _ _ => rfl]
  cases d with
  | boom | imu => rfl
  | actuator joint m =>
      rw [powerUp_actuator]
      rfl

end Device

namespace Controller

variable (c : Controller SimBoard)

/-! ### A cycle -/

theorem clockwork_accountEdge (edge : Edge) :
    (c.accountEdge edge).board.clockwork = c.board.clockwork :=
  accountEdge_leaves (f := SimBoard.clockwork) (fun _ _ => rfl) (fun _ _ => rfl) c edge

theorem clockwork_sampleInputs (sinceEdge : Nat) :
    (c.sampleInputs sinceEdge).board.clockwork = c.board.clockwork :=
  c.device.clockwork_updateInputs c.data c.board sinceEdge

theorem clockwork_afterExchange : c.afterExchange.board.clockwork = c.board.clockwork :=
  c.device.clockwork_postSync c.board

theorem clockwork_tick : c.tick.board.clockwork = c.board.clockwork := by
  have kept := c.tick_way.keeps (Mounted.clockwork_keeps c.board.clockwork) rfl
  exact kept

/-- The controller of a cycle before the watchdog is fed. -/
def unfed (edge : Edge) : Controller SimBoard :=
  (c.exchanged edge).afterExchange

theorem clockwork_readied (edge : Edge) :
    (c.readied edge).board.clockwork = c.board.feed.clockwork := by
  have sampled := (clockwork_sampleInputs (c.accountEdge edge)
    (Board.sinceEdge (c.accountEdge edge).board)).trans (c.clockwork_accountEdge edge)
  have after : (c.unfed edge).board.clockwork = c.board.clockwork :=
    (clockwork_afterExchange _).trans sampled
  have fed : (c.unfed edge).board.feed.clockwork = c.board.feed.clockwork :=
    SimBoard.clockwork_feed after
  exact (SimBoard.clockwork_noteAll _ _).trans fed

/-- **A cycle feeds the watchdog and leaves the rest of the clockwork alone.** -/
theorem clockwork_syncCycle (edge : Edge) :
    (c.syncCycle edge).board.clockwork = c.board.feed.clockwork :=
  (syncCycle_leaves (f := SimBoard.clockwork) (fun _ _ => rfl) (fun _ _ => rfl) c edge).trans
    ((clockwork_tick _).trans (c.clockwork_readied edge))

theorem clockwork_expire : c.expire.2.board.clockwork = c.board.clockwork := by
  have stopped := (Mounted.clockwork_keeps c.board.clockwork).estop c.mounted rfl
  exact stopped

/-! ### A pass -/

variable {c}

theorem poll_of_spent (spent : ¬c.board.Alive) :
    c.poll = (.error ⟨c.machine.state, c.statistics.cycleCount⟩,
      { c with board := c.board.latchWatchdog }.expire.2) := by
  have expired : Board.expired c.board = (true, c.board.latchWatchdog) :=
    congrArg (·, c.board.latchWatchdog) (SimBoard.latchWatchdog_of_spent spent)
  unfold poll
  rw [expired]
  rfl

theorem expired_of_alive (alive : c.board.Alive) : Board.expired c.board = (false, c.board) := by
  have unlatched : c.board.watchdogExpired = false := alive.1
  show (c.board.latchWatchdog.watchdogExpired, c.board.latchWatchdog) = _
  rw [SimBoard.latchWatchdog_of_alive alive, unlatched]

theorem poll_of_edge (alive : c.board.Alive) {edge : Edge} {rest : List Edge}
    (queue : c.board.edges = edge :: rest) :
    c.poll = (.ok (.synced ⟨c.machine.state,
        ({ c with board := { c.board with edges := rest } }.syncCycle edge).machine.state⟩),
      { c with board := { c.board with edges := rest } }.syncCycle edge) := by
  have awaited : Board.awaitEdge c.idlePoll c.board =
      (some edge, { c.board with edges := rest }) := by
    show c.board.awaitEdge c.idlePoll = _
    rw [SimBoard.awaitEdge, queue]
  unfold poll
  rw [expired_of_alive alive]
  dsimp only
  rw [awaited]
  rfl

theorem poll_of_empty (alive : c.board.Alive) (queue : c.board.edges = []) :
    c.poll = (.ok .idle, { c with board := c.board.advance c.idlePoll }.idlePass) := by
  have awaited : Board.awaitEdge c.idlePoll c.board = (none, c.board.advance c.idlePoll) := by
    show c.board.awaitEdge c.idlePoll = _
    rw [SimBoard.awaitEdge, queue]
  unfold poll
  rw [expired_of_alive alive]
  dsimp only
  rw [awaited]
  rfl

theorem idlePass_of_idle (idle : c.machine.state = .idle) :
    c.idlePass = { c with
      statistics := { c.statistics with idlePolls := c.statistics.idlePolls + 1 }
      board := c.board.feed } := by
  unfold idlePass feed
  rw [if_pos (by simp [shouldFeed, idle])]
  rfl

theorem idlePass_of_away (away : c.machine.state ≠ .idle) :
    c.idlePass = { c with
      statistics := { c.statistics with idlePolls := c.statistics.idlePolls + 1 } } := by
  unfold idlePass feed
  rw [if_neg (by simp [shouldFeed, away])]

/-! ### The start -/

/-- What a controller that starts under a configuration makes of a board. -/
structure Starts (config : Config) (b : SimBoard) (c : Controller SimBoard) : Prop where
  clockwork : c.board.clockwork = b.clockwork
  layout : c.data.layout.Valid
  machine : c.machine = .ofConfig config.safety
  statistics : c.statistics = .zero
  idlePoll : c.idlePoll = Duration.ofMicros config.device.idlePoll.toNat
  lastSequence : c.lastSequence = none

theorem starts_of_start {config : Config} {b b' : SimBoard}
    (h : start config b = (.ok c, b')) : Starts config b c := by
  obtain ⟨kind, data, board, -, setUp, rfl⟩ := eq_of_start h
  have clockwork := (Device.ofKind kind config.limits).clockwork_setUp (.ofLayout kind.layout)
    (Journal.note (.deviceSelected config.device.id kind) b)
  rw [setUp] at clockwork
  have layout : data.layout = kind.layout := Device.layout_setUp setUp
  refine ⟨clockwork, ?_, rfl, rfl, rfl, rfl⟩
  rw [layout_assembled, layout]
  exact kind.layout_valid

end Controller

/-! ### Actions from outside -/

namespace Simulation

/-- Whether an action is a step of the master. -/
def Action.isStep : Action → Bool
  | .step => true
  | _ => false

/-- Whether an action lets time pass. -/
def Action.passesTime : Action → Bool
  | .step | .advance _ => true
  | _ => false

/-- Only steps and the passing of time touch the clockwork. -/
theorem Rig.clockwork_act (rig : Rig) {action : Action} (still : action.passesTime = false) :
    (rig.act action).board.clockwork = rig.board.clockwork := by
  cases action with
  | step | advance => nomatch still
  | setInbound f t value =>
      simp only [act]
      split <;> rfl
  | _ => rfl

theorem Rig.clockwork_run (rig : Rig) {schedule : List Action}
    (still : ∀ action ∈ schedule, action.passesTime = false) :
    (rig.run schedule).board.clockwork = rig.board.clockwork := by
  induction schedule generalizing rig with
  | nil => rfl
  | cons action rest ih =>
      obtain ⟨first, others⟩ := List.forall_mem_cons.mp still
      exact (ih (rig.act action) others).trans (rig.clockwork_act first)

/-- Nothing from outside feeds the watchdog. -/
theorem Rig.feedCount_act (rig : Rig) (action : Action) :
    (rig.act action).board.feedCount = rig.board.feedCount := by
  cases action with
  | step =>
      have pushed (b : SimBoard) : b.pushEdge.feedCount = b.feedCount := by
        unfold SimBoard.pushEdge
        dsimp only
        split <;> rfl
      exact (pushed _).trans (SimBoard.feedCount_advance _ _)
  | advance nanos => exact SimBoard.feedCount_advance _ _
  | setInbound f t value =>
      simp only [act]
      split <;> rfl
  | _ => rfl

theorem Station.starts_of_start {config : Config} {rig : Rig} {s : Station}
    (h : start config rig = .ok s) :
    Controller.Starts config rig.board s.controller ∧ s.master = rig.master := by
  obtain ⟨_, found, master⟩ := controller_of_start h
  exact ⟨Controller.starts_of_start found, master⟩

end Simulation
end FieldbusNode
