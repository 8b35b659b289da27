/-
Edges in the queue, and edges that passes observe.

An action from outside and a pass of the loop can touch the queue in one way each.  A
step of the master fires an edge, and with it overwrites the inbound record.  A pass
that finds the watchdog alive takes the oldest edge and runs a cycle for it.  Nothing
else does anything to the queue, and no pass without an edge does anything to the
machine or to what the controller writes down of edges.
-/
import FieldbusNode.Proofs.Clockwork
namespace FieldbusNode

open Simulation (SimBoard Rig Action Station Move)

namespace Simulation

/-- The queue of edges with its counts, and the inbound record that they are served against. -/
structure Backlog where
  edges : List Edge
  fired : Nat
  dropped : Nat
  inbound : Record

def SimBoard.backlog (b : SimBoard) : Backlog :=
  ⟨b.edges, b.edgeSequence, b.droppedEdges, b.rx⟩

theorem SimBoard.backlog_of_clockwork {b b' : SimBoard} (h : b'.clockwork = b.clockwork) :
    b'.backlog = b.backlog := by
  have erased := congrArg backlog h
  exact erased

theorem SimBoard.backlog_latchWatchdog (b : SimBoard) : b.latchWatchdog.backlog = b.backlog := by
  unfold latchWatchdog
  split <;> rfl

theorem SimBoard.backlog_feed (b : SimBoard) : b.feed.backlog = b.backlog :=
  b.backlog_latchWatchdog

theorem SimBoard.backlog_advance (b : SimBoard) (nanos : Nat) :
    (b.advance nanos).backlog = b.backlog := by
  unfold advance
  dsimp only
  rw [backlog_latchWatchdog]
  exact Journal.trapIf_leaves (f := backlog) (fun _ _ => rfl) _ _ _

theorem SimBoard.fired_pushEdge (b : SimBoard) : b.pushEdge.edgeSequence = b.edgeSequence + 1 := by
  unfold pushEdge
  dsimp only
  split <;> rfl

theorem SimBoard.rx_pushEdge (b : SimBoard) : b.pushEdge.rx = b.rx := by
  unfold pushEdge
  dsimp only
  split <;> rfl

theorem SimBoard.edges_pushEdge (b : SimBoard) : ∃ queue,
    b.pushEdge.edges = queue ++ [⟨b.edgeSequence + 1, b.now⟩] ∧ queue.length ≤ b.edges.length := by
  unfold pushEdge
  dsimp only
  split
  · exact ⟨b.edges, rfl, Nat.le_refl _⟩
  · refine ⟨b.edges.tail, rfl, ?_⟩
    rw [List.length_tail]
    exact Nat.sub_le _ _

/-- Only a step of the master touches the queue. -/
theorem Rig.backlog_act (rig : Rig) {action : Action} (other : action.isStep = false) :
    (rig.act action).board.backlog = rig.board.backlog := by
  cases action with
  | step => nomatch other
  | advance nanos => exact rig.board.backlog_advance nanos
  | _ => exact SimBoard.backlog_of_clockwork (rig.clockwork_act rfl)

theorem Action.eq_step {action : Action} (step : action.isStep = true) : action = .step := by
  cases action with
  | step => rfl
  | _ => nomatch step

/-- A step writes the inbound record and fires an edge, and the time in between is nothing to the
queue. -/
theorem Rig.step_board (rig : Rig) : ∃ b : SimBoard, (rig.act .step).board = b.pushEdge ∧
    b.backlog = { rig.board.backlog with inbound := rig.master.prepared.rx } :=
  ⟨_, rfl, SimBoard.backlog_advance _ _⟩

/-- What a new inbound record and a new edge keep is kept by every action. -/
theorem Rig.backlog_keeps {P : Backlog → Prop} (rig : Rig) (action : Action)
    (write : ∀ k inbound, P k → P { k with inbound })
    (fire : ∀ b : SimBoard, P b.backlog → P b.pushEdge.backlog) (h : P rig.board.backlog) :
    P (rig.act action).board.backlog := by
  cases step : action.isStep with
  | false =>
      rw [rig.backlog_act step]
      exact h
  | true =>
      obtain rfl := Action.eq_step step
      obtain ⟨b, fired, same⟩ := rig.step_board
      rw [fired]
      apply fire
      rw [same]
      exact write _ _ h

/-- Whether a move is a step of the master. -/
def Move.isStep : Move → Bool
  | .act action => action.isStep
  | .poll => false

/-- How often the master steps in a run. -/
def steps (run : List Move) : Nat :=
  run.countP Move.isStep

theorem steps_append (a b : List Move) : steps (a ++ b) = steps a + steps b :=
  List.countP_append

theorem steps_cons (move : Move) (rest : List Move) :
    steps (move :: rest) = steps [move] + steps rest :=
  steps_append [move] rest

theorem Rig.fired_act (rig : Rig) (action : Action) :
    (rig.act action).board.edgeSequence = rig.board.edgeSequence + steps [.act action] := by
  cases step : action.isStep with
  | false =>
      have none : steps [.act action] = 0 := by simp [steps, Move.isStep, step]
      rw [none]
      exact congrArg Backlog.fired (rig.backlog_act step)
  | true =>
      obtain rfl := Action.eq_step step
      obtain ⟨b, fired, same⟩ := rig.step_board
      have before : b.edgeSequence = rig.board.edgeSequence := congrArg Backlog.fired same
      rw [fired, SimBoard.fired_pushEdge, before]
      rfl

theorem Rig.fired_run (rig : Rig) (schedule : List Action) :
    (rig.run schedule).board.edgeSequence =
      rig.board.edgeSequence + steps (schedule.map Move.act) := by
  induction schedule generalizing rig with
  | nil => rfl
  | cons action rest ih =>
      have later : ((rig.act action).run rest).board.edgeSequence = _ := ih (rig.act action)
      rw [List.map_cons, steps_cons, ← Nat.add_assoc, ← rig.fired_act]
      exact later

end Simulation

/-! ### What a pass observes -/

namespace Controller

variable {c : Controller SimBoard}

/-- The edge that the next pass observes, if it observes one. -/
def edge? (c : Controller SimBoard) : Option Edge :=
  c.cycle?.map Prod.snd

/-- What a controller writes down of edges. -/
structure Books where
  cycles : Nat
  missed : Nat
  last : Option Nat

def books (c : Controller SimBoard) : Books :=
  ⟨c.statistics.cycleCount, c.statistics.missedEdges, c.lastSequence⟩

theorem edge?_of_spent (spent : ¬c.board.Alive) : c.edge? = none := by
  have expired : (Board.expired c.board).1 = true := SimBoard.latchWatchdog_of_spent spent
  simp [edge?, cycle?, expired]

theorem edge?_of_alive (alive : c.board.Alive) : c.edge? = c.board.edges.head? := by
  unfold edge? cycle?
  rw [expired_of_alive alive]
  have awaited : (Board.awaitEdge c.idlePoll c.board).1 = c.board.edges.head? := by
    show (c.board.awaitEdge c.idlePoll).1 = _
    unfold SimBoard.awaitEdge
    cases c.board.edges <;> rfl
  rw [← awaited]
  dsimp only
  rw [if_neg (by simp)]
  rcases Board.awaitEdge c.idlePoll c.board with ⟨_ | edge, board⟩ <;> rfl

/-- What a pass does with the queue and with what is written down, by the edge it observes. -/
inductive Observes (c : Controller SimBoard) : Option Edge → Controller SimBoard → Prop
  | cycle {edge : Edge} {rest : List Edge} (alive : c.board.Alive)
      (queue : c.board.edges = edge :: rest) :
      Observes c (some edge) ({ c with board := { c.board with edges := rest } }.syncCycle edge)
  | rest {c' : Controller SimBoard} (machine : c'.machine = c.machine)
      (backlog : c'.board.backlog = c.board.backlog) (books : c'.books = c.books) :
      Observes c none c'

theorem rest_idlePass (c : Controller SimBoard) : Observes c none c.idlePass := by
  by_cases idle : c.machine.state = .idle
  · rw [idlePass_of_idle idle]
    exact .rest rfl c.board.backlog_feed rfl
  · rw [idlePass_of_away idle]
    exact .rest rfl rfl rfl

theorem poll_observes (c : Controller SimBoard) : Observes c c.edge? c.poll.2 := by
  by_cases alive : c.board.Alive
  · rw [edge?_of_alive alive]
    cases queue : c.board.edges with
    | nil =>
        rw [poll_of_empty alive queue]
        have waited := rest_idlePass { c with board := c.board.advance c.idlePoll }
        cases waited with
        | rest machine backlog books =>
            exact .rest machine (backlog.trans (c.board.backlog_advance c.idlePoll)) books
    | cons edge rest =>
        rw [poll_of_edge alive queue]
        exact .cycle alive queue
  · rw [edge?_of_spent alive, poll_of_spent alive]
    have stopped := SimBoard.backlog_of_clockwork
      (clockwork_expire { c with board := c.board.latchWatchdog })
    exact .rest rfl (stopped.trans c.board.backlog_latchWatchdog) rfl

theorem backlog_syncCycle (c : Controller SimBoard) (edge : Edge) :
    (c.syncCycle edge).board.backlog = c.board.backlog :=
  (SimBoard.backlog_of_clockwork (c.clockwork_syncCycle edge)).trans c.board.backlog_feed

theorem books_syncCycle (c : Controller SimBoard) (edge : Edge) :
    (c.syncCycle edge).books =
      ⟨c.books.cycles + 1, c.books.missed + c.missedBefore edge, some edge.sequence⟩ := rfl

/-- A pass that observes an edge takes it off the queue and runs a cycle for it. -/
theorem poll_of_observed {edge : Edge} (h : c.edge? = some edge) : ∃ rest,
    c.board.edges = edge :: rest ∧
      c.poll.2 = { c with board := { c.board with edges := rest } }.syncCycle edge := by
  have pass := c.poll_observes
  rw [h] at pass
  generalize c.poll.2 = c' at pass
  cases pass with
  | @cycle _ rest _ queue => exact ⟨rest, queue, rfl⟩

theorem fired_poll (c : Controller SimBoard) :
    c.poll.2.board.edgeSequence = c.board.edgeSequence := by
  have pass := c.poll_observes
  generalize c.edge? = observed, c.poll.2 = c' at pass
  cases pass with
  | cycle => exact congrArg Simulation.Backlog.fired (backlog_syncCycle _ _)
  | rest _ backlog => exact congrArg Simulation.Backlog.fired backlog

end Controller

/-! ### Runs -/

namespace Simulation.Station

/-- The edges that the passes of a run observe, in order. -/
def observed (s : Station) (run : List Move) : List Edge :=
  s.gather Controller.edge? run

theorem observed_append (s : Station) (a b : List Move) :
    s.observed (a ++ b) = s.observed a ++ (s.moves a).observed b :=
  s.gather_append a b

theorem fired_moves (s : Station) (run : List Move) :
    (s.moves run).board.edgeSequence = s.board.edgeSequence + steps run := by
  induction run generalizing s with
  | nil => rfl
  | cons move rest ih =>
      have one : (s.move move).board.edgeSequence = s.board.edgeSequence + steps [move] := by
        cases move with
        | act action => exact Rig.fired_act ⟨s.board, s.master⟩ action
        | poll => exact s.controller.fired_poll
      rw [moves_cons, ih, one, steps_cons move rest, Nat.add_assoc]

end Simulation.Station
end FieldbusNode
