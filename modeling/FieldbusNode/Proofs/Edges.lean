/-
What becomes of the edges.

An edge that is fired goes into a queue of four, and from there to a cycle or, when the
queue is full and it is the oldest, nowhere.  Two numbers are kept of that on two
sides.  The board counts the edges it has dropped.  The controller knows nothing of the
queue and counts the gaps in the numbers of the edges it observes.

The queue is a window of consecutive numbers that ends with the newest edge, and every
edge is taken, queued or dropped (`Queued`).  So the number of an edge says how many
edges were lost before it, and the two counts can be told from one another
(`Accounted`): they differ by what was lost before the first observation, which the
controller does not see, and by what was lost behind the last one, which it has not
seen yet.
-/
import FieldbusNode.Proofs.Backlog
import FieldbusNode.Proofs.Outputs
namespace FieldbusNode

open Simulation (SimBoard Rig Action Station Move edgeQueueDepth)

/-! ### The queue -/

/-- The edges are numbered in a row, and the last of them carries the newest number. -/
def Window (newest : Nat) (edges : List Edge) : Prop :=
  ∃ first, first + edges.length = newest + 1 ∧
    edges.map Edge.sequence = List.range' first edges.length

namespace Window

variable {newest : Nat} {edge : Edge} {edges : List Edge}

theorem nil (newest : Nat) : Window newest [] := ⟨newest + 1, rfl, rfl⟩

theorem snoc (h : Window newest edges) (next : edge.sequence = newest + 1) :
    Window (newest + 1) (edges ++ [edge]) := by
  obtain ⟨first, last, row⟩ := h
  refine ⟨first, ?_, ?_⟩
  · rw [List.length_append, List.length_singleton, ← Nat.add_assoc, last]
  · rw [List.map_append, row, List.length_append, List.length_singleton, List.range'_1_concat,
      last, ← next]
    rfl

theorem tail (h : Window newest (edge :: edges)) : Window newest edges := by
  obtain ⟨first, last, row⟩ := h
  rw [List.map_cons, List.length_cons, List.range'_succ] at row
  refine ⟨first + 1, ?_, (List.cons.inj row).2⟩
  rw [List.length_cons] at last
  omega

/-- The oldest edge is as far behind the newest one as there are others. -/
theorem oldest (h : Window newest (edge :: edges)) : edge.sequence + edges.length = newest := by
  obtain ⟨first, last, row⟩ := h
  rw [List.map_cons, List.length_cons, List.range'_succ] at row
  rw [List.length_cons] at last
  rw [(List.cons.inj row).1]
  omega

theorem eq_range' (h : Window newest edges) :
    edges.map Edge.sequence = List.range' (newest + 1 - edges.length) edges.length := by
  obtain ⟨first, last, row⟩ := h
  rw [← last, Nat.add_sub_cancel]
  exact row

end Window

/-- Edges that were fired are taken, queued or dropped, and the queue is the newest of them. -/
structure Queued (taken : Nat) (k : Simulation.Backlog) : Prop where
  short : k.edges.length ≤ edgeQueueDepth
  window : Window k.fired k.edges
  conserved : k.fired = taken + k.edges.length + k.dropped

namespace Queued

variable {taken : Nat} {b : SimBoard}

theorem push (h : Queued taken b.backlog) : Queued taken b.pushEdge.backlog := by
  obtain ⟨short, window, conserved⟩ := h
  unfold SimBoard.pushEdge
  dsimp only
  by_cases room : b.edges.length < edgeQueueDepth
  · rw [if_pos room]
    refine ⟨?_, window.snoc rfl, ?_⟩
    · show (b.edges ++ [_]).length ≤ edgeQueueDepth
      rw [List.length_append]
      exact room
    · show b.edgeSequence + 1 = taken + (b.edges ++ [_]).length + b.droppedEdges
      have counted : b.edgeSequence = taken + b.edges.length + b.droppedEdges := conserved
      rw [List.length_append, List.length_singleton]
      omega
  · rw [if_neg room]
    -- A full queue loses its first edge, so the window moves on by one.
    cases queue : b.edges with
    | nil =>
        rw [queue] at room
        exact absurd (Nat.zero_lt_succ 3) room
    | cons oldest rest =>
        simp only [SimBoard.backlog, queue, List.length_cons] at short window conserved
        refine ⟨?_, window.tail.snoc rfl, ?_⟩
        · show (rest ++ [_]).length ≤ edgeQueueDepth
          rw [List.length_append]
          exact short
        · show b.edgeSequence + 1 = taken + (rest ++ [_]).length + (b.droppedEdges + 1)
          rw [List.length_append, List.length_singleton]
          omega

theorem pop (h : Queued taken b.backlog) {edge : Edge} {rest : List Edge}
    (queue : b.edges = edge :: rest) :
    Queued (taken + 1) { b with edges := rest }.backlog := by
  obtain ⟨short, window, conserved⟩ := h
  simp only [SimBoard.backlog, queue, List.length_cons] at short window conserved
  refine ⟨Nat.le_of_succ_le short, window.tail, ?_⟩
  show b.edgeSequence = taken + 1 + rest.length + b.droppedEdges
  omega

theorem act (rig : Rig) (h : Queued taken rig.board.backlog) (action : Action) :
    Queued taken (rig.act action).board.backlog :=
  rig.backlog_keeps action (fun _ _ h => ⟨h.short, h.window, h.conserved⟩) (fun _ h => h.push) h

theorem run {rig : Rig} (h : Queued taken rig.board.backlog) (schedule : List Action) :
    Queued taken (rig.run schedule).board.backlog := by
  induction schedule generalizing rig with
  | nil => exact h
  | cons action rest ih => exact ih (act rig h action)

end Queued

/-! ### The accounts of a run -/

open Controller (Books)

/-- The books agree with the queue, when these edges have been observed. -/
structure Accounted (seen : List Edge) (books : Books) (k : Simulation.Backlog) : Prop where
  queued : Queued seen.length k
  cycles : books.cycles = seen.length
  unseen : seen = [] → books.missed = 0 ∧ books.last = none
  /-- From the first observed edge to the last every number is that of an observed edge or of a
  missed one. -/
  spanned : ∀ first ∈ seen.head?, ∀ last ∈ seen.getLast?, books.last = some last.sequence ∧
    books.missed + seen.length + first.sequence = last.sequence + 1
  ordered : seen.Pairwise (·.sequence < ·.sequence)
  /-- What has been observed is older than what is queued. -/
  older : ∀ edge ∈ seen, edge.sequence + k.edges.length ≤ k.fired
  newest : k.edges = [] → ∀ last ∈ seen.getLast?, last.sequence = k.fired

namespace Accounted

variable {seen : List Edge} {books : Books}

theorem push {b : SimBoard} (h : Accounted seen books b.backlog) :
    Accounted seen books b.pushEdge.backlog := by
  obtain ⟨queue, edges, short⟩ := b.edges_pushEdge
  have fired := b.fired_pushEdge
  refine ⟨h.queued.push, h.cycles, h.unseen, h.spanned, h.ordered, ?_, ?_⟩
  · intro edge mem
    have older : edge.sequence + b.edges.length ≤ b.edgeSequence := h.older edge mem
    show edge.sequence + b.pushEdge.edges.length ≤ b.pushEdge.edgeSequence
    rw [edges, fired, List.length_append, List.length_singleton]
    omega
  · intro none
    have none : b.pushEdge.edges = [] := none
    rw [edges] at none
    exact absurd none (List.append_ne_nil_of_right_ne_nil _ (List.cons_ne_nil _ _))

theorem act (rig : Rig) (h : Accounted seen books rig.board.backlog) (action : Action) :
    Accounted seen books (rig.act action).board.backlog := by
  refine rig.backlog_keeps action ?_ (fun _ h => h.push) h
  intro k inbound h
  have queued : Queued seen.length { k with inbound } :=
    ⟨h.queued.short, h.queued.window, h.queued.conserved⟩
  exact ⟨queued, h.cycles, h.unseen, h.spanned, h.ordered, h.older, h.newest⟩

/-- A cycle takes the oldest edge and finds out how many it has missed. -/
theorem cycle {c : Controller SimBoard} {edge : Edge} {rest : List Edge}
    (h : Accounted seen c.books c.board.backlog) (queue : c.board.edges = edge :: rest) :
    Accounted (seen ++ [edge])
      ⟨c.books.cycles + 1, c.books.missed + c.missedBefore edge, some edge.sequence⟩
      { c.board with edges := rest }.backlog := by
  have window := h.queued.window
  have queued := h.queued.pop queue
  have edges : c.board.backlog.edges = edge :: rest := queue
  rw [edges] at window
  have oldest : edge.sequence + rest.length = c.board.backlog.fired := window.oldest
  have older : ∀ e ∈ seen, e.sequence < edge.sequence := by
    intro e mem
    have behind := h.older e mem
    rw [edges, List.length_cons] at behind
    omega
  refine ⟨?_, ?_, ?_, ?_, ?_, ?_, ?_⟩
  · rw [List.length_append]
    exact queued
  · rw [List.length_append, h.cycles]
    rfl
  · intro none
    exact absurd none (List.append_ne_nil_of_right_ne_nil _ (List.cons_ne_nil _ _))
  · intro first isFirst last isLast
    rw [List.getLast?_concat] at isLast
    obtain rfl := Option.some.inj isLast
    refine ⟨rfl, ?_⟩
    rw [List.length_append, List.length_singleton]
    rcases List.eq_nil_or_concat seen with rfl | ⟨before, previous, snoc⟩
    · obtain rfl := Option.some.inj isFirst
      obtain ⟨unmissed, fresh⟩ := h.unseen rfl
      have nothing : c.missedBefore edge = 0 := by
        have fresh : c.lastSequence = none := fresh
        rw [Controller.missedBefore, fresh]
      show c.books.missed + c.missedBefore edge + (0 + 1) + edge.sequence = edge.sequence + 1
      omega
    · rw [List.concat_eq_append] at snoc
      subst snoc
      have isFirst : first ∈ (before ++ [previous]).head? := by
        cases before <;> exact isFirst
      obtain ⟨known, sofar⟩ := h.spanned first isFirst previous List.getLast?_concat
      have behind := older previous (by simp)
      have gap : c.missedBefore edge = edge.sequence - previous.sequence - 1 := by
        have known : c.lastSequence = some previous.sequence := known
        rw [Controller.missedBefore, known]
      show c.books.missed + c.missedBefore edge + _ + _ = _
      omega
  · rw [List.pairwise_append]
    refine ⟨h.ordered, List.pairwise_singleton _ _, ?_⟩
    intro e mem e' mem'
    rw [List.mem_singleton.mp mem']
    exact older e mem
  · intro e mem
    show e.sequence + rest.length ≤ c.board.backlog.fired
    rcases List.mem_append.mp mem with mem | mem
    · have behind := older e mem
      omega
    · rw [List.mem_singleton.mp mem]
      exact Nat.le_of_eq oldest
  · intro none last isLast
    rw [List.getLast?_concat] at isLast
    obtain rfl := Option.some.inj isLast
    obtain rfl : rest = [] := none
    exact oldest

theorem poll {c : Controller SimBoard} (h : Accounted seen c.books c.board.backlog) :
    Accounted (seen ++ c.edge?.toList) c.poll.2.books c.poll.2.board.backlog := by
  have pass := c.poll_observes
  generalize c.edge? = observed, c.poll.2 = c' at pass
  cases pass with
  | @cycle edge rest alive queue =>
      rw [Controller.books_syncCycle, Controller.backlog_syncCycle]
      exact h.cycle queue
  | rest _ backlog books =>
      rw [backlog, books, Option.toList_none, List.append_nil]
      exact h

end Accounted

namespace Simulation.Station

variable {s : Station}

theorem accounted_moves (start : Accounted [] s.controller.books s.board.backlog)
    (run : List Move) :
    Accounted (s.observed run) (s.moves run).controller.books (s.moves run).board.backlog :=
  gather_keeps (P := fun seen s => Accounted seen s.controller.books s.board.backlog)
    (fun _ s action h => .act ⟨s.board, s.master⟩ h action) (fun _ _ h => h.poll) start run

/-! ### From the start -/

/-- What is known of the edges of a run, when so many have been fired. -/
structure EdgeLaw (s : Station) (run : List Move) (fired : Nat) : Prop where
  /-- No edge is observed twice, and none out of order. -/
  ordered : (s.observed run).Pairwise (·.sequence < ·.sequence)
  /-- A cycle runs for every edge that is observed. -/
  cycles : (s.moves run).controller.statistics.cycleCount = (s.observed run).length
  conserved : fired = (s.moves run).controller.statistics.cycleCount +
    (s.moves run).board.edges.length + (s.moves run).board.droppedEdges
  short : (s.moves run).board.edges.length ≤ 4
  /-- The queue ends with the newest edge. -/
  consecutive : (s.moves run).board.edges.map Edge.sequence =
    List.range' (fired + 1 - (s.moves run).board.edges.length) (s.moves run).board.edges.length
  missed : ∀ first ∈ (s.observed run).head?, ∀ last ∈ (s.observed run).getLast?,
    ((s.moves run).controller.statistics.missedEdges : Int) =
      (last.sequence - first.sequence + 1) - (s.observed run).length
  unmissed : s.observed run = [] → (s.moves run).controller.statistics.missedEdges = 0
  settled : (s.moves run).board.edges = [] → ∀ first ∈ (s.observed run).head?,
    ((s.moves run).board.droppedEdges : Int) =
      (s.moves run).controller.statistics.missedEdges + (first.sequence - 1)

theorem accounted_start {config : Config} {period : Nat} {before : List Action}
    (h : start config ((Rig.fresh config.safety period).run before) = .ok s) :
    Accounted [] s.controller.books s.board.backlog := by
  obtain ⟨starts, -⟩ := starts_of_start h
  have empty : Queued 0 (Rig.fresh config.safety period).board.backlog :=
    ⟨Nat.zero_le _, .nil 0, rfl⟩
  have queued : Queued 0 s.board.backlog := by
    have same : s.board.backlog = _ := SimBoard.backlog_of_clockwork starts.clockwork
    rw [same]
    exact empty.run before
  have books : s.controller.books = ⟨0, 0, none⟩ := by
    unfold Controller.books
    rw [starts.statistics, starts.lastSequence]
    rfl
  rw [books]
  exact ⟨queued, rfl, fun _ => ⟨rfl, rfl⟩, nofun, .nil, nofun, nofun⟩

theorem fired_start {config : Config} {period : Nat} {before : List Action}
    (h : start config ((Rig.fresh config.safety period).run before) = .ok s) :
    s.board.edgeSequence = steps (before.map Move.act) := by
  obtain ⟨starts, -⟩ := starts_of_start h
  have same := congrArg Backlog.fired (SimBoard.backlog_of_clockwork starts.clockwork)
  have fired := Rig.fired_run (Rig.fresh config.safety period) before
  exact same.trans (fired.trans (Nat.zero_add _))

/--
**Edges are neither observed twice nor lost without a trace.**

The run may begin before the controller is there.  The controller counts what it has missed
between two edges it has observed, and the board what it has dropped; when nothing is queued the
two differ by the edges dropped before the first observation.
-/
theorem edge_law {config : Config} {period : Nat} {before : List Action}
    (h : start config ((Rig.fresh config.safety period).run before) = .ok s) (run : List Move) :
    s.EdgeLaw run (steps (before.map Move.act ++ run)) := by
  have fired : (s.moves run).board.edgeSequence = steps (before.map Move.act ++ run) := by
    rw [fired_moves, fired_start h, steps_append]
  obtain ⟨⟨short, window, conserved⟩, cycles, unseen, spanned, ordered, -, newest⟩ :=
    accounted_moves (accounted_start h) run
  have cycles : (s.moves run).controller.statistics.cycleCount = (s.observed run).length := cycles
  have conserved : (s.moves run).board.edgeSequence = (s.observed run).length +
    (s.moves run).board.edges.length + (s.moves run).board.droppedEdges := conserved
  rw [← fired]
  refine ⟨ordered, cycles, ?_, short, window.eq_range', ?_, fun none => (unseen none).1, ?_⟩
  · rw [cycles]
    exact conserved
  · intro first isFirst last isLast
    have span : (s.moves run).controller.statistics.missedEdges + (s.observed run).length +
      first.sequence = last.sequence + 1 := (spanned first isFirst last isLast).2
    omega
  · intro none first isFirst
    obtain ⟨last, isLast⟩ : ∃ last, last ∈ (s.observed run).getLast? := by
      cases seen : s.observed run with
      | nil =>
          rw [seen] at isFirst
          nomatch isFirst
      | cons edge rest => exact ⟨_, List.getLast?_eq_some_getLast (List.cons_ne_nil edge rest)⟩
    have span : (s.moves run).controller.statistics.missedEdges + (s.observed run).length +
      first.sequence = last.sequence + 1 := (spanned first isFirst last isLast).2
    have caught : last.sequence = (s.moves run).board.edgeSequence := newest none last isLast
    rw [none] at conserved
    rw [List.length_nil] at conserved
    omega

/-- One pass, two steps, and passes until the queue is empty. -/
def overrun : List Move := [.poll, .act .step, .act .step, .poll, .poll, .poll, .poll]

/-- Six edges come before the node is there, so two are gone when it observes its first, and it
misses one more later on. -/
theorem edge_law_overrun : ∃ s,
    start legConfig ((Rig.fresh legConfig.safety 1000000).run (.replicate 6 .step)) = .ok s ∧
      (s.observed overrun).map Edge.sequence = [3, 5, 6, 7, 8] ∧
      (s.moves overrun).controller.statistics.missedEdges = 1 ∧
      (s.moves overrun).board.droppedEdges = 3 := by
  obtain ⟨s, started, numbers, missed, empty, first⟩ : ∃ s,
      start legConfig ((Rig.fresh legConfig.safety 1000000).run (.replicate 6 .step)) = .ok s ∧
        (s.observed overrun).map Edge.sequence = [3, 5, 6, 7, 8] ∧
        (s.moves overrun).controller.statistics.missedEdges = 1 ∧
        (s.moves overrun).board.edges = [] ∧ (s.observed overrun).head? = some ⟨3, 3000000⟩ := by
    refine ⟨_, rfl, ?_, ?_, ?_, ?_⟩ <;> decide +kernel
  have dropped := (edge_law started overrun).settled empty ⟨3, 3000000⟩ first
  rw [missed] at dropped
  exact ⟨s, started, numbers, missed, Int.ofNat.inj dropped⟩

end Simulation.Station
end FieldbusNode
