/-
From which edge the sampling offset counts.

The board measures time from its newest edge.  A cycle runs for the oldest edge of the queue, and
publishes as its sampling offset what the board has measured, in whole microseconds and as far as
16 bits hold them.  The queue is in the order of time and ends with the newest edge
(`Dates.Ordered`), so the two are one edge if no other is queued, and the offset of a cycle that
serves a backlog is short by as much as the newest edge is younger.  That shows in the field unless
both offsets have the same whole microseconds, or there are more of them than the field can hold.
-/
import FieldbusNode.Proofs.Readout
namespace FieldbusNode

open Simulation (SimBoard Rig Action Station Move)

namespace Simulation

/-- The time, the queue of edges, and the time of the newest edge. -/
structure Dates where
  now : Nat
  edges : List Edge
  lastEdgeAt : Nat

/-- The queue ends with the newest edge, which is not in the future, and no edge is younger. -/
structure Dates.Ordered (d : Dates) : Prop where
  past : d.lastEdgeAt ≤ d.now
  older : ∀ edge ∈ d.edges, edge.timestamp ≤ d.lastEdgeAt
  newest : ∀ edge ∈ d.edges.getLast?, edge.timestamp = d.lastEdgeAt

theorem Dates.Ordered.later {d : Dates} (h : d.Ordered) (nanos : Nat) :
    Dates.Ordered { d with now := d.now + nanos } :=
  ⟨Nat.le_trans h.past (Nat.le_add_right _ _), h.older, h.newest⟩

theorem Dates.Ordered.pop {now lastEdgeAt : Nat} {edge : Edge} {rest : List Edge}
    (h : Dates.Ordered ⟨now, edge :: rest, lastEdgeAt⟩) :
    Dates.Ordered ⟨now, rest, lastEdgeAt⟩ := by
  refine ⟨h.past, (List.forall_mem_cons.mp h.older).2, ?_⟩
  intro last isLast
  refine h.newest last ?_
  have isLast : rest.getLast? = some last := isLast
  show (edge :: rest).getLast? = some last
  rw [List.getLast?_cons, isLast, Option.getD_some]

/-- An edge that is fired now comes to the end of the queue. -/
theorem Dates.Ordered.push {d : Dates} (h : d.Ordered) {queue : List Edge} {edge : Edge}
    (fired : edge.timestamp = d.now) (left : queue ⊆ d.edges) :
    Dates.Ordered ⟨d.now, queue ++ [edge], d.now⟩ := by
  refine ⟨Nat.le_refl _, ?_, ?_⟩
  · intro other mem
    rcases List.mem_append.mp mem with mem | mem
    · exact Nat.le_trans (h.older other (left mem)) h.past
    · rw [List.mem_singleton.mp mem]
      exact Nat.le_of_eq fired
  · intro last isLast
    have isLast : (queue ++ [edge]).getLast? = some last := isLast
    rw [List.getLast?_concat] at isLast
    rw [← Option.some.inj isLast]
    exact fired

namespace SimBoard

variable {b b' : SimBoard}

def dates (b : SimBoard) : Dates := ⟨b.now, b.edges, b.lastEdgeAt⟩

theorem dates_of_clockwork (same : b'.clockwork = b.clockwork) : b'.dates = b.dates := by
  have erased := congrArg dates same
  exact erased

theorem dates_latchWatchdog (b : SimBoard) : b.latchWatchdog.dates = b.dates := by
  unfold latchWatchdog
  split <;> rfl

theorem dates_feed (b : SimBoard) : b.feed.dates = b.dates :=
  b.dates_latchWatchdog

theorem dates_advance (b : SimBoard) (nanos : Nat) :
    (b.advance nanos).dates = { b.dates with now := b.now + nanos } := by
  unfold advance
  dsimp only
  rw [dates_latchWatchdog]
  exact Journal.trapIf_leaves (f := dates) (fun _ _ => rfl) _ _ _

/-- The whole microseconds since an edge. -/
def microsSince (b : SimBoard) (edge : Edge) : Nat :=
  Duration.toMicros (b.now - edge.timestamp)

/-- The whole microseconds since an edge, as far as 16 bits hold them. -/
def offsetFrom (b : SimBoard) (edge : Edge) : Nat :=
  min (b.microsSince edge) 65535

theorem read_timestep {edge : Edge} (newest : edge.timestamp = b.lastEdgeAt) :
    Probe.timestep.read b = some (b.offsetFrom edge) := by
  have elapsed : min (Duration.toMicros (Board.sinceEdge b)) uint16Max = b.offsetFrom edge := by
    rw [offsetFrom, microsSince, newest]
    rfl
  have bound : b.offsetFrom edge < 65536 := Nat.lt_succ_of_le (Nat.min_le_right _ _)
  rw [Probe.read, timestepOfNanos, elapsed, UInt16.toNat_ofNat']
  exact congrArg some (Nat.mod_eq_of_lt bound)

theorem microsSince_le {edge newest : Edge} (older : edge.timestamp ≤ newest.timestamp) :
    b.microsSince newest ≤ b.microsSince edge :=
  Nat.div_le_div_right (Nat.sub_le_sub_left older b.now)

theorem offsetFrom_eq_iff {edge newest : Edge} (older : edge.timestamp ≤ newest.timestamp) :
    b.offsetFrom newest = b.offsetFrom edge ↔
      b.microsSince newest = b.microsSince edge ∨ 65535 ≤ b.microsSince newest := by
  have least := b.microsSince_le older
  unfold offsetFrom
  omega

theorem ordered_pushEdge (h : b.dates.Ordered) : b.pushEdge.dates.Ordered := by
  unfold pushEdge
  dsimp only
  split
  · exact h.push rfl (List.Subset.refl _)
  · exact h.push rfl (List.tail_sublist _).subset

end SimBoard

theorem Rig.ordered_act (rig : Rig) (h : rig.board.dates.Ordered) (action : Action) :
    (rig.act action).board.dates.Ordered := by
  have waited (b : SimBoard) (h : b.dates.Ordered) (nanos : Nat) :
      (b.advance nanos).dates.Ordered := by
    rw [SimBoard.dates_advance]
    exact h.later nanos
  cases action with
  | step =>
      exact SimBoard.ordered_pushEdge (waited { rig.board with rx := rig.master.prepared.rx } h _)
  | advance nanos => exact waited rig.board h nanos
  | _ =>
      rw [SimBoard.dates_of_clockwork (rig.clockwork_act rfl)]
      exact h

theorem Rig.ordered_run {rig : Rig} (h : rig.board.dates.Ordered) (schedule : List Action) :
    (rig.run schedule).board.dates.Ordered := by
  induction schedule generalizing rig with
  | nil => exact h
  | cons action rest ih => exact ih (rig.ordered_act h action)

end Simulation

/-! ### Passes and runs -/

namespace Controller

variable {c : Controller SimBoard}

theorem dates_syncCycle (c : Controller SimBoard) (edge : Edge) :
    (c.syncCycle edge).board.dates = c.board.dates :=
  (SimBoard.dates_of_clockwork (c.clockwork_syncCycle edge)).trans c.board.dates_feed

theorem dates_idlePass (c : Controller SimBoard) : c.idlePass.board.dates = c.board.dates := by
  unfold idlePass feed
  dsimp only
  split
  · exact c.board.dates_feed
  · rfl

theorem ordered_poll (h : c.board.dates.Ordered) : c.poll.2.board.dates.Ordered := by
  by_cases alive : c.board.Alive
  · cases queue : c.board.edges with
    | nil =>
        rw [poll_of_empty alive queue, dates_idlePass, SimBoard.dates_advance]
        exact h.later c.idlePoll
    | cons edge rest =>
        rw [poll_of_edge alive queue, dates_syncCycle]
        rw [SimBoard.dates, queue] at h
        exact h.pop
  · rw [poll_of_spent alive]
    have same : c.board.latchWatchdog.dates.Ordered := by rwa [SimBoard.dates_latchWatchdog]
    rw [SimBoard.dates_of_clockwork (clockwork_expire _)]
    exact same

end Controller

namespace Simulation.Station

variable {config : Config} {kind : Kind} {s : Station}

theorem Started.ordered (started : Started config s) : s.board.dates.Ordered := by
  obtain ⟨period, before, h⟩ := started
  obtain ⟨starts, -⟩ := starts_of_start h
  have fresh : (Rig.fresh config.safety period).board.dates.Ordered :=
    ⟨Nat.le_refl 0, nofun, nofun⟩
  have same : s.board.dates = _ := SimBoard.dates_of_clockwork starts.clockwork
  rw [same]
  exact Rig.ordered_run fresh before

theorem ordered_moves (h : s.board.dates.Ordered) (run : List Move) :
    (s.moves run).board.dates.Ordered :=
  moves_keeps (P := fun s => s.board.dates.Ordered)
    (fun s action h => Rig.ordered_act ⟨s.board, s.master⟩ h action)
    (fun _ h => Controller.ordered_poll h) h run

/-- The queue behind a cycle's edge ends with the newest edge. -/
theorem exists_newest (ordered : s.board.dates.Ordered) {edge : Edge}
    (cycle : s.controller.edge? = some edge) : ∃ newest, s.board.edges.getLast? = some newest ∧
      edge.timestamp ≤ newest.timestamp ∧ newest.timestamp = s.board.lastEdgeAt ∧
      (s.board.edges = [edge] → newest = edge) := by
  obtain ⟨rest, queue, -⟩ := Controller.poll_of_observed cycle
  have queue : s.board.edges = edge :: rest := queue
  have first : edge ∈ s.board.edges := by
    rw [queue]
    exact List.mem_cons_self
  have last : s.board.edges.getLast? = some (rest.getLast?.getD edge) := by
    rw [queue, List.getLast?_cons]
  have newest := ordered.newest _ last
  refine ⟨_, last, ?_, newest, ?_⟩
  · rw [newest]
    exact ordered.older edge first
  · intro alone
    obtain rfl : rest = [] := (List.cons.inj (queue.symm.trans alone)).2
    rfl

/--
**The sampling offset counts from the newest edge.**

This is for a leg, a hip or a boom, any run and any cycle behind it, with the edge it runs for.
The queue ends with an edge that is not older, and the timestep field is the time since that one.
It is the time since the edge of the cycle just if both times have the same whole microseconds, or
if both are beyond what the field can hold; so it is right when no other edge is queued.
-/
theorem timestep_from_newest (started : Started config s)
    (named : config.device.id.kind? = some kind) {f : Field}
    (placed : (.timestep, f) ∈ kind.probes) (run : List Move) {edge : Edge}
    (cycle : (s.moves run).controller.edge? = some edge) :
    ∃ newest, (s.moves run).board.edges.getLast? = some newest ∧
      edge.timestamp ≤ newest.timestamp ∧
      (s.moves run).poll.2.board.tx.read? f .u16 = .ok ((s.moves run).board.offsetFrom newest) ∧
      ((s.moves run).poll.2.board.tx.read? f .u16 = .ok ((s.moves run).board.offsetFrom edge) ↔
        (s.moves run).board.microsSince newest = (s.moves run).board.microsSince edge ∨
          65535 ≤ (s.moves run).board.microsSince newest) ∧
      ((s.moves run).board.edges = [edge] →
        (s.moves run).poll.2.board.tx.read? f .u16 =
          .ok ((s.moves run).board.offsetFrom edge)) := by
  obtain ⟨newest, last, older, measured, alone⟩ :=
    exists_newest (ordered_moves started.ordered run) cycle
  have shows : (s.moves run).poll.2.board.tx.read? f .u16 =
      .ok ((s.moves run).board.offsetFrom newest) := by
    have told :=
      tells_shown kind (s.readings .timestep run) (Probe.timestep.read (s.moves run).board)
    rw [← read?_poll started named placed run cycle] at told
    exact told.read _ (SimBoard.read_timestep measured)
  refine ⟨newest, last, older, shows, ?_, ?_⟩
  · rw [shows, Except.ok.injEq, Int.natCast_inj]
    exact SimBoard.offsetFrom_eq_iff older
  · intro single
    rw [shows, alone single]

/-- A cycle that is served a bit more than 120 microseconds late. -/
def late : List Move := [.act .step, .act (.advance 120400)]

/-- A leg that serves its only edge late says how late. -/
theorem timestep_from_newest_late : ∃ s, Started legConfig s ∧
    (s.moves late).controller.edge? = some ⟨1, 1000000⟩ ∧
    (s.moves late).poll.2.board.tx.read? (ActuatorFields.ofJoint .leg).timestep .u16 =
      .ok 120 := by
  obtain ⟨s, started, cycle, single, offset⟩ : ∃ s, Started legConfig s ∧
      (s.moves late).controller.edge? = some ⟨1, 1000000⟩ ∧
      (s.moves late).board.edges = [⟨1, 1000000⟩] ∧
      (s.moves late).board.offsetFrom ⟨1, 1000000⟩ = 120 :=
    ⟨_, ⟨1000000, [], rfl⟩, by decide +kernel, by decide +kernel, by decide +kernel⟩
  have named : legConfig.device.id.kind? = some .leg := rfl
  obtain ⟨newest, -, -, -, -, alone⟩ := timestep_from_newest started named
    (f := (ActuatorFields.ofJoint .leg).timestep) (by decide) late cycle
  have shown := alone single
  rw [offset] at shown
  exact ⟨s, started, cycle, shown⟩

/-- Two edges, and no pass in between. -/
def twice : List Move := [.act .step, .act .step]

/-- A cycle runs for an edge one millisecond ago, and its field says that no time has passed. -/
theorem timestep_of_backlog : ∃ s, Started legConfig s ∧
    (s.moves twice).controller.edge? = some ⟨1, 1000000⟩ ∧ (s.moves twice).board.now = 2000000 ∧
    (s.moves twice).board.offsetFrom ⟨1, 1000000⟩ = 1000 ∧
    (s.moves twice).poll.1.toOption = some (.synced ⟨.idle, .idle⟩) ∧
    ((s.moves twice).poll.2.board.tx.read?
      (ActuatorFields.ofJoint .leg).timestep .u16).toOption = some 0 :=
  ⟨_, ⟨1000000, [], rfl⟩, by decide +kernel, by decide +kernel, by decide +kernel,
    by decide +kernel, by decide +kernel⟩

end Simulation.Station
end FieldbusNode
