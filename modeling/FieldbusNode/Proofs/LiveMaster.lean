/-
A live master is never taken for a stalled one.

Every step of the master overwrites the inbound record, so all the edges of a backlog
are served against the latest one, and the counter in it seems to stand still.  But a
backlog is short.  A step makes the counter differ from what the machine has seen last,
so the first edge served after it ends the stall, and no more than three others are
left; an edge that is served against a counter already seen is one of these.  The count
of the stall and the length of the queue are never more than three together
(`Machine.Tracks`) unless a step lies between, and ten would be needed.

This needs the counter to come back to the same number in no fewer steps than a 16-bit
number has values.
-/
import Mathlib.Data.List.Induction
import FieldbusNode.Proofs.Chronicle
import FieldbusNode.Proofs.Edges
import FieldbusNode.Proofs.Inbound
import FieldbusNode.Proofs.Liveness
namespace FieldbusNode

open Simulation (SimBoard Rig Action Station Move Master edgeQueueDepth steps)

/-! ### One tick -/

namespace Machine

/-- How far a machine is behind the counter of the master, when the master has stepped so often
since the last observed edge and so many edges are queued. -/
structure Tracks (counter : UInt16) (since queued : Nat) (m : Machine) : Prop where
  limit : m.supervisor.master.limit = masterStallLimit
  short : m.supervisor.master.errors ≤ 3
  unrecorded : ∀ r ∈ m.history, r.reason ≠ .masterWatchdog
  reference : m.state = .run → counter = m.supervisor.master.previous + UInt16.ofNat since
  backlog : m.state = .run → since = 0 → m.supervisor.master.errors + queued ≤ 3

namespace Tracks

variable {counter : UInt16} {since queued : Nat} {m m' : Machine}

theorem step (h : Tracks counter since queued m) (queued' : Nat) :
    Tracks (counter + 1) (since + 1) queued' m := by
  refine ⟨h.limit, h.short, h.unrecorded, ?_, ?_⟩
  · intro here
    rw [h.reference here, UInt16.ofNat_add, UInt16.add_assoc]
    rfl
  · intro _ none
    nomatch none

/-- Outside of `run` no reference is kept. -/
theorem of_away (h : Tracks counter since queued m) (away : m.state ≠ .run) (counter' : UInt16)
    (since' queued' : Nat) : Tracks counter' since' queued' m :=
  ⟨h.limit, h.short, h.unrecorded, fun here => absurd here away, fun here => absurd here away⟩

theorem sampled (h : Tracks counter since queued m) (asserted : Bool) :
    Tracks counter since queued (m.sampled asserted) :=
  ⟨h.limit, h.short, h.unrecorded, h.reference, h.backlog⟩

/-- Observing the counter leaves a stall that is as short as what is left of the backlog allows. -/
theorem observe (h : Tracks counter since (queued + 1) m) (here : m.state = .run)
    (paced : since < 65536) (short : queued ≤ 3) :
    (m.supervisor.master.observe counter).errors + queued ≤ 3 := by
  have reference := h.reference here
  by_cases still : since = 0
  · have backlog := h.backlog here still
    have counted : (m.supervisor.master.observe counter).errors ≤
        m.supervisor.master.errors + 1 := by
      unfold Liveness.observe
      dsimp only
      split
      · exact Nat.min_le_left _ _
      · exact Nat.zero_le _
    omega
  · have moved : counter ≠ m.supervisor.master.previous := by
      intro same
      rw [same] at reference
      have zero : UInt16.ofNat since = 0 := UInt16.left_eq_add.mp reference
      have lost : since % 65536 = 0 := congrArg UInt16.toNat zero
      rw [Nat.mod_eq_of_lt paced] at lost
      exact still lost
    have forgotten : (m.supervisor.master.observe counter).errors = 0 := if_neg moved
    omega

/-- Against a counter that it follows, a machine does not take the master for stalled. -/
theorem lively (h : Tracks counter since (queued + 1) m) (here : m.state = .run)
    (paced : since < 65536) (short : queued ≤ 3) :
    (m.supervisor.observeMaster counter).masterStalled = false := by
  have few := h.observe here paced short
  have limit : (m.supervisor.master.observe counter).limit = masterStallLimit := h.limit
  have within : ¬(m.supervisor.master.observe counter).limit ≤
      (m.supervisor.master.observe counter).errors := by
    rw [limit, masterStallLimit]
    omega
  exact decide_eq_false within

/-- A tick for an edge of the queue. -/
theorem tick {σ : Type} [Plant σ] {data : ProcessData} {s s' : σ}
    (h : Tracks counter since (queued + 1) m) (way : Way m data s m' s')
    (against : data.masterCounter = counter) (paced : since < 65536) (short : queued ≤ 3) :
    Tracks counter 0 queued m' := by
  have limit : m'.supervisor.master.limit = masterStallLimit := way.masterLimit_eq.trans h.limit
  have recorded (r : TransitionRecord) (mem : r ∈ m'.history) (named : r.reason = .masterWatchdog) :
      m.state = .run ∧ (m.supervisor.observeMaster counter).masterStalled = true := by
    rcases way.extends.history r mem with old | grounded
    · exact absurd named (h.unrecorded r old)
    · rw [← against]
      exact grounded.masterWatchdog named
  by_cases here : m.state = .run
  · have observed := way.master_of_run here
    rw [against] at observed
    have few := h.observe here paced short
    rw [← observed] at few
    refine ⟨limit, Nat.le_of_add_right_le few, ?_, ?_, fun _ _ => few⟩
    · intro r mem named
      obtain ⟨-, stalled⟩ := recorded r mem named
      rw [h.lively here paced short] at stalled
      nomatch stalled
    · intro _
      rw [observed]
      exact (UInt16.add_zero counter).symm
  · have kept := way.stall_of_away here
    refine ⟨limit, Nat.le_trans kept h.short, ?_, ?_, ?_⟩
    · intro r mem named
      exact here (recorded r mem named).1
    · intro running
      rw [way.master_of_entered here running, against]
      exact (UInt16.add_zero counter).symm
    · intro running _
      rw [way.master_of_entered here running]
      show 0 + queued ≤ 3
      omega

end Tracks
end Machine

theorem Controller.tracks_syncCycle {c : Controller SimBoard} (valid : c.data.layout.Valid)
    {since queued : Nat} (h : c.machine.Tracks c.board.rx.masterCounter since (queued + 1))
    (paced : since < 65536) (short : queued ≤ 3) (edge : Edge) :
    (c.syncCycle edge).machine.Tracks c.board.rx.masterCounter 0 queued := by
  have way := (c.readied edge).tick_way
  rw [machine_readied] at way
  exact (h.sampled _).tick way (masterCounter_readied valid edge) paced short

/-! ### One move -/

namespace Simulation

/-- The inbound record on the board carries the counter of the master. -/
def Rig.Written (rig : Rig) : Prop := rig.board.rx.masterCounter = rig.master.counter

theorem Rig.counter_act (rig : Rig) {action : Action} (other : action.isStep = false) :
    (rig.act action).master.counter = rig.master.counter := by
  cases action with
  | step => nomatch other
  | setInbound f t value =>
      simp only [act]
      split <;> rfl
  | _ => rfl

theorem Rig.inbound_step (rig : Rig) : (rig.act .step).board.rx = rig.master.prepared.rx := by
  obtain ⟨b, fired, same⟩ := rig.step_board
  rw [fired, SimBoard.rx_pushEdge]
  exact congrArg Backlog.inbound same

theorem Rig.Written.act {rig : Rig} (h : rig.Written) (action : Action) :
    (rig.act action).Written := by
  unfold Written
  cases step : action.isStep with
  | true =>
      obtain rfl := Action.eq_step step
      rw [rig.inbound_step]
      exact rig.master.masterCounter_prepared
  | false =>
      have inbound : (rig.act action).board.rx = rig.board.rx :=
        congrArg Backlog.inbound (rig.backlog_act step)
      rw [inbound, rig.counter_act step]
      exact h

theorem Rig.Written.run {rig : Rig} (h : rig.Written) (schedule : List Action) :
    (rig.run schedule).Written := by
  induction schedule generalizing rig with
  | nil => exact h
  | cons action rest ih => exact ih (h.act action)

namespace Station

/-- The machine of a station follows the counter of the master. -/
structure Tracked (since : Nat) (s : Station) : Prop where
  layout : s.controller.data.layout.Valid
  written : Rig.Written ⟨s.board, s.master⟩
  tracks : s.controller.machine.Tracks s.master.counter since s.board.edges.length

variable {s : Station} {since : Nat}

theorem Tracked.act (h : Tracked since s) {action : Action}
    (moving : action = .step → s.master.frozen = false) :
    Tracked (since + steps [.act action]) (s.act action) := by
  refine ⟨h.layout, h.written.act action, ?_⟩
  cases step : action.isStep with
  | true =>
      obtain rfl := Action.eq_step step
      have counter : (s.act .step).master.counter = s.master.counter + 1 :=
        if_neg (by rw [moving rfl]; exact Bool.false_ne_true)
      rw [counter]
      exact h.tracks.step _
  | false =>
      have none : steps [.act action] = 0 := by simp [steps, Move.isStep, step]
      have counter : (s.act action).master.counter = s.master.counter :=
        Rig.counter_act ⟨s.board, s.master⟩ step
      have edges : (s.act action).board.edges = s.board.edges :=
        congrArg Backlog.edges (Rig.backlog_act ⟨s.board, s.master⟩ step)
      rw [none, counter, edges]
      exact h.tracks

theorem layout_poll (h : s.controller.data.layout.Valid) :
    s.poll.2.controller.data.layout.Valid := by
  have same : s.poll.2.controller.data.layout = s.controller.data.layout :=
    s.controller.poll_pass.layout
  rw [same]
  exact h

theorem Tracked.of_away (h : Tracked since s) (away : s.state ≠ .run) : Tracked 0 s :=
  ⟨h.layout, h.written, h.tracks.of_away away _ _ _⟩

/-- A pass that observes nothing. -/
theorem Tracked.rest (h : Tracked since s) (none : s.controller.edge? = none) :
    Tracked since s.poll.2 ∧ s.poll.2.state = s.state := by
  have layout := layout_poll h.layout
  have pass := s.controller.poll_observes
  rw [none] at pass
  cases pass with
  | rest machine backlog =>
      have edges : s.poll.2.board.edges = s.board.edges := congrArg Backlog.edges backlog
      have inbound : s.poll.2.board.rx = s.board.rx := congrArg Backlog.inbound backlog
      have machine : s.poll.2.controller.machine = s.controller.machine := machine
      refine ⟨⟨layout, ?_, ?_⟩, congrArg Machine.state machine⟩
      · show s.poll.2.board.rx.masterCounter = _
        rw [inbound]
        exact h.written
      · rw [machine, edges]
        exact h.tracks

/-- A pass that observes an edge. -/
theorem Tracked.cycle (h : Tracked since s) (short : s.board.edges.length ≤ edgeQueueDepth)
    (paced : since < 65536) {edge : Edge} (some : s.controller.edge? = some edge) :
    Tracked 0 s.poll.2 := by
  obtain ⟨rest, queue, made⟩ := Controller.poll_of_observed some
  have made : s.poll.2.controller = _ := made
  have backlog : s.poll.2.board.backlog = { s.board with edges := rest }.backlog := by
    show s.poll.2.controller.board.backlog = _
    rw [made]
    exact Controller.backlog_syncCycle _ edge
  have edges : s.poll.2.board.edges = rest := congrArg Backlog.edges backlog
  have inbound : s.poll.2.board.rx = s.board.rx := congrArg Backlog.inbound backlog
  have queued : s.board.edges = edge :: rest := queue
  have written : s.board.rx.masterCounter = s.master.counter := h.written
  have tracks := h.tracks
  rw [queued, List.length_cons] at short tracks
  rw [← written] at tracks
  refine ⟨layout_poll h.layout, ?_, ?_⟩
  · show s.poll.2.board.rx.masterCounter = _
    rw [inbound]
    exact written
  · rw [made, edges]
    show Machine.Tracks s.master.counter 0 rest.length _
    rw [← written]
    exact Controller.tracks_syncCycle (c := { s.controller with
      board := { s.board with edges := rest } }) h.layout tracks paced
      (Nat.le_of_succ_le_succ short) edge

/-! ### Runs -/

/-- The master is alive along a run: every step finds its counter moving, and between two passes
that observe an edge, with none that does in between, it steps less often than the counter has
values. -/
structure Lively (s : Station) (run : List Move) : Prop where
  moving : ∀ before after, run = before ++ .act .step :: after →
    (s.moves before).master.frozen = false
  paced : ∀ before gap after, run = before ++ .poll :: (gap ++ .poll :: after) →
    (s.moves before).controller.edge?.isSome = true →
    (s.moves (before ++ [.poll])).observed gap = [] →
    (s.moves (before ++ .poll :: gap)).controller.edge?.isSome = true → steps gap < 65536

variable {run : List Move}

theorem Lively.of_prefix {sofar : List Move} (h : s.Lively run) (begins : sofar <+: run) :
    s.Lively sofar := by
  obtain ⟨later, rfl⟩ := begins
  refine ⟨?_, ?_⟩
  · rintro before after rfl
    exact h.moving before (after ++ later) (by simp)
  · rintro before gap after rfl
    exact h.paced before gap (after ++ later) (by simp)

/-- The moves of a run since the last pass that observed an edge. -/
def SinceEdge (s : Station) (run gap : List Move) : Prop :=
  ∃ before, run = before ++ .poll :: gap ∧ (s.moves before).controller.edge?.isSome = true ∧
    (s.moves (before ++ [.poll])).observed gap = []

variable {gap : List Move}

theorem observed_act (s : Station) (action : Action) : s.observed [.act action] = [] := by
  simp [Station.observed, gather]

theorem SinceEdge.moved (h : s.SinceEdge run gap) {move : Move}
    (none : (s.moves run).observed [move] = []) : s.SinceEdge (run ++ [move]) (gap ++ [move]) := by
  obtain ⟨before, rfl, seen, nothing⟩ := h
  refine ⟨before, by simp, seen, ?_⟩
  have joined : (s.moves (before ++ [.poll])).moves gap = s.moves (before ++ .poll :: gap) := by
    rw [← moves_append, List.append_assoc]
    rfl
  have split := (s.moves (before ++ [.poll])).observed_append gap [move]
  rw [split, nothing, joined, none]
  rfl

theorem sinceEdge_observed (seen : (s.moves run).controller.edge?.isSome = true) :
    s.SinceEdge (run ++ [.poll]) [] :=
  ⟨run, rfl, seen, rfl⟩

theorem Started.untracked {config : Config} (started : Started config s) :
    Tracked 0 s ∧ s.state ≠ .run := by
  obtain ⟨period, before, h⟩ := started
  obtain ⟨starts, master⟩ := starts_of_start h
  have inbound := congrArg SimBoard.rx starts.clockwork
  have fresh : Rig.Written (.fresh config.safety period) := rfl
  have written : Rig.Written ⟨s.board, s.master⟩ := by
    show s.board.rx.masterCounter = s.master.counter
    rw [master]
    exact (congrArg Record.masterCounter inbound).trans (fresh.run before)
  have away : s.state ≠ .run := by
    show s.controller.machine.state ≠ .run
    rw [starts.machine]
    nofun
  refine ⟨⟨starts.layout, written, ?_⟩, away⟩
  rw [starts.machine]
  exact ⟨rfl, Nat.zero_le _, List.forall_mem_nil _, nofun, nofun⟩

theorem Started.short {config : Config} (started : Started config s) (run : List Move) :
    (s.moves run).board.edges.length ≤ edgeQueueDepth := by
  obtain ⟨period, before, h⟩ := started
  exact (accounted_moves (accounted_start h) run).queued.short

/-- **Along a run of a live master the machine follows the counter.**  Until an edge is observed it
is outside of `run`. -/
theorem Started.tracked {config : Config} (started : Started config s) (lively : s.Lively run) :
    (Tracked 0 (s.moves run) ∧ (s.moves run).state ≠ .run) ∨
      ∃ gap, s.SinceEdge run gap ∧ Tracked (steps gap) (s.moves run) := by
  induction run using List.reverseRecOn with
  | nil => exact Or.inl started.untracked
  | append_singleton sofar move ih =>
      have sofarLively := lively.of_prefix (List.prefix_append sofar [move])
      rw [moves_append]
      show (Tracked 0 ((s.moves sofar).move move) ∧ ((s.moves sofar).move move).state ≠ .run) ∨
        ∃ gap, s.SinceEdge (sofar ++ [move]) gap ∧
          Tracked (steps gap) ((s.moves sofar).move move)
      cases move with
      | act action =>
          have moving : action = .step → (s.moves sofar).master.frozen = false := by
            rintro rfl
            exact lively.moving sofar [] rfl
          rcases ih sofarLively with ⟨tracked, away⟩ | ⟨gap, since, tracked⟩
          · exact Or.inl ⟨(tracked.act moving).of_away away, away⟩
          · refine Or.inr ⟨gap ++ [.act action], since.moved (observed_act _ action), ?_⟩
            rw [steps_append]
            exact tracked.act moving
      | poll =>
          cases observed : (s.moves sofar).controller.edge? with
          | none =>
              rcases ih sofarLively with ⟨tracked, away⟩ | ⟨gap, since, tracked⟩
              · obtain ⟨tracked, same⟩ := tracked.rest observed
                refine Or.inl ⟨tracked, ?_⟩
                show (s.moves sofar).poll.2.state ≠ .run
                rw [same]
                exact away
              · have nothing : (s.moves sofar).observed [.poll] = [] := by
                  simp [Station.observed, gather, observed]
                refine Or.inr ⟨gap ++ [.poll], since.moved nothing, ?_⟩
                rw [steps_append]
                exact (tracked.rest observed).1
          | some edge =>
              have seen : (s.moves sofar).controller.edge?.isSome = true := by rw [observed]; rfl
              refine Or.inr ⟨[], sinceEdge_observed seen, ?_⟩
              have short := started.short sofar
              rcases ih sofarLively with ⟨tracked, -⟩ | ⟨gap, ⟨before, rfl, first, nothing⟩, tracked⟩
              · exact tracked.cycle short (by decide) observed
              · have paced := lively.paced before gap [] (by simp) first nothing seen
                exact tracked.cycle short paced observed

/--
**A live master never trips its watchdog.**

In any run of a node on any rig, whatever is commanded, however time passes and whenever it
polls, no transition is ever put down to the master as long as it is alive, and the stall
never counts more than three.  Steps are counted between the two passes that observe the edges.
-/
theorem live_master_trusted {config : Config} (started : Started config s) (lively : s.Lively run)
    {sofar : List Move} (begins : sofar <+: run) :
    (∀ r ∈ (s.moves sofar).controller.machine.history, r.reason ≠ .masterWatchdog) ∧
      (s.moves sofar).controller.machine.supervisor.master.errors ≤ 3 ∧
      ∀ ready edge, (s.moves sofar).controller.cycle? = some (ready, edge) →
        (ready.readied edge).data.masterCounter = (s.moves sofar).master.counter := by
  obtain ⟨since, layout, written, tracks⟩ : ∃ since, Tracked since (s.moves sofar) := by
    rcases started.tracked (lively.of_prefix begins) with ⟨tracked, -⟩ | ⟨gap, -, tracked⟩
    · exact ⟨0, tracked⟩
    · exact ⟨steps gap, tracked⟩
  refine ⟨tracks.unrecorded, tracks.short, ?_⟩
  intro ready edge cycle
  obtain ⟨rest, -, -, made⟩ := Controller.eq_of_cycle? cycle
  have valid : ready.data.layout.Valid := by
    rw [made]
    exact layout
  have inbound : ready.board.rx = (s.moves sofar).board.rx := by
    rw [made]
    exact congrArg Backlog.inbound (s.moves sofar).board.backlog_latchWatchdog
  rw [Controller.masterCounter_readied valid, inbound]
  exact written

/-! ### Short runs -/

theorem unfrozen_moves (moving : s.master.frozen = false)
    (unfrozen : Move.act (.freeze true) ∉ run) : (s.moves run).master.frozen = false := by
  induction run generalizing s with
  | nil => exact moving
  | cons move rest ih =>
      rw [List.mem_cons, not_or] at unfrozen
      refine ih ?_ unfrozen.2
      cases move with
      | poll => exact moving
      | act action =>
          cases action with
          | freeze on =>
              cases on with
              | true => exact absurd rfl unfrozen.1
              | false => rfl
          | setInbound f t value =>
              show (Rig.act _ _).master.frozen = false
              simp only [Rig.act]
              split <;> exact moving
          | _ => exact moving

/-- A master whose counter is never stopped is alive as long as the counter cannot come round. -/
theorem lively_of_unfrozen (moving : s.master.frozen = false)
    (unfrozen : Move.act (.freeze true) ∉ run) (few : steps run < 65536) : s.Lively run := by
  refine ⟨?_, ?_⟩
  · rintro before after rfl
    rw [List.mem_append, not_or] at unfrozen
    exact unfrozen_moves moving unfrozen.1
  · rintro before gap after rfl - - -
    rw [steps_append, steps_cons, steps_append] at few
    omega

/-- A node gets into `run`, then five steps come at once. -/
def backlogged : List Move :=
  [.act (.command State.run.toByte), .act .step, .poll] ++ .replicate 5 (.act .step) ++
    .replicate 4 .poll

/-- The four edges that are left of five steps are all served against the fifth counter. -/
theorem live_master_trusted_backlogged : ∃ s, Started legConfig s ∧ s.Lively backlogged ∧
    (s.moves backlogged).state = .run ∧
    (s.moves backlogged).controller.machine.supervisor.master.errors = 3 ∧
    ∀ r ∈ (s.moves backlogged).controller.machine.history, r.reason ≠ .masterWatchdog := by
  obtain ⟨s, started, moving, running, counted⟩ : ∃ s, Started legConfig s ∧
      s.master.frozen = false ∧ (s.moves backlogged).state = .run ∧
      (s.moves backlogged).controller.machine.supervisor.master.errors = 3 := by
    refine ⟨_, ⟨1000000, [], rfl⟩, ?_, ?_, ?_⟩ <;> decide +kernel
  have lively : s.Lively backlogged :=
    lively_of_unfrozen moving (by simp [backlogged, List.replicate]) (by decide)
  obtain ⟨unrecorded, -, -⟩ := live_master_trusted started lively (List.prefix_refl _)
  exact ⟨s, started, lively, running, counted, unrecorded⟩

end Station
end Simulation
end FieldbusNode
