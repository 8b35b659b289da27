/-
The cycles of a run, one after another.

A run of a station mixes actions from outside with passes of the loop, and only some
of the passes run a cycle.  Its chronicle keeps the cycles and forgets the rest: the
state each started in, how it sampled the stop line, and the machine it left.

A chronicle is cut between two cycles by cutting the run (`chronicle_split`), so what
is kept along a run can be told at every entry of its chronicle.
-/
import FieldbusNode.Proofs.Outputs
import FieldbusNode.Proofs.Tick.Line
namespace FieldbusNode

open Simulation (SimBoard Rig Action Station Move)

/-- The machine once the stop line was sampled. -/
def Machine.sampled (m : Machine) (asserted : Bool) : Machine :=
  { m with supervisor := m.supervisor.sampleStopLine asserted }

/-- What is told of a synchronized cycle. -/
structure Entry where
  /-- The state the cycle started in. -/
  before : State
  /-- Whether the stop line read asserted when it was sampled. -/
  asserted : Bool
  /-- The machine the cycle left. -/
  machine : Machine
  deriving DecidableEq

namespace Entry

/-- The state the cycle ended in. -/
def after (k : Entry) : State := k.machine.state

/-- Whether the cycle ended in `run` or in `halt`. -/
def Live (k : Entry) : Prop := k.after = .run ∨ k.after = .halt

instance (k : Entry) : Decidable k.Live := inferInstanceAs (Decidable (_ ∨ _))

end Entry

/-! ### One pass -/

namespace Controller

section Board

variable {β : Type} [Board β] (c : Controller β)

/-- The controller of a cycle as it is about to sample the stop line. -/
def fed (edge : Edge) : Controller β :=
  let c := c.accountEdge edge
  (c.sampleInputs (Board.sinceEdge c.board) |>.exchange |>.afterExchange).feed true

/-- What is told of a cycle for an edge. -/
def entry (edge : Edge) : Entry where
  before := c.machine.state
  asserted := Board.lineAsserted (c.fed edge).board
  machine := (c.syncCycle edge).machine

/-- What the next pass adds to the chronicle, if it runs a cycle. -/
def told? : Option Entry :=
  c.cycle?.map fun (ready, edge) => ready.entry edge

theorem readied_eq (edge : Edge) : c.readied edge = (c.fed edge).sampleStopLine := rfl

theorem machine_fed (edge : Edge) : (c.fed edge).machine = c.machine := rfl

/-- The machine a tick finds has just sampled the stop line. -/
theorem machine_readied (edge : Edge) :
    (c.readied edge).machine = c.machine.sampled (Board.lineAsserted (c.fed edge).board) := by
  rw [readied_eq, sampleStopLine, machine_fed, Machine.sampled]

end Board

end Controller

/-! ### The line of a simulated board -/

namespace Simulation.SimBoard

/-- Whether the stop line is asserted by this node, and whether it is from outside. -/
def line (b : SimBoard) : Bool × Bool := (b.selfAsserted, b.externalStop)

theorem line_of_wiring {b b' : SimBoard} (h : b'.wiring = b.wiring) : b'.line = b.line := by
  have erased := congrArg line h
  exact erased

end Simulation.SimBoard

theorem Actuator.Monitor.Driven.line {m m' : Actuator.Monitor} {b b' : SimBoard}
    (driven : m.Driven b m' b') : b'.line = b.line := by
  cases driven with
  | rests => rfl
  | traps => rfl
  | refused => exact SimBoard.line_of_wiring (SimBoard.wiring_noteIf b _ _)
  | takes => rfl

/-- The line of the board a device is mounted on. -/
def Mounted.line (p : Mounted SimBoard) : Bool × Bool := p.board.line

theorem Mounted.wired : Plant.Wired Mounted.line where
  asserted p := Bool.or_comm _ _
  note _ _ := rfl
  enableOutputs := by
    intro ⟨device, b⟩
    cases device <;> rfl
  disableOutputs := by
    intro ⟨device, b⟩
    cases device <;> rfl
  updateOutputs := by
    intro data ⟨device, b⟩
    cases device with
    | actuator joint m => exact (m.commandCurrent_driven data.currentCommand b).line
    | boom | imu => rfl
  resetError _ := rfl
  runHalt := by
    intro ⟨device, b⟩
    cases device with
    | actuator joint m => exact (m.haltStep_driven b).line
    | boom | imu => rfl
  releaseLine _ := rfl

theorem Device.line_updateInputs (d : Device) (sinceEdge : Nat) (data : ProcessData)
    (b : SimBoard) : (d.updateInputs sinceEdge data b).2.2.line = b.line := by
  rcases d.wiring_updateInputs sinceEdge data b with same | fetched
  · exact SimBoard.line_of_wiring same
  · rw [SimBoard.line_of_wiring fetched]
    rfl

theorem Device.line_setUp (d : Device) (data : ProcessData) (b : SimBoard) :
    (d.setUp data b).2.line = b.line := by
  rw [setUp_leaves (f := SimBoard.line) fun _ _ => rfl]
  cases d with
  | boom | imu => rfl
  | actuator joint m =>
      rw [powerUp_actuator]
      rfl

namespace Simulation.Rig

theorem selfAsserted_act (rig : Rig) (action : Action) :
    (rig.act action).board.selfAsserted = rig.board.selfAsserted := by
  cases action with
  | step =>
      have stepped := (SimBoard.wiring_pushEdge _).trans (SimBoard.wiring_advance
        { rig.board with rx := rig.master.prepared.rx } rig.master.prepared.period)
      exact congrArg Prod.fst (SimBoard.line_of_wiring stepped)
  | advance nanos =>
      exact congrArg Prod.fst (SimBoard.line_of_wiring (SimBoard.wiring_advance _ _))
  | setInbound f t value =>
      simp only [act]
      split <;> rfl
  | _ => rfl

theorem selfAsserted_run (rig : Rig) (schedule : List Action) :
    (rig.run schedule).board.selfAsserted = rig.board.selfAsserted := by
  induction schedule generalizing rig with
  | nil => rfl
  | cons action rest ih => exact (ih (rig.act action)).trans (selfAsserted_act rig action)

end Simulation.Rig

namespace Controller

variable (c : Controller SimBoard)

theorem line_fed (edge : Edge) : (c.fed edge).board.line = c.board.line := by
  have accounted : (c.accountEdge edge).board.line = c.board.line :=
    SimBoard.line_of_wiring (wiring_accountEdge c edge)
  have sampled (c : Controller SimBoard) (sinceEdge : Nat) :
      (c.sampleInputs sinceEdge).board.line = c.board.line :=
    c.device.line_updateInputs sinceEdge c.data c.board
  have exchanged (c : Controller SimBoard) :
      c.exchange.afterExchange.board.line = c.board.line := by
    unfold afterExchange
    cases device : c.exchange.device <;> rfl
  have fed (c : Controller SimBoard) : (c.feed true).board.line = c.board.line :=
    SimBoard.line_of_wiring (SimBoard.wiring_feed c.board)
  rw [Controller.fed, fed, exchanged, sampled, accounted]

theorem selfAsserted_start {config : Config} {b b' : SimBoard} {c : Controller SimBoard}
    (h : start config b = (.ok c, b')) : c.board.selfAsserted = b.selfAsserted := by
  obtain ⟨kind, data, board, -, setUp, rfl⟩ := eq_of_start h
  have selected := (Device.ofKind kind config.limits).line_setUp (.ofLayout kind.layout)
    (Journal.note (.deviceSelected config.device.id kind) b)
  rw [setUp] at selected
  exact congrArg Prod.fst selected

/-- What a pass tells, and what it does to the machine and to the own assertion of the line. -/
inductive Told (c : Controller SimBoard) : Option Entry → Controller SimBoard → Prop
  /-- A cycle, on a board that has the line as it was before the pass. -/
  | cycle {k : Entry} {c' : Controller SimBoard} {data : ProcessData} {p p' : Mounted SimBoard}
      (alive : c.board.watchdogExpired = false) (before : k.before = c.machine.state)
      (line : p.line = c.board.line) (asserted : k.asserted = Plant.lineAsserted p)
      (way : Machine.Way (c.machine.sampled k.asserted) data p k.machine p')
      (machine : c'.machine = k.machine) (line' : c'.board.line = p'.line) :
      Told c (some k) c'
  /-- Nothing, and as long as the watchdog is alive the own assertion stays. -/
  | rest {c' : Controller SimBoard} (machine : c'.machine = c.machine)
      (own : c'.board.watchdogExpired = false → c.board.watchdogExpired = false ∧
        c'.board.selfAsserted = c.board.selfAsserted) : Told c none c'

variable {c}

theorem Told.before {k : Entry} {c' : Controller SimBoard} (told : Told c (some k) c') :
    k.before = c.machine.state := by
  cases told with
  | cycle _ before => exact before

theorem Told.machine {k : Entry} {c' : Controller SimBoard} (told : Told c (some k) c') :
    c'.machine = k.machine := by
  cases told with
  | cycle _ _ _ _ _ machine => exact machine

theorem alive_of_latched (alive : c.board.latchWatchdog.watchdogExpired = false) :
    c.board.watchdogExpired = false := by
  rw [Bool.eq_false_iff]
  intro expired
  rw [SimBoard.latchWatchdog_of_expired expired, expired] at alive
  nomatch alive

theorem line_readied (c : Controller SimBoard) (edge : Edge) :
    (c.readied edge).board.line = c.board.line := by
  rw [readied_eq, ← c.line_fed edge]
  exact SimBoard.line_of_wiring (SimBoard.wiring_noteAll _ _)

theorem told_syncs {ready : Controller SimBoard} {edge : Edge}
    (cycle : c.cycle? = some (ready, edge)) : Told c c.told? (ready.syncCycle edge) := by
  obtain ⟨rest, alive, -, made⟩ := eq_of_cycle? cycle
  have machine : ready.machine = c.machine := by rw [made]
  have line : ready.board.line = c.board.line := by
    rw [made]
    exact SimBoard.line_of_wiring (SimBoard.wiring_latchWatchdog c.board)
  have looked : (ready.fed edge).board.line = (ready.readied edge).board.line := by
    rw [line_fed, line_readied]
  have way := (ready.readied edge).tick_way
  rw [machine_readied, machine] at way
  have same : (ready.readied edge).mounted.line = c.board.line :=
    (ready.line_readied edge).trans line
  rw [told?, cycle]
  refine .cycle (alive_of_latched alive) (congrArg Machine.state machine) same ?_ way rfl
    (SimBoard.line_of_wiring (ready.wiring_syncCycle edge))
  -- Only notes come between the sample and the tick, which finds the line as it was sampled.
  show Board.lineAsserted _ = Board.lineAsserted _
  have same := congrArg (fun line : Bool × Bool => line.2 || line.1) looked
  exact same

theorem expired_expires (expired : (Board.expired c.board).1 = true) :
    { c with board := (Board.expired c.board).2 }.expire.2.board.watchdogExpired = true := by
  rw [watchdogExpired_expire]
  exact expired

theorem told_expires (c : Controller SimBoard) (expired : (Board.expired c.board).1 = true) :
    Told c none { c with board := (Board.expired c.board).2 }.expire.2 := by
  refine .rest rfl ?_
  intro alive
  rw [expired_expires expired] at alive
  nomatch alive

theorem told_waits (c : Controller SimBoard) (alive : (Board.expired c.board).1 = false) :
    Told c none { c with
      board := (Board.awaitEdge c.idlePoll (Board.expired c.board).2).2 }.idlePass := by
  have fed (c : Controller SimBoard) : (c.feed false).machine = c.machine ∧
      (c.feed false).board.line = c.board.line := by
    unfold feed
    split
    · exact ⟨rfl, SimBoard.line_of_wiring (SimBoard.wiring_feed c.board)⟩
    · exact ⟨rfl, rfl⟩
  refine .rest (fed _).1 fun _ => ⟨alive_of_latched alive, ?_⟩
  have waited := (SimBoard.wiring_awaitEdge c.board.latchWatchdog c.idlePoll).trans
    (SimBoard.wiring_latchWatchdog c.board)
  exact congrArg Prod.fst ((fed _).2.trans (SimBoard.line_of_wiring waited))

theorem told?_of_waiting (alive : (Board.expired c.board).1 = false)
    (quiet : (Board.awaitEdge c.idlePoll (Board.expired c.board).2).1 = none) :
    c.told? = none := by
  unfold told? cycle?
  simp only [alive, Bool.false_eq_true, if_false]
  split
  · simp_all
  · rfl

/-- **Every pass is told.** -/
theorem poll_told (c : Controller SimBoard) : Told c c.told? c.poll.2 := by
  have pass := c.poll_pass
  generalize c.poll.1 = outcome, c.poll.2 = c' at pass
  cases pass with
  | expires expired =>
      have none : c.told? = none := by simp [told?, cycle?, expired]
      rw [none]
      exact c.told_expires expired
  | syncs alive cycle => exact told_syncs cycle
  | waits alive quiet =>
      rw [told?_of_waiting alive quiet]
      exact c.told_waits alive

end Controller

/-! ### Runs -/

namespace Simulation.Station

/-- The cycles of a run, in order. -/
def chronicle (s : Station) : List Move → List Entry
  | [] => []
  | .act action :: rest => (s.act action).chronicle rest
  | .poll :: rest => s.controller.told?.toList ++ s.poll.2.chronicle rest

theorem chronicle_eq (s : Station) (run : List Move) :
    s.chronicle run = s.gather Controller.told? run := by
  induction run generalizing s with
  | nil => rfl
  | cons move rest ih =>
      cases move with
      | act action => exact ih (s.act action)
      | poll => exact congrArg (s.controller.told?.toList ++ ·) (ih s.poll.2)

/-- **A chronicle is cut before an entry by cutting the run before the pass it tells of.** -/
theorem chronicle_split {s : Station} {run : List Move} {earlier later : List Entry} {k : Entry}
    (h : s.chronicle run = earlier ++ k :: later) : ∃ before after, run = before ++ .poll :: after ∧
      s.chronicle before = earlier ∧ (s.moves before).controller.told? = some k := by
  rw [chronicle_eq] at h
  obtain ⟨before, after, cut, same, told⟩ := gather_split h
  exact ⟨before, after, cut, (s.chronicle_eq before).trans same, told⟩

/-- What is kept by actions and by passes, with what the passes tell, is kept along a run. -/
theorem chronicle_keeps {P : List Entry → Station → Prop} {s : Station}
    (act : ∀ seen s action, P seen s → P seen (s.act action))
    (poll : ∀ seen s, P seen s → P (seen ++ s.controller.told?.toList) s.poll.2)
    {seen : List Entry} (start : P seen s) (run : List Move) :
    P (seen ++ s.chronicle run) (s.moves run) := by
  rw [chronicle_eq]
  exact gather_keeps act poll start run

/-! ### The start -/

theorem Started.selfAsserted {config : Config} {s : Station} (started : Started config s) :
    s.board.selfAsserted = false := by
  obtain ⟨period, before, h⟩ := started
  have quiet : ((Rig.fresh config.safety period).run before).board.selfAsserted = false :=
    Rig.selfAsserted_run _ before
  obtain ⟨_, found, -⟩ := controller_of_start h
  exact (Controller.selfAsserted_start found).trans quiet

end Simulation.Station
end FieldbusNode
