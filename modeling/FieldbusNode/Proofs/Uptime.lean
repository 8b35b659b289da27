/-
A node that nothing is wrong with keeps running.

What a node does on healthy boards is a matter of its cycles (`Controller.Calm`).  The rest
is time and counting: a node whose edges are served as they come always has fed its watchdog
(`Station.Rested`), follows the counter of its master (`Station.Tracked`), and finds the next
edge to be the one behind the last.  All of it together is kept by whatever takes no time,
and by a step of the master with the pass that serves it (`Station.Steady`).
-/
import FieldbusNode.Proofs.Calm
import FieldbusNode.Proofs.LiveMaster
import FieldbusNode.Proofs.Watchdog
namespace FieldbusNode

open Simulation (SimBoard Rig Action Station Move Master steps)

/-! ### One pass -/

namespace Controller

variable {c : Controller SimBoard} {limits : Limits} {kind : Kind}

theorem Calm.onEdges (h : c.Calm limits kind) (edges : List Edge) :
    { c with board := { c.board with edges } }.Calm limits kind where
  sound := h.sound.congr rfl (fun follows => follows) rfl rfl
  clean := h.clean
  framed := h.framed
  own := h.own
  count := h.count
  live := h.live
  layout := h.layout
  state := h.state

/-- A pass of a calm controller that serves an edge on a healthy board under a run command. -/
theorem Calm.poll (h : c.Calm limits kind) (valid : limits.Valid)
    (healthy : c.board.Healthy limits) (command : c.board.rx.command = some .run)
    (lively : c.machine.state = .run →
      (c.machine.supervisor.observeMaster c.board.rx.masterCounter).masterStalled = false)
    (alive : c.board.Alive) {edge : Edge} {rest : List Edge}
    (queue : c.board.edges = edge :: rest) :
    c.poll.1 = .ok (.synced ⟨c.machine.state, .run⟩) ∧ c.poll.2.Calm limits kind ∧
      c.poll.2.machine.state = .run ∧
      ∀ joint : Joint, joint.kind = kind → c.machine.state = .run →
        c.poll.2.board.motorCurrent.toInt = max (-limits.maxMotorCurrent.toInt)
          (min limits.maxMotorCurrent.toInt c.board.rx.motorCurrent.toInt) := by
  have healthy : { c.board with edges := rest }.Healthy limits := healthy.of_wiring rfl
  obtain ⟨calm, running, carries⟩ :=
    (h.onEdges rest).syncCycle valid healthy command lively edge
  rw [poll_of_edge alive queue]
  refine ⟨?_, calm, running, carries⟩
  rw [running]

/-- No edge is missed if each comes next to the last. -/
theorem missedBefore_of_next {edge : Edge}
    (next : ∀ last ∈ c.lastSequence, edge.sequence = last + 1) : c.missedBefore edge = 0 := by
  unfold missedBefore
  cases known : c.lastSequence with
  | none => rfl
  | some last =>
      have after : edge.sequence = last + 1 := next last known
      dsimp only
      omega

theorem books_of_edge (alive : c.board.Alive) {edge : Edge} {rest : List Edge}
    (queue : c.board.edges = edge :: rest) :
    c.poll.2.books =
        ⟨c.books.cycles + 1, c.books.missed + c.missedBefore edge, some edge.sequence⟩ ∧
      c.poll.2.board.backlog = { c.board.backlog with edges := rest } := by
  rw [poll_of_edge alive queue]
  exact ⟨books_syncCycle _ edge, backlog_syncCycle _ edge⟩

end Controller

/-! ### Moves -/

namespace Simulation

namespace Station

variable {config : Config} {kind : Kind} {limits : Limits} {s : Station}

theorem calm_act (h : s.controller.Calm limits kind) (action : Action) :
    (s.act action).controller.Calm limits kind := by
  have amplifier := Rig.amplifier_act ⟨s.board, s.master⟩ action
  have outgoing := (congrArg Sensor.outgoing (Rig.imu_act ⟨s.board, s.master⟩ action)).trans
    (s.board.imu.outgoing_act action)
  have own := Rig.selfAsserted_act ⟨s.board, s.master⟩ action
  refine ⟨sound_move h.sound (.act action), h.clean, ?_, own.trans h.own, h.count, ?_, h.layout,
    h.state⟩
  · intro imu
    obtain ⟨sample, accepted⟩ := h.framed imu
    refine ⟨sample, ?_⟩
    rw [← accepted]
    exact congrArg (fun bytes => Inertial.Sample.decode (bytes.take Inertial.frameLength)) outgoing
  · intro joint driven
    exact (congrArg Prod.fst amplifier).trans (h.live joint driven)

/-- Runs under a run command in which the counter of the master moves and every one of its steps is
served before the next, on a board that is healthy when it is.  Nothing else takes time.  It is
told apart whether a step is still to be served. -/
inductive Smooth (limits : Limits) : Bool → Station → List Move → Prop
  | done {s : Station} : Smooth limits false s []
  | acted {due : Bool} {s : Station} {action : Action} {rest : List Move}
      (still : action.passesTime = false) (next : Smooth limits due (s.act action) rest) :
      Smooth limits due s (.act action :: rest)
  | stepped {s : Station} {rest : List Move} (moving : s.master.frozen = false)
      (command : s.master.command = State.run.toByte)
      (next : Smooth limits true (s.act .step) rest) : Smooth limits false s (.act .step :: rest)
  | served {s : Station} {rest : List Move} (healthy : s.board.Healthy limits)
      (next : Smooth limits false s.poll.2 rest) : Smooth limits true s (.poll :: rest)

/-- A calm node that has served every edge. -/
structure Steady (config : Config) (kind : Kind) (s : Station) : Prop where
  rested : Rested config s
  calm : s.controller.Calm config.limits kind
  tracked : Tracked 0 s
  caught : ∀ last ∈ s.controller.lastSequence, last = s.board.edgeSequence
  missed : s.controller.statistics.missedEdges = 0
  dropped : s.board.droppedEdges = 0

/-- A calm node that has one edge to serve, the next one, under a run command. -/
structure Due (config : Config) (kind : Kind) (s : Station) : Prop where
  sane : s.Sane config (Duration.ofMicros config.device.cycleTime.toNat)
  alive : s.board.Alive
  queue : ∃ time, s.board.edges = [⟨s.board.edgeSequence, time⟩]
  command : s.board.rx.command = some .run
  calm : s.controller.Calm config.limits kind
  tracked : Tracked 1 s
  next : ∀ last ∈ s.controller.lastSequence, s.board.edgeSequence = last + 1
  missed : s.controller.statistics.missedEdges = 0
  dropped : s.board.droppedEdges = 0

theorem isStep_of_still {action : Action} (still : action.passesTime = false) :
    action.isStep = false := by
  cases action <;> first | rfl | nomatch still

theorem Tracked.still {since : Nat} (h : Tracked since s) {action : Action}
    (still : action.passesTime = false) : Tracked since (s.act action) := by
  have moving : action = .step → s.master.frozen = false := by
    rintro rfl
    nomatch still
  have acted := h.act moving
  have none : steps [.act action] = 0 := by simp [steps, Move.isStep, isStep_of_still still]
  rwa [none] at acted

theorem Steady.act (h : Steady config kind s) {action : Action}
    (still : action.passesTime = false) : Steady config kind (s.act action) := by
  have backlog := Rig.backlog_act ⟨s.board, s.master⟩ (isStep_of_still still)
  have fired : (s.act action).board.edgeSequence = s.board.edgeSequence :=
    congrArg Backlog.fired backlog
  refine ⟨h.rested.act still, calm_act h.calm action, h.tracked.still still, ?_, h.missed, ?_⟩
  · rw [fired]
    exact h.caught
  · exact (congrArg Backlog.dropped backlog).trans h.dropped

theorem Due.act (h : Due config kind s) {action : Action} (still : action.passesTime = false) :
    Due config kind (s.act action) := by
  have same := Rig.clockwork_act ⟨s.board, s.master⟩ still
  have backlog : (s.act action).board.backlog = s.board.backlog :=
    SimBoard.backlog_of_clockwork same
  have timing : (s.act action).board.timing = s.board.timing := SimBoard.timing_of_clockwork same
  have edges : (s.act action).board.edges = s.board.edges := congrArg Backlog.edges backlog
  have fired : (s.act action).board.edgeSequence = s.board.edgeSequence :=
    congrArg Backlog.fired backlog
  have inbound : (s.act action).board.rx = s.board.rx := congrArg Backlog.inbound backlog
  refine ⟨h.sane.move (.act action), ?_, ?_, ?_, calm_act h.calm action, h.tracked.still still, ?_,
    h.missed, ?_⟩
  · unfold SimBoard.Alive
    rw [timing]
    exact h.alive
  · rw [edges, fired]
    exact h.queue
  · rw [inbound]
    exact h.command
  · rw [fired]
    exact h.next
  · exact (congrArg Backlog.dropped backlog).trans h.dropped

/-- A step leaves one edge, the next one. -/
theorem Rested.stepped (h : Rested config s) : ∃ time, (s.act .step).board.backlog =
    ⟨[⟨s.board.edgeSequence + 1, time⟩], s.board.edgeSequence + 1, s.board.droppedEdges,
      s.master.prepared.rx⟩ := by
  obtain ⟨b, fired, same⟩ := Rig.step_board ⟨s.board, s.master⟩
  have empty : b.edges = [] := (congrArg Backlog.edges same).trans h.empty
  have sequence : b.edgeSequence = s.board.edgeSequence := congrArg Backlog.fired same
  have dropped : b.droppedEdges = s.board.droppedEdges := congrArg Backlog.dropped same
  have inbound : b.rx = s.master.prepared.rx := congrArg Backlog.inbound same
  have pushed : b.pushEdge.backlog =
      ⟨[⟨b.edgeSequence + 1, b.now⟩], b.edgeSequence + 1, b.droppedEdges, b.rx⟩ := by
    unfold SimBoard.pushEdge
    simp [empty, SimBoard.backlog, edgeQueueDepth]
  refine ⟨b.now, ?_⟩
  rw [← sequence, ← dropped, ← inbound, ← pushed]
  exact congrArg SimBoard.backlog fired

theorem Steady.step (h : Steady config kind s) (valid : config.Valid)
    (moving : s.master.frozen = false) (command : s.master.command = State.run.toByte) :
    Due config kind (s.act .step) := by
  obtain ⟨alive, -⟩ := h.rested.step valid
  obtain ⟨time, backlog⟩ := h.rested.stepped
  have inbound : (s.act .step).board.rx = s.master.prepared.rx := congrArg Backlog.inbound backlog
  have fired : (s.act .step).board.edgeSequence = s.board.edgeSequence + 1 :=
    congrArg Backlog.fired backlog
  have moves : Action.step = .step → s.master.frozen = false := fun _ => moving
  refine ⟨h.rested.sane.move (.act .step), alive, ⟨time, ?_⟩, ?_, calm_act h.calm .step,
    h.tracked.act moves, ?_, h.missed, ?_⟩
  · rw [fired]
    exact congrArg Backlog.edges backlog
  · rw [inbound, s.master.command_prepared, command, State.ofByte?_toByte]
  · intro last known
    rw [fired, h.caught last known]
  · exact (congrArg Backlog.dropped backlog).trans h.dropped

/-- A motor current that is what the limits leave of a commanded one. -/
def Carries (limits : Limits) (commanded carried : Int32) : Prop :=
  carried.toInt = max (-limits.maxMotorCurrent.toInt)
    (min limits.maxMotorCurrent.toInt commanded.toInt)

/-- What becomes of a node in the pass that serves its edge. -/
structure Serves (config : Config) (kind : Kind) (s : Station) : Prop where
  outcome : s.poll.1 = .ok (.synced ⟨s.state, .run⟩)
  steady : Steady config kind s.poll.2
  running : s.poll.2.state = .run
  current : ∀ joint : Joint, joint.kind = kind → s.state = .run →
    Carries config.limits s.board.rx.motorCurrent s.poll.2.board.motorCurrent

theorem Due.serve (h : Due config kind s) (valid : config.Valid)
    (healthy : s.board.Healthy config.limits) : s.Serves config kind := by
  obtain ⟨time, queue⟩ := h.queue
  have alive := h.alive
  -- Against the counter of the master the machine does not stall.
  have lively : s.state = .run →
      (s.controller.machine.supervisor.observeMaster s.board.rx.masterCounter).masterStalled =
        false := by
    intro here
    have tracks := h.tracked.tracks
    rw [queue] at tracks
    have written : s.board.rx.masterCounter = s.master.counter := h.tracked.written
    rw [written]
    exact tracks.lively here (by decide) (by decide)
  obtain ⟨outcome, calm, running, carries⟩ := h.calm.poll valid.limits healthy h.command lively alive
    queue
  refine ⟨outcome, ?_, running, carries⟩
  have observed : s.controller.edge? = some ⟨s.board.edgeSequence, time⟩ := by
    rw [Controller.edge?_of_alive alive]
    exact congrArg List.head? queue
  have single : s.board.edges.length ≤ edgeQueueDepth := by
    rw [queue]
    exact Nat.succ_le_succ (Nat.zero_le _)
  obtain ⟨timing, edges⟩ := Controller.timing_of_edge alive queue
  have rested : Rested config s.poll.2 := by
    refine ⟨h.sane.move .poll, ?_, ?_, edges⟩
    · exact (congrArg Timing.expired timing).trans alive.1
    · exact (congrArg Timing.lastFeed timing).trans (congrArg Timing.now timing).symm
  obtain ⟨books, served⟩ := Controller.books_of_edge alive queue
  have fired : s.poll.2.board.edgeSequence = s.board.edgeSequence := congrArg Backlog.fired served
  have last : s.poll.2.controller.lastSequence = some s.board.edgeSequence :=
    congrArg Controller.Books.last books
  have missed : s.poll.2.controller.statistics.missedEdges =
      s.controller.statistics.missedEdges + s.controller.missedBefore ⟨s.board.edgeSequence, time⟩ :=
    congrArg Controller.Books.missed books
  refine ⟨rested, calm, h.tracked.cycle single (by decide) observed, ?_, ?_, ?_⟩
  · rw [last, fired]
    rintro _ ⟨⟩
    rfl
  · rw [missed, h.missed, Controller.missedBefore_of_next h.next]
  · exact (congrArg Backlog.dropped served).trans h.dropped

/-! ### Runs -/

/-- The watchdog has not run out, and no edge is lost. -/
structure Up (s : Station) : Prop where
  alive : s.board.Alive
  missed : s.controller.statistics.missedEdges = 0
  dropped : s.board.droppedEdges = 0

/-- What a smooth run keeps, by whether an edge is to be served. -/
def Kept (config : Config) (kind : Kind) : Bool → Station → Prop
  | false, s => Steady config kind s
  | true, s => Due config kind s

variable {due : Bool} {run : List Move}

theorem Kept.up (h : Kept config kind due s) : s.Up := by
  cases due with
  | false => exact ⟨h.rested.alive, h.missed, h.dropped⟩
  | true => exact ⟨h.alive, h.missed, h.dropped⟩

theorem Kept.act (h : Kept config kind due s) {action : Action}
    (still : action.passesTime = false) : Kept config kind due (s.act action) := by
  cases due with
  | false => exact Steady.act h still
  | true => exact Due.act h still

theorem Kept.along (h : Kept config kind due s) (valid : config.Valid)
    (smooth : s.Smooth config.limits due run) : ∀ sofar, sofar <+: run → (s.moves sofar).Up := by
  induction smooth with
  | done =>
      intro sofar begins
      obtain rfl := List.prefix_nil.mp begins
      exact h.up
  | acted still next ih => exact along_cons h.up (ih (h.act still))
  | stepped moving command next ih => exact along_cons h.up (ih (h.step valid moving command))
  | served healthy next ih => exact along_cons h.up (ih (h.serve valid healthy).steady)

/-- What so many passes return when each serves an edge and ends in `run`. -/
def staysUp : State → Nat → List (Except Expiry Outcome)
  | _, 0 => []
  | source, n + 1 => .ok (.synced ⟨source, .run⟩) :: staysUp .run n

theorem Kept.outcomes (h : Kept config kind due s) (valid : config.Valid)
    (smooth : s.Smooth config.limits due run) :
    s.gather (fun c => some c.poll.1) run = staysUp s.state (due.toNat + steps run) := by
  induction smooth with
  | done => rfl
  | @acted due s action rest still next ih =>
      have none : steps [.act action] = 0 := by simp [steps, Move.isStep, isStep_of_still still]
      rw [steps_cons, none, Nat.zero_add]
      exact ih (h.act still)
  | @stepped s rest moving command next ih =>
      have same : false.toNat + steps (.act .step :: rest) = true.toNat + steps rest := by
        rw [steps_cons]
        show 0 + (1 + steps rest) = 1 + steps rest
        omega
      rw [same]
      exact ih (h.step valid moving command)
  | @served s rest healthy next ih =>
      have serves := h.serve valid healthy
      have later := ih serves.steady
      have one : true.toNat + steps (.poll :: rest) = (false.toNat + steps rest) + 1 := by
        rw [steps_cons]
        show 1 + (0 + steps rest) = 0 + steps rest + 1
        omega
      rw [one, staysUp, ← serves.outcome, ← serves.running, ← later]
      rfl

/-- What each pass is commanded for the motor, and what the motor carries after it. -/
def drawn (s : Station) (run : List Move) : List (Int32 × Int32) :=
  s.gather (fun c => some (c.board.rx.motorCurrent, c.poll.2.board.motorCurrent)) run

theorem Kept.drawn (h : Kept config kind due s) (valid : config.Valid)
    (smooth : s.Smooth config.limits due run) {joint : Joint} (driven : joint.kind = kind) :
    (∀ p ∈ (s.drawn run).tail, Carries config.limits p.1 p.2) ∧
      (s.state = .run → ∀ p ∈ s.drawn run, Carries config.limits p.1 p.2) := by
  induction smooth with
  | done => exact ⟨List.forall_mem_nil _, fun _ => List.forall_mem_nil _⟩
  | acted still next ih => exact ih (h.act still)
  | stepped moving command next ih => exact ih (h.step valid moving command)
  | served healthy next ih =>
      have serves := h.serve valid healthy
      have later := (ih serves.steady).2 serves.running
      refine ⟨later, fun here => ?_⟩
      exact List.forall_mem_cons.mpr ⟨serves.current joint driven here, later⟩

theorem steady_start (valid : config.Valid) (named : config.device.id.kind? = some kind)
    (h : start config (.fresh config.safety (Duration.ofMicros config.device.cycleTime.toNat)) =
      .ok s) : Steady config kind s := by
  have begun : start config ((Rig.fresh config.safety
      (Duration.ofMicros config.device.cycleTime.toNat)).run []) = .ok s := h
  have rested := rested_start (List.forall_mem_nil _) begun
  have tracked := (Started.untracked ⟨_, _, begun⟩).1
  obtain ⟨_, found, -⟩ := controller_of_start h
  obtain ⟨starts, -⟩ := starts_of_start h
  have calm := Controller.calm_of_start valid.limits named rfl rfl rfl found
  have backlog : s.board.backlog = _ := SimBoard.backlog_of_clockwork starts.clockwork
  refine ⟨rested, calm, tracked, ?_, ?_, congrArg Backlog.dropped backlog⟩
  · rw [starts.lastSequence]
    nofun
  · rw [starts.statistics]
    rfl

/-- A node of a known kind starts on any rig whose amplifier accepts commands. -/
theorem start_of_accepting (named : config.device.id.kind? = some kind) (rig : Rig)
    (accepts : rig.board.amplifierReject = false) : ∃ s, start config rig = .ok s := by
  obtain ⟨c, b, made⟩ := Controller.start_of_accepting named accepts
  refine ⟨⟨c, rig.master⟩, ?_⟩
  unfold start
  rw [made]

/--
**A healthy node keeps running.**

A node under a configuration that passes its checks starts on a fresh rig whose master steps once
a cycle time.  As long as every step is served before the next, the counter moves, the command is
`run` and the board is healthy at every pass, every pass ends in `run`.  No edge is lost and at
no moment has the watchdog run out.  From the second pass on, a motor carries what its limits
leave of the current commanded at that pass.
-/
theorem healthy_node_keeps_running (valid : config.Valid)
    (named : config.device.id.kind? = some kind) :
    ∃ s, start config (.fresh config.safety (Duration.ofMicros config.device.cycleTime.toNat)) =
      .ok s ∧ ∀ run, s.Smooth config.limits false run →
        s.gather (fun c => some c.poll.1) run = staysUp .idle (steps run) ∧
        (∀ sofar, sofar <+: run → (s.moves sofar).Up) ∧
        ∀ joint : Joint, joint.kind = kind →
          ∀ p ∈ (s.drawn run).tail, Carries config.limits p.1 p.2 := by
  obtain ⟨s, h⟩ := start_of_accepting named
    (.fresh config.safety (Duration.ofMicros config.device.cycleTime.toNat)) rfl
  have steady : Kept config kind false s := steady_start valid named h
  have idle : s.state = .idle := by
    show s.controller.machine.state = .idle
    rw [(starts_of_start h).1.machine]
    rfl
  refine ⟨s, h, fun run smooth => ⟨?_, steady.along valid smooth, ?_⟩⟩
  · rw [steady.outcomes valid smooth, idle]
    exact congrArg (staysUp .idle) (Nat.zero_add _)
  · exact fun joint driven => (steady.drawn valid smooth driven).1

/-- Three cycles, between which the readings of a leg go to one edge of what is allowed and then to
the other, and the current goes from one over the clamp to one below it. -/
def shifting : List Move :=
  [.act (.command State.run.toByte), .act .step, .poll,
    .act (.setInbound Inbound.motorCurrent .i32 40000), .act (.encoder .output 20000),
    .act (.thermistor 0 3000), .act .step, .act (.motorVoltage 1800), .act (.logicVoltage 3600), .poll,
    .act (.setInbound Inbound.motorCurrent .i32 (-7)), .act .step, .act (.encoder .output 33534432),
    .act (.thermistor 0 0), .act (.motorVoltage 3900), .act (.logicVoltage 2400), .poll]

theorem healthy_node_keeps_running_shifting : legConfig.Valid ∧
    legConfig.device.id.kind? = some Joint.leg.kind ∧ ∃ s,
      start legConfig (.fresh legConfig.safety
        (Duration.ofMicros legConfig.device.cycleTime.toNat)) = .ok s ∧
      s.Smooth legConfig.limits false shifting ∧
      s.gather (fun c => some c.poll.1) shifting = [.ok (.synced ⟨.idle, .run⟩),
        .ok (.synced ⟨.run, .run⟩), .ok (.synced ⟨.run, .run⟩)] ∧
      (s.moves shifting).Up ∧ s.drawn shifting = [(0, 0), (40000, 30000), (-7, -7)] ∧
      ∀ p ∈ [(40000, 30000), (-7, -7)], Carries legConfig.limits p.1 p.2 := by
  have valid : legConfig.Valid := by decide
  have named : legConfig.device.id.kind? = some Joint.leg.kind := rfl
  obtain ⟨s, started, keeps⟩ := healthy_node_keeps_running valid named
  obtain ⟨smooth, drawn⟩ : s.Smooth legConfig.limits false shifting ∧
      s.drawn shifting = [(0, 0), (40000, 30000), (-7, -7)] := by
    obtain rfl := Except.ok.inj started
    refine ⟨?_, by decide +kernel⟩
    refine .acted rfl (.stepped rfl rfl (.served (by decide +kernel) ?_))
    refine .acted rfl (.acted rfl (.acted rfl (.stepped (by decide +kernel) (by decide +kernel) ?_)))
    refine .acted rfl (.acted rfl (.served (by decide +kernel) ?_))
    refine .acted rfl (.stepped (by decide +kernel) (by decide +kernel) ?_)
    exact .acted rfl (.acted rfl (.acted rfl (.acted rfl (.served (by decide +kernel) .done))))
  obtain ⟨outcomes, up, carries⟩ := keeps shifting smooth
  have carried := carries .leg rfl
  rw [drawn] at carried
  exact ⟨valid, named, s, started, smooth, outcomes, up shifting (List.prefix_refl _), drawn, carried⟩

end Station
end Simulation
end FieldbusNode
