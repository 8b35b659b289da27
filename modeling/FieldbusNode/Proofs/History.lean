/-
The history as a path.

A machine is called in two ways: it ticks, or its state is set from outside.  A life
is any sequence of such calls on a fresh machine, with any plant, and with all the
changes of state that were reported along the way.  The history a machine keeps is the
end of those, in order and unbroken, and all but the changes from outside run along
the edges.

So the history can be read as what happened last, and it cannot lie about how the
machine came to where it is.
-/
import FieldbusNode.Proofs.Course
import FieldbusNode.Proofs.Tick.Path
import FieldbusNode.Proofs.Tick.Supervision
namespace FieldbusNode

/-- A call on a machine. -/
inductive Call (σ : Type)
  /-- A tick, with what leads up to it. -/
  | tick (turn : Turn σ)
  /-- The state is set from a raw byte. -/
  | restore (raw : UInt8)

namespace Call

variable {σ : Type} [Plant σ]

/-- Machine and plant after a call. -/
def made (call : Call σ) (m : Machine) (s : σ) : Machine × σ :=
  match call with
  | tick turn => (turn.sampled m).tick turn.data (turn.stir s)
  | restore raw => m.restore raw s

/-- The plant after a call, with what the call reported to it. -/
def heard (call : Call σ) (m : Machine) (s : σ) : Announced σ :=
  match call with
  | tick turn => ((turn.sampled m).tick turn.data (⟨turn.stir s, []⟩ : Announced σ)).2
  | restore raw => (m.restore raw (⟨s, []⟩ : Announced σ)).2

/-- The changes of state a call reports, dated with the ticks that have run. -/
def changes (call : Call σ) (m : Machine) (s : σ) : List TransitionRecord :=
  (call.heard m s).transitions.map fun (source, target, reason) =>
    ⟨(call.made m s).1.ticks, source, target, reason⟩

end Call

/-- A machine, its plant, and every change of state reported since the machine was fresh. -/
structure Life (σ : Type) where
  machine : Machine
  plant : σ
  changes : List TransitionRecord

namespace Life

variable {σ : Type} [Plant σ]

/-- The life after one more call. -/
def call (l : Life σ) (call : Call σ) : Life σ :=
  let (machine, plant) := call.made l.machine l.plant
  ⟨machine, plant, l.changes ++ call.changes l.machine l.plant⟩

/-- The life of a fresh machine after some calls. -/
def after (config : SafetySection) (plant : σ) (calls : List (Call σ)) : Life σ :=
  calls.foldl call ⟨.ofConfig config, plant, []⟩

end Life

/-! ### One call -/

namespace Call

variable {σ : Type} [Plant σ] {m : Machine} {changes records : List TransitionRecord}

/-- A record says no more than what is reported and when. -/
theorem dated_change {tick : Nat} (dated : ∀ r ∈ records, r.tick = tick) :
    ((records.map TransitionRecord.change).map fun (source, target, reason) =>
      (⟨tick, source, target, reason⟩ : TransitionRecord)) = records := by
  rw [List.map_map]
  refine (List.map_congr_left ?_).trans (List.map_id records)
  intro r mem
  simp [TransitionRecord.change, ← dated r mem]

/-- **A tick takes the path at most two edges further, and comes to rest.** -/
theorem tick_faithful (h : m.Faithful changes) (turn : Turn σ) (s : σ) :
    ((tick turn).made m s).1.Faithful (changes ++ (tick turn).changes m s) ∧
      ((tick turn).changes m s).length ≤ 2 ∧
      (∀ r ∈ (tick turn).changes m s, (r.source, r.target) ∈ Machine.edges) := by
  have found : (turn.sampled m).Faithful changes := h.congr rfl rfl (Nat.le_refl _)
  have alike := (Machine.tick_simulates Announced.simulates (turn.sampled m) turn.data
    (rfl : (⟨turn.stir s, []⟩ : Announced σ).plant = turn.stir s)).1
  have way := Machine.tick_way (turn.sampled m) turn.data (⟨turn.stir s, []⟩ : Announced σ)
  rw [alike] at way
  obtain ⟨records, walked, short⟩ := way.stretch found
  have same : (tick turn).changes m s = records := by
    have reported : ((tick turn).heard m s).transitions = records.map TransitionRecord.change :=
      walked.reported
    have ticks : ((tick turn).made m s).1.ticks = (turn.sampled m).ticks + 1 := walked.ticks
    rw [Call.changes, reported, ticks]
    exact dated_change walked.dated
  rw [same]
  exact ⟨walked.faithful, short, walked.along⟩

/-- No tick ends in `init` or `stop`. -/
theorem tick_rests (m : Machine) (turn : Turn σ) (s : σ) :
    ((tick turn).made m s).1.state ≠ .init ∧ ((tick turn).made m s).1.state ≠ .stop :=
  (Machine.tick_way (turn.sampled m) turn.data (turn.stir s)).rested

theorem restore_eq (m : Machine) (raw : UInt8) (s : σ) :
    (m.restore raw s).1.state = State.ofByte raw ∧
      (m.restore raw s).1.history = (m.moved (State.ofByte raw) .restored).history ∧
      (m.restore raw s).1.ticks = m.ticks ∧
      (m.restore raw s).2 = Journal.noteIf (m.state != State.ofByte raw)
        (.transition m.state (State.ofByte raw) .restored) s := by
  unfold Machine.restore
  cases State.ofByte raw with
  | error => exact ⟨Machine.state_moved _ _ _, rfl, Machine.ticks_moved _ _ _, rfl⟩
  | _ => exact ⟨Machine.state_moved _ _ _, rfl, Machine.ticks_moved _ _ _, rfl⟩

/-- **Setting the state takes the path one step further, unless it is set to what it is.** -/
theorem restore_faithful (h : m.Faithful changes) (raw : UInt8) (s : σ) :
    ((restore raw).made m s).1.Faithful (changes ++ (restore raw).changes m s) ∧
      ∀ r ∈ (restore raw).changes m s, r.reason = .restored := by
  obtain ⟨state, history, ticks, -⟩ := restore_eq m raw s
  obtain ⟨-, -, -, heard⟩ := restore_eq m raw (⟨s, []⟩ : Announced σ)
  have listed : (restore raw).changes m s =
      if m.state = State.ofByte raw then []
      else [⟨m.ticks, m.state, State.ofByte raw, .restored⟩] := by
    have made : ((restore raw).made m s).1.ticks = m.ticks := ticks
    have told : (restore raw).heard m s = _ := heard
    rw [Call.changes, made, told]
    by_cases same : m.state = State.ofByte raw
    · simp [same, Journal.noteIf]
    · simp [same, Journal.noteIf, Announced.transition?]
  rw [listed]
  split
  · rename_i same
    rw [List.append_nil]
    refine ⟨h.congr (state.trans same.symm) ?_ (Nat.le_of_eq ticks.symm),
      List.forall_mem_nil _⟩
    exact history.trans (congrArg Machine.history (m.moved_self _ _ same))
  · rename_i away
    refine ⟨(h.moved away .restored).congr (state.trans (m.state_moved _ _).symm) history ?_, ?_⟩
    · exact Nat.le_of_eq ((m.ticks_moved _ _).trans ticks.symm)
    · intro r mem
      rw [List.mem_singleton.mp mem]

end Call

/-! ### Lives -/

namespace Life

variable {σ : Type} [Plant σ]

/-- The history is the end of the path a machine has taken, and only changes from outside leave
the edges. -/
structure Honest (l : Life σ) : Prop where
  faithful : l.machine.Faithful l.changes
  along : ∀ r ∈ l.changes, r.reason ≠ .restored → (r.source, r.target) ∈ Machine.edges

theorem Honest.call {l : Life σ} (h : l.Honest) (call : Call σ) : (l.call call).Honest := by
  cases call with
  | tick turn =>
      obtain ⟨faithful, -, along⟩ := Call.tick_faithful h.faithful turn l.plant
      refine ⟨faithful, ?_⟩
      intro r mem own
      rcases List.mem_append.mp mem with old | new
      · exact h.along r old own
      · exact along r new
  | restore raw =>
      obtain ⟨faithful, restored⟩ := Call.restore_faithful h.faithful raw l.plant
      refine ⟨faithful, ?_⟩
      intro r mem own
      rcases List.mem_append.mp mem with old | new
      · exact h.along r old own
      · exact absurd (restored r new) own

theorem honest_after (config : SafetySection) (plant : σ) (calls : List (Call σ)) :
    (after config plant calls).Honest := by
  have kept (l : Life σ) (h : l.Honest) : (calls.foldl Life.call l).Honest := by
    induction calls generalizing l with
    | nil => exact h
    | cons call rest ih => exact ih (l.call call) (h.call call)
  exact kept _ ⟨Machine.faithful_ofConfig config, nofun⟩

/--
**The history of a machine is a faithful path.**

This is about any sequence of ticks and restores of a fresh machine, on any plant.  The
history holds the last changes of state and no others; it is unbroken, it ends in the
state the machine is in, and its dates are in order.  Whatever did not come from outside
runs along an edge, so apart from that `error` is left to `reset` only, `halt` to `error`
only, and `run` is entered from `init` only.  A tick adds no more than two records, all
of them along edges, and never ends in `init` or `stop`.
-/
theorem history_is_path (config : SafetySection) (plant : σ) (calls : List (Call σ)) :
    let l := after config plant calls
    l.machine.history <:+ l.changes ∧
      l.machine.history.length = min 32 l.changes.length ∧
      (∀ r ∈ l.machine.history, r.source ≠ r.target) ∧
      (l.machine.history.IsChain fun a b => a.target = b.source) ∧
      (l.machine.history.getLast?.map (·.target)).getD .idle = l.machine.state ∧
      (l.machine.history.Pairwise fun a b => a.tick ≤ b.tick) ∧
      (∀ r ∈ l.machine.history, r.tick ≤ l.machine.ticks) ∧
      (∀ r ∈ l.changes, r.reason ≠ .restored → (r.source, r.target) ∈ Machine.edges ∧
        (r.source = .error → r.target = .reset) ∧ (r.source = .halt → r.target = .error) ∧
        (r.target = .run → r.source = .init)) ∧
      ∀ turn, ∃ records, (l.call (.tick turn)).changes = l.changes ++ records ∧
        records.length ≤ 2 ∧ (∀ r ∈ records, (r.source, r.target) ∈ Machine.edges) ∧
        (l.call (.tick turn)).machine.state ≠ .init ∧
        (l.call (.tick turn)).machine.state ≠ .stop := by
  intro l
  obtain ⟨faithful, along⟩ := honest_after config plant calls
  have ending : l.machine.history <:+ l.changes := by
    rw [faithful.history]
    exact List.drop_suffix _ _
  refine ⟨ending, ?_, ?_, ?_, ?_, ?_, ?_, ?_, ?_⟩
  · exact (congrArg List.length faithful.history).trans (Machine.length_recent _)
  · exact fun r mem => faithful.proper r (ending.subset mem)
  · exact faithful.chain.suffix ending
  · rw [faithful.history, Machine.getLast?_recent]
    exact faithful.arrives
  · exact faithful.ordered.sublist ending.sublist
  · exact fun r mem => faithful.past r (ending.subset mem)
  · intro r mem own
    have edge := along r mem own
    exact ⟨edge, Machine.edge_rules edge⟩
  · intro turn
    obtain ⟨-, short, edges⟩ := Call.tick_faithful faithful turn l.plant
    exact ⟨_, rfl, short, edges, Call.tick_rests l.machine turn l.plant⟩

/-- A machine that is told to run, is put into `halt`, and stays there. -/
example :
    let blank := ProcessData.ofLayout ⟨"bench", Inbound.headerEnd, Outbound.headerEnd⟩
    let asking (command : State) : Call Bench.Script :=
      .tick ⟨id, [], blank.loadHeader command.toByte 1⟩
    ((after {} {} [asking .run, .restore State.halt.toByte, asking .stop]).machine.history.map
      TransitionRecord.change) =
      [(.idle, .init, .commanded), (.init, .run, .initComplete), (.run, .halt, .restored)] := by
  decide +kernel

end Life
end FieldbusNode
