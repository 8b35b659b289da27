/-
The transitions of a tick as a path.

A machine forgets old transitions, so what its history means is said against a list
that forgets nothing: the changes of state since the machine was fresh.  `Faithful`
says that the list is a path through the states, dated in order, and that the history
is the end of it.  One more change makes one more step of the path
(`Faithful.moved`), and a tick makes at most two, each along one of the edges
(`Way.stretch`).

The changes are not read off the machine, they are what it reports: `Announced` adds
to any plant a list of the transitions that were reported to it.
-/
import Mathlib.Data.List.Chain
import FieldbusNode.Proofs.Tick.Records
import FieldbusNode.Proofs.Tick.Simulation
namespace FieldbusNode

/-! ### Reported transitions -/

/-- A plant and the transitions that were reported to it, oldest first. -/
structure Announced (σ : Type) where
  plant : σ
  transitions : List (State × State × Reason) := []

namespace Announced

variable {σ : Type}

/-- The transition an event reports. -/
def transition? : Event → Option (State × State × Reason)
  | .transition source target reason => some (source, target, reason)
  | _ => none

/-- Calls a hook of the plant. -/
def call (s : Announced σ) (f : σ → σ) : Announced σ := { s with plant := f s.plant }

instance [Plant σ] : Plant (Announced σ) where
  note e s := ⟨Journal.note e s.plant, s.transitions ++ (transition? e).toList⟩
  trap t s := s.call (Journal.trap t)
  enableOutputs s := s.call Plant.enableOutputs
  disableOutputs s := s.call Plant.disableOutputs
  updateOutputs data s := s.call (Plant.updateOutputs data)
  estop s := s.call Plant.estop
  resetError s := s.call Plant.resetError
  runHalt s := ((Plant.runHalt s.plant).1, s.call fun s => (Plant.runHalt s).2)
  faulty s := Plant.faulty s.plant
  wantsHalt s := Plant.wantsHalt s.plant
  lineAsserted s := Plant.lineAsserted s.plant
  assertLine s := s.call Plant.assertLine
  releaseLine s := s.call Plant.releaseLine

variable [Plant σ]

/-- Listening does not disturb a plant. -/
theorem simulates : Plant.Simulates fun (a : Announced σ) (s : σ) => a.plant = s where
  note _ _ _ h := h ▸ rfl
  enableOutputs h := h ▸ rfl
  disableOutputs h := h ▸ rfl
  updateOutputs _ _ _ h := h ▸ rfl
  estop h := h ▸ rfl
  resetError h := h ▸ rfl
  runHalt h := h ▸ ⟨rfl, rfl⟩
  assertLine h := h ▸ rfl
  releaseLine h := h ▸ rfl
  faulty h := h ▸ rfl
  wantsHalt h := h ▸ rfl
  lineAsserted h := h ▸ rfl

@[simp] theorem transitions_note (s : Announced σ) (e : Event) :
    (Journal.note e s).transitions = s.transitions ++ (transition? e).toList := rfl

/-- A stall of the master is no transition. -/
theorem transitions_watched (s : Announced σ) (m : Machine) (data : ProcessData) :
    (m.watched data s).transitions = s.transitions := by
  unfold Machine.watched Supervisor.observeMasterEvents
  dsimp only
  split
  · exact List.append_nil _
  · rfl

theorem transitions_secured (s : Announced σ) :
    (Machine.secured s).transitions = s.transitions := by
  unfold Machine.secured
  split <;> rfl

end Announced

/-- The change of state a record is about, without its date. -/
def TransitionRecord.change (r : TransitionRecord) : State × State × Reason :=
  (r.source, r.target, r.reason)

namespace Machine

/-! ### Paths -/

/-- The changes of state a tick may make. -/
def edges : List (State × State) :=
  [(.idle, .init), (.init, .run), (.init, .error), (.run, .stop), (.run, .halt), (.run, .error),
    (.stop, .idle), (.halt, .error), (.error, .reset), (.reset, .idle)]

theorem ne_of_edge {source target : State} (edge : (source, target) ∈ edges) :
    source ≠ target := by
  have proper : ∀ e ∈ edges, e.1 ≠ e.2 := by decide
  exact proper _ edge

/-- Along the edges `error` is left to `reset` only, `halt` to `error` only, and `run` is entered
from `init` only. -/
theorem edge_rules {source target : State} (edge : (source, target) ∈ edges) :
    (source = .error → target = .reset) ∧ (source = .halt → target = .error) ∧
      (target = .run → source = .init) := by
  have rules : ∀ e ∈ edges, (e.1 = .error → e.2 = .reset) ∧ (e.1 = .halt → e.2 = .error) ∧
      (e.2 = .run → e.1 = .init) := by decide
  exact rules _ edge

/-- The end of a list, as far as it fits into the history. -/
def recent (changes : List TransitionRecord) : List TransitionRecord :=
  changes.drop (changes.length - historyDepth)

theorem remember_recent (changes : List TransitionRecord) (r : TransitionRecord) :
    remember (recent changes) r = recent (changes ++ [r]) := by
  have longer : recent changes ++ [r] =
      (changes ++ [r]).drop (changes.length - historyDepth) :=
    (List.drop_append_of_le_length (Nat.sub_le _ _)).symm
  rw [remember, longer, List.drop_drop, recent]
  congr 1
  simp only [List.length_drop, List.length_append, List.length_singleton]
  omega

theorem length_recent (changes : List TransitionRecord) :
    (recent changes).length = min historyDepth changes.length := by
  rw [recent, List.length_drop]
  omega

theorem getLast?_recent (changes : List TransitionRecord) :
    (recent changes).getLast? = changes.getLast? := by
  rw [recent, List.getLast?_drop]
  split
  · rename_i whole
    have none : changes.length = 0 := by
      simp only [historyDepth] at whole
      omega
    rw [List.length_eq_zero_iff.mp none]
    rfl
  · rfl

/-- These are the changes of state of a machine since it was fresh. -/
structure Faithful (m : Machine) (changes : List TransitionRecord) : Prop where
  history : m.history = recent changes
  proper : ∀ r ∈ changes, r.source ≠ r.target
  departs : ∀ r ∈ changes.head?, r.source = .idle
  chain : changes.IsChain fun a b => a.target = b.source
  arrives : (changes.getLast?.map (·.target)).getD .idle = m.state
  ordered : changes.Pairwise fun a b => a.tick ≤ b.tick
  past : ∀ r ∈ changes, r.tick ≤ m.ticks

theorem faithful_ofConfig (c : SafetySection) : (ofConfig c).Faithful [] where
  history := rfl
  proper _ h := nomatch h
  departs _ h := nomatch h
  chain := .nil
  arrives := rfl
  ordered := .nil
  past _ h := nomatch h

section Faithful

variable {m m' : Machine} {changes : List TransitionRecord}

/-- A machine may count on without changing its state. -/
theorem Faithful.congr (h : m.Faithful changes) (state : m'.state = m.state)
    (history : m'.history = m.history) (ticks : m.ticks ≤ m'.ticks) : m'.Faithful changes where
  history := history.trans h.history
  proper := h.proper
  departs := h.departs
  chain := h.chain
  arrives := h.arrives.trans state.symm
  ordered := h.ordered
  past r mem := Nat.le_trans (h.past r mem) ticks

/-- **A change of state is one more step of the path.** -/
theorem Faithful.moved (h : m.Faithful changes) {target : State} (away : m.state ≠ target)
    (reason : Reason) :
    (m.moved target reason).Faithful (changes ++ [⟨m.ticks, m.state, target, reason⟩]) where
  history := by
    have appended : (m.moved target reason).history =
        remember m.history ⟨m.ticks, m.state, target, reason⟩ := by
      simp [Machine.moved, away]
    rw [appended, h.history, remember_recent]
  proper r mem := by
    rcases List.mem_append.mp mem with old | new
    · exact h.proper r old
    · rw [List.mem_singleton.mp new]
      exact away
  departs r first := by
    cases changes with
    | nil =>
        obtain rfl : _ = r := Option.some.inj first
        exact h.arrives.symm
    | cons oldest rest => exact h.departs r first
  chain := by
    refine h.chain.append (.singleton _) ?_
    intro a last b first
    obtain rfl : _ = b := Option.some.inj first
    have arrives := h.arrives
    rw [last] at arrives
    exact arrives
  arrives := by simp
  ordered := by
    refine List.pairwise_append.mpr ⟨h.ordered, List.pairwise_singleton _ _, ?_⟩
    intro a old b new
    rw [List.mem_singleton.mp new]
    exact h.past a old
  past r mem := by
    rw [ticks_moved]
    rcases List.mem_append.mp mem with old | new
    · exact h.past r old
    · rw [List.mem_singleton.mp new]

end Faithful

/-! ### Within a tick -/

section Tick

variable {σ : Type} {m m₁ m₂ m' : Machine} {data : ProcessData} {s s₁ s₂ s' : Announced σ}
  {changes records : List TransitionRecord}

/-- What a machine has changed and reported since a tick began on it. -/
structure Stretch (changes : List TransitionRecord) (m : Machine) (s : Announced σ)
    (records : List TransitionRecord) (m₁ : Machine) (s₁ : Announced σ) : Prop where
  faithful : m₁.Faithful (changes ++ records)
  ticks : m₁.ticks = m.ticks + 1
  dated : ∀ r ∈ records, r.tick = m.ticks + 1
  along : ∀ r ∈ records, (r.source, r.target) ∈ edges
  reported : s₁.transitions = s.transitions ++ records.map TransitionRecord.change

theorem stretch_counted (h : m.Faithful changes) (s : Announced σ) :
    Stretch changes m s [] m.counted s where
  faithful := by
    rw [List.append_nil]
    exact h.congr rfl rfl (Nat.le_succ _)
  ticks := rfl
  dated _ mem := nomatch mem
  along _ mem := nomatch mem
  reported := (List.append_nil _).symm

/-- A tick may go on without changing the state or reporting a change. -/
theorem Stretch.congr (st : Stretch changes m s records m₁ s₁) (state : m₂.state = m₁.state)
    (history : m₂.history = m₁.history) (ticks : m₂.ticks = m₁.ticks)
    (reported : s₂.transitions = s₁.transitions) : Stretch changes m s records m₂ s₂ where
  faithful := st.faithful.congr state history (Nat.le_of_eq ticks.symm)
  ticks := ticks.trans st.ticks
  dated := st.dated
  along := st.along
  reported := reported.trans st.reported

variable [Plant σ]

/-- Along an edge the machine records one more change and reports it. -/
theorem Stretch.moved (st : Stretch changes m s records m₁ s₁) {source target : State}
    (here : m₁.state = source) (edge : (source, target) ∈ edges) (reason : Reason) :
    Stretch changes m s (records ++ [⟨m.ticks + 1, source, target, reason⟩])
      (m₁.moved target reason) (Journal.note (.transition source target reason) s₁) where
  faithful := by
    have away : m₁.state ≠ target := by
      rw [here]
      exact ne_of_edge edge
    have longer := st.faithful.moved away reason
    rwa [here, st.ticks, List.append_assoc] at longer
  ticks := (ticks_moved _ _ _).trans st.ticks
  dated r mem := by
    rcases List.mem_append.mp mem with old | new
    · exact st.dated r old
    · rw [List.mem_singleton.mp new]
  along r mem := by
    rcases List.mem_append.mp mem with old | new
    · exact st.along r old
    · rw [List.mem_singleton.mp new]
      exact edge
  reported := by
    rw [Announced.transitions_note, st.reported, List.map_append, List.append_assoc]
    rfl

theorem Stretch.failed (st : Stretch changes m s records m₁ s₁) {source : State}
    (here : m₁.state = source) (edge : (source, .error) ∈ edges) (reason : Reason) :
    Stretch changes m s (records ++ [⟨m.ticks + 1, source, .error, reason⟩])
      (m₁.failed reason) (Journal.note (.transition source .error reason) s₁) :=
  (st.moved here edge reason).congr rfl rfl rfl rfl

theorem Checking.stretch (h : m.Faithful changes) (checking : Checking m data s m₁ s₁) :
    ∃ records, Stretch changes m s records m₁ s₁ ∧ records.length ≤ 1 := by
  cases checking with
  | commanded here =>
      have released : Stretch changes m s [] m.counted (Plant.releaseLine s) :=
        (stretch_counted h s).congr rfl rfl rfl rfl
      exact ⟨_, released.moved here (by decide) .commanded, Nat.le_refl 1⟩
  | resumed => exact ⟨[], stretch_counted h s, Nat.zero_le 1⟩

theorem stretch_watched (h : m.Faithful changes) (data : ProcessData) (s : Announced σ) :
    Stretch changes m s [] (m.counted.observed data) (m.watched data s) :=
  (stretch_counted h s).congr rfl rfl rfl (s.transitions_watched m data)

theorem Halting.stretch (h : m.Faithful changes) (halting : Halting m data s m₁ s₁) :
    ∃ records, Stretch changes m s records m₁ s₁ ∧ records.length ≤ 1 := by
  cases halting with
  | @entered reason here =>
      exact ⟨_, (stretch_watched h data s).moved here (by decide) reason, Nat.le_refl 1⟩
  | standing => exact ⟨[], stretch_counted h s, Nat.zero_le 1⟩

theorem length_concat_le {records : List TransitionRecord} (short : records.length ≤ 1)
    (r : TransitionRecord) : (records ++ [r]).length ≤ 2 := by
  rw [List.length_append, List.length_singleton]
  omega

/-- **A tick takes the path at most two edges further.** -/
theorem Way.stretch (h : m.Faithful changes) (way : Way m data s m' s') :
    ∃ records, Stretch changes m s records m' s' ∧ records.length ≤ 2 := by
  have counted := stretch_counted h s
  have watched := stretch_watched h data s
  cases way with
  | waits => exact ⟨[], counted.congr rfl rfl rfl rfl, Nat.zero_le 2⟩
  | @starts m₁ s₁ checking =>
      obtain ⟨records, lead, short⟩ := checking.stretch h
      have enabled : Stretch changes m s records (m₁.rearmed data)
          (Plant.enableOutputs (Plant.resetError s₁)) := lead.congr rfl rfl rfl rfl
      exact ⟨_, enabled.moved checking.state (by decide) .initComplete, length_concat_le short _⟩
  | @refuses m₁ s₁ reason checking =>
      obtain ⟨records, lead, short⟩ := checking.stretch h
      have reset : Stretch changes m s records (m₁.rearmed data) (Plant.resetError s₁) :=
        lead.congr rfl rfl rfl rfl
      exact ⟨_, (reset.failed checking.state (by decide) reason).congr rfl rfl rfl rfl,
        length_concat_le short _⟩
  | runs => exact ⟨[], watched.congr rfl rfl rfl rfl, Nat.zero_le 2⟩
  | @fails reason here =>
      have secured : Stretch changes m s [] (m.counted.observed data)
          (secured (m.watched data s)) :=
        watched.congr rfl rfl rfl (Announced.transitions_secured _)
      exact ⟨_, (secured.failed here (by decide) reason).congr rfl rfl rfl rfl, Nat.le_succ 1⟩
  | @stops reason here =>
      have edge : (State.run, State.stop) ∈ edges := by decide
      have stopping := watched.moved here edge reason
      have disabled : Stretch changes m s _ ((m.counted.observed data).moved .stop reason)
          (Plant.disableOutputs (Journal.note (.transition .run .stop reason)
            (m.watched data s))) := stopping.congr rfl rfl rfl rfl
      exact ⟨_, disabled.moved (state_moved _ _ _) (by decide) .completed, Nat.le_refl 2⟩
  | finishes here =>
      have disabled : Stretch changes m s [] m.counted (Plant.disableOutputs s) :=
        counted.congr rfl rfl rfl rfl
      exact ⟨_, disabled.moved here (by decide) .completed, Nat.le_succ 1⟩
  | @trips m₁ s₁ halting =>
      obtain ⟨records, lead, short⟩ := halting.stretch h
      have tripped := lead.failed halting.state (by decide) .stopLine
      exact ⟨_, tripped.congr rfl rfl rfl (Announced.transitions_secured _),
        length_concat_le short _⟩
  | @breaks m₁ s₁ halting =>
      obtain ⟨records, lead, short⟩ := halting.stretch h
      have disabled : Stretch changes m s records m₁ (Plant.disableOutputs s₁) :=
        lead.congr rfl rfl rfl rfl
      exact ⟨_, (disabled.failed halting.state (by decide) .hardwareFault).congr rfl rfl rfl rfl,
        length_concat_le short _⟩
  | halts halting =>
      obtain ⟨records, lead, short⟩ := halting.stretch h
      exact ⟨records, lead.congr rfl rfl rfl rfl, Nat.le_succ_of_le short⟩
  | @givesUp m₁ s₁ halting =>
      obtain ⟨records, lead, short⟩ := halting.stretch h
      have disabled : Stretch changes m s records m₁
          (Plant.disableOutputs (Plant.runHalt s₁).2) := lead.congr rfl rfl rfl rfl
      exact ⟨_, disabled.failed halting.state (by decide) .haltFailed, length_concat_le short _⟩
  | clears here =>
      have reset : Stretch changes m s [] m.counted.cleared
          (Plant.resetError (Plant.releaseLine s)) := counted.congr rfl rfl rfl rfl
      exact ⟨_, reset.moved here (by decide) .completed, Nat.le_succ 1⟩
  | dwells => exact ⟨[], counted.congr rfl rfl rfl rfl, Nat.zero_le 2⟩
  | leaves here =>
      have stopped : Stretch changes m s [] m.counted.dwelt
          (Plant.assertLine (Plant.estop s)) := counted.congr rfl rfl rfl rfl
      exact ⟨_, stopped.moved here (by decide) .commanded, Nat.le_succ 1⟩

end Tick
end Machine
end FieldbusNode
