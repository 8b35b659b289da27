/-
The transitions a tick records.

The history keeps the last transitions only, so "what this tick recorded" is read
off it by the number of the tick.  That is right as long as the records are dated
in order, none in the future, and a tick writes fewer of them than the history
holds: then the record that makes room is always one of an earlier tick.  `Logs`
carries this along a tick, together with what the tick has recorded so far.
-/
import FieldbusNode.Proofs.Tick
namespace FieldbusNode.Machine

/-- The transitions of the latest tick, in order. -/
def latest (m : Machine) : List TransitionRecord :=
  m.history.filter (·.tick == m.ticks)

/-- The history is in order, and these are the transitions of the latest tick. -/
structure Logs (m : Machine) (records : List TransitionRecord) : Prop where
  short : m.history.length ≤ historyDepth
  ordered : m.history.Pairwise fun a b => a.tick ≤ b.tick
  past : ∀ r ∈ m.history, r.tick ≤ m.ticks
  latest : m.latest = records

theorem logs_ofConfig (c : SafetySection) : (ofConfig c).Logs [] where
  short := Nat.zero_le _
  ordered := .nil
  past _ h := nomatch h
  latest := rfl

/-! ### Appending a record -/

theorem remember_of_lt {history : List TransitionRecord} (r : TransitionRecord)
    (room : history.length < historyDepth) : remember history r = history ++ [r] := by
  have none : history.length + 1 - historyDepth = 0 := by omega
  simp [remember, none]

theorem remember_of_full {oldest : TransitionRecord} {rest : List TransitionRecord}
    (r : TransitionRecord) (full : (oldest :: rest).length = historyDepth) :
    remember (oldest :: rest) r = rest ++ [r] := by
  have one : (oldest :: rest).length + 1 - historyDepth = 1 := by omega
  simp only [remember, List.length_append, List.length_singleton, one]
  rfl

theorem length_remember (history : List TransitionRecord) (r : TransitionRecord) :
    (remember history r).length ≤ historyDepth := by
  simp only [remember, List.length_drop]
  omega

theorem remember_sublist (history : List TransitionRecord) (r : TransitionRecord) :
    (remember history r).Sublist (history ++ [r]) :=
  List.drop_sublist _ _

variable {m : Machine} {records : List TransitionRecord}

/-- If every record were of the latest tick, the tick would have filled the history alone. -/
theorem Logs.oldest_tick {oldest : TransitionRecord} {rest : List TransitionRecord}
    (logs : m.Logs records) (room : records.length < historyDepth)
    (history : m.history = oldest :: rest) (full : m.history.length = historyDepth) :
    oldest.tick ≠ m.ticks := by
  intro same
  have all : ∀ r ∈ m.history, (r.tick == m.ticks) = true := by
    intro r hr
    have late : oldest.tick ≤ r.tick := by
      rw [history] at hr
      rcases List.mem_cons.mp hr with rfl | later
      · exact Nat.le_refl _
      · have ordered := logs.ordered
        rw [history] at ordered
        exact (List.pairwise_cons.mp ordered).1 r later
    have early := logs.past r hr
    simp only [beq_iff_eq]
    omega
  have whole : records = m.history := by
    rw [← logs.latest, Machine.latest, List.filter_eq_self.mpr all]
  rw [whole, full] at room
  exact Nat.lt_irrefl _ room

/-! ### Keeping account -/

theorem Logs.counted (logs : m.Logs records) : m.counted.Logs [] where
  short := logs.short
  ordered := logs.ordered
  past r hr := Nat.le_succ_of_le (logs.past r hr)
  latest := by
    apply List.filter_eq_nil_iff.mpr
    intro r hr
    have early := logs.past r hr
    simp only [ticks_counted, beq_iff_eq]
    omega

/-- What is logged is about the history and the count of ticks alone. -/
theorem Logs.congr {m' : Machine} (logs : m.Logs records) (history : m'.history = m.history)
    (ticks : m'.ticks = m.ticks) : m'.Logs records := by
  obtain ⟨state, supervisor, _, _⟩ := m'
  subst history ticks
  exact ⟨logs.short, logs.ordered, logs.past, logs.latest⟩

theorem Logs.moved (logs : m.Logs records) (room : records.length < historyDepth)
    {target : State} (reason : Reason) (away : m.state ≠ target) :
    (m.moved target reason).Logs (records ++ [⟨m.ticks, m.state, target, reason⟩]) := by
  have history : (m.moved target reason).history =
      remember m.history ⟨m.ticks, m.state, target, reason⟩ := by
    simp [Machine.moved, away]
  have behind : ∀ r ∈ m.history ++ [(⟨m.ticks, m.state, target, reason⟩ : TransitionRecord)],
      r.tick ≤ m.ticks := by
    intro r hr
    rcases List.mem_append.mp hr with old | new
    · exact logs.past r old
    · exact Nat.le_of_eq (congrArg TransitionRecord.tick (List.mem_singleton.mp new))
  refine ⟨?_, ?_, ?_, ?_⟩
  · rw [history]
    exact length_remember _ _
  · rw [history]
    refine List.Pairwise.sublist (remember_sublist _ _) ?_
    rw [List.pairwise_append]
    refine ⟨logs.ordered, List.pairwise_singleton _ _, ?_⟩
    intro a ha b hb
    rw [List.mem_singleton.mp hb]
    exact logs.past a ha
  · rw [history, ticks_moved]
    exact fun r hr => behind r ((remember_sublist _ _).subset hr)
  · rw [Machine.latest, history, ticks_moved, ← logs.latest, Machine.latest]
    rcases Nat.lt_or_ge m.history.length historyDepth with lt | ge
    · simp [remember_of_lt _ lt]
    · have full : m.history.length = historyDepth := Nat.le_antisymm logs.short ge
      cases listed : m.history with
      | nil => simp [listed, historyDepth] at full
      | cons oldest rest =>
          have gone := logs.oldest_tick room listed full
          rw [listed] at full
          simp [remember_of_full _ full, gone]

/-- One more record, with the date and the state that is left by their names. -/
theorem Logs.left (logs : m.Logs records) (room : records.length < historyDepth) {tick : Nat}
    (now : m.ticks = tick) {source : State} (here : m.state = source) (target : State)
    (away : source ≠ target) (reason : Reason) :
    (m.moved target reason).Logs (records ++ [⟨tick, source, target, reason⟩]) := by
  subst now here
  exact logs.moved room reason away

theorem Logs.failed (logs : m.Logs records) (room : records.length < historyDepth) {tick : Nat}
    (now : m.ticks = tick) {source : State} (here : m.state = source) (away : source ≠ .error)
    (reason : Reason) :
    (m.failed reason).Logs (records ++ [⟨tick, source, .error, reason⟩]) :=
  (logs.left room now here .error away reason).congr rfl rfl

end FieldbusNode.Machine
