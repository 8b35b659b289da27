/-
Which reason is recorded when there are several.

In `run` a tick puts its answer together from checks that overrule each other, and in `halt` it may
find its way to `error` twice.  Either way the record it leaves is the one of the first cause that
holds, in an order that does not depend on the machine: `Cause.runList` for ticks that start in
`run`, `Cause.haltList` for those that start in `halt`.  A tick without a cause records nothing.

That is settled for one tick (`Way.latest_of_run`, `Way.latest_of_halt`).  A course then dates
every record of its history back to the tick that wrote it, so what the history keeps is ranked as
well.
-/
import FieldbusNode.Proofs.Liveness
namespace FieldbusNode
namespace Machine

/-- Something that ends a state: whether it holds, the state it leads to, and its name. -/
structure Cause where
  holds : Bool
  target : State
  reason : Reason
  deriving DecidableEq

namespace Cause

/-- The first cause that holds. -/
def first (causes : List Cause) : Option Cause := causes.find? holds

/-- What a tick writes down about a cause. -/
def record (cause : Cause) (tick : Nat) (source : State) : TransitionRecord :=
  ⟨tick, source, cause.target, cause.reason⟩

/-- What ends `run`, the first in front. -/
def runList (command : Option State) (stalled halting tripped faulty : Bool) : List Cause :=
  [⟨faulty, .error, .hardwareFault⟩,
    ⟨tripped, .error, .stopLine⟩,
    ⟨stalled, .error, .masterWatchdog⟩,
    ⟨command = some .error, .error, .commanded⟩,
    ⟨halting, .halt, .haltRequested⟩,
    ⟨command = some .halt, .halt, .commanded⟩,
    ⟨command = some .stop ∨ command = some .idle, .stop, .commanded⟩]

/-- What ends `halt`, the first in front. -/
def haltList (tripped faulty failed : Bool) : List Cause :=
  [⟨tripped, .error, .stopLine⟩,
    ⟨faulty, .error, .hardwareFault⟩,
    ⟨failed, .error, .haltFailed⟩]

theorem first_cons_of_holds {cause : Cause} (rest : List Cause) (holds : cause.holds = true) :
    first (cause :: rest) = some cause :=
  List.find?_cons_of_pos holds

theorem first_cons_of_not {cause : Cause} (rest : List Cause) (fails : cause.holds ≠ true) :
    first (cause :: rest) = first rest :=
  List.find?_cons_of_neg fails

theorem any_eq_isSome_first (causes : List Cause) : causes.any holds = (first causes).isSome :=
  List.isSome_find?.symm

/-- Nothing but `error` follows on `halt`. -/
theorem target_of_halt {tripped faulty failed : Bool} {cause : Cause}
    (found : first (haltList tripped faulty failed) = some cause) : cause.target = .error := by
  have all : ∀ cause ∈ haltList tripped faulty failed, cause.target = .error := by
    simp [haltList]
  exact all cause (List.mem_of_find?_eq_some found)

end Cause

/-! ### One tick -/

/-- **Checks that overrule each other leave the first cause.** -/
theorem runDecision_eq_first (command : Option State) (stalled halting tripped faulty : Bool) :
    runDecision command stalled halting tripped faulty =
      (Cause.first (Cause.runList command stalled halting tripped faulty)).map fun cause =>
        (cause.target, cause.reason) := by
  rw [runDecision_ranked, Cause.runList]
  split
  · next faulty => rw [Cause.first_cons_of_holds _ faulty]; rfl
  next sound =>
  rw [Cause.first_cons_of_not _ sound]
  split
  · next tripped => rw [Cause.first_cons_of_holds _ tripped]; rfl
  next clear =>
  rw [Cause.first_cons_of_not _ clear]
  split
  · next stalled => rw [Cause.first_cons_of_holds _ stalled]; rfl
  next lively =>
  rw [Cause.first_cons_of_not _ lively]
  rcases command with _ | command
  · cases halting <;> rfl
  · cases command <;> cases halting <;> rfl

example : runDecision (some .stop) false true false false = some (.halt, .haltRequested) ∧
    runDecision (some .error) false true false false = some (.error, .commanded) := by
  decide

variable {σ : Type} [Plant σ] {m m₁ m' : Machine} {data : ProcessData} {s s₁ s' : σ}
  {old records : List TransitionRecord}

theorem logs_observed (logs : m.Logs old) (data : ProcessData) :
    (m.counted.observed data).Logs [] :=
  logs.counted.congr rfl rfl

/-- A running machine that halts has that on record. -/
theorem Halting.logs_of_run (halting : Halting m data s m₁ s₁) (here : m.state = .run)
    (logs : m.Logs old) : ∃ reason, m.decision data s = some (.halt, reason) ∧
      m₁.Logs [⟨m.ticks + 1, .run, .halt, reason⟩] := by
  cases halting with
  | @entered reason _ decided =>
      exact ⟨reason, decided,
        (logs_observed logs data).left (by decide) rfl here .halt (by decide) reason⟩
  | standing there => simp [here] at there

/-- A halting machine is found as it was. -/
theorem Halting.of_halt (halting : Halting m data s m₁ s₁) (here : m.state = .halt) :
    m₁ = m.counted ∧ s = s₁ := by
  cases halting with
  | entered there => simp [here] at there
  | standing => exact ⟨rfl, rfl⟩

/-- What a tick in `run` decides is the first thing it records. -/
theorem Way.head?_latest_of_run (way : Way m data s m' s') (here : m.state = .run)
    (logs : m.Logs old) : m'.latest.head? = (m.decision data s).map fun (target, reason) =>
      (⟨m.ticks + 1, .run, target, reason⟩ : TransitionRecord) := by
  have observed := logs_observed logs data
  -- A halt that ends within the tick adds a record behind the one of the halt.
  have ended {m₁ : Machine} {s₁ : σ} {reason : Reason} (halting : Halting m data s m₁ s₁) :
      (m₁.failed reason).latest.head? = (m.decision data s).map fun (target, reason) =>
        (⟨m.ticks + 1, .run, target, reason⟩ : TransitionRecord) := by
    obtain ⟨_, decided, logs₁⟩ := halting.logs_of_run here logs
    have failed := logs₁.failed (by simp [historyDepth]) rfl halting.state (by decide) reason
    rw [failed.latest, decided]
    rfl
  cases way with
  | runs _ decided =>
      rw [observed.latest, decided]
      rfl
  | @fails reason _ decided =>
      have failed := observed.failed (by decide) rfl here (by decide) reason
      rw [failed.latest, decided]
      rfl
  | @stops reason _ decided =>
      have stopping := observed.left (by decide) rfl here .stop (by decide) reason
      have stopped := stopping.left (by simp [historyDepth]) rfl (state_moved _ _ _) .idle
        (by decide) .completed
      rw [stopped.latest, decided]
      rfl
  | trips halting => exact ended halting
  | breaks halting => exact ended halting
  | givesUp halting => exact ended halting
  | halts halting =>
      obtain ⟨_, decided, logs₁⟩ := halting.logs_of_run here logs
      rw [logs₁.latest, decided]
      rfl
  | starts checking | refuses checking => simpa [here] using checking.origin
  | _ => simp_all

/-- What ends `halt` in a tick, if anything. -/
def haltCause (m : Machine) (s : σ) : Option Cause :=
  Cause.first (Cause.haltList m.supervisor.stopLineTripped (Plant.faulty s) (!(Plant.runHalt s).1))

/-- **A tick that starts in `halt` records its first cause, or stays.** -/
theorem Way.latest_of_halt (way : Way m data s m' s') (here : m.state = .halt)
    (logs : m.Logs old) :
    m'.latest = ((m.haltCause s).map (·.record (m.ticks + 1) .halt)).toList ∧
      m'.state = ((m.haltCause s).map (·.target)).getD .halt := by
  have ended {reason : Reason} (found : m.haltCause s = some ⟨true, .error, reason⟩) :
      (m.counted.failed reason).latest =
          ((m.haltCause s).map (·.record (m.ticks + 1) .halt)).toList ∧
        (m.counted.failed reason).state = ((m.haltCause s).map (·.target)).getD .halt := by
    have failed := logs.counted.failed (by decide) rfl here (by decide) reason
    rw [failed.latest, state_failed, found]
    exact ⟨rfl, rfl⟩
  cases way with
  | trips halting tripped =>
      obtain ⟨rfl, -⟩ := halting.of_halt here
      have found : m.haltCause s = some ⟨true, .error, .stopLine⟩ := by
        rw [haltCause, show m.supervisor.stopLineTripped = true from tripped]
        rfl
      exact ended found
  | breaks halting clear faulty =>
      obtain ⟨rfl, rfl⟩ := halting.of_halt here
      have found : m.haltCause s = some ⟨true, .error, .hardwareFault⟩ := by
        rw [haltCause, show m.supervisor.stopLineTripped = false from clear, faulty]
        rfl
      exact ended found
  | givesUp halting clear sound failed =>
      obtain ⟨rfl, rfl⟩ := halting.of_halt here
      have found : m.haltCause s = some ⟨true, .error, .haltFailed⟩ := by
        rw [haltCause, show m.supervisor.stopLineTripped = false from clear, sound, failed]
        rfl
      exact ended found
  | halts halting clear sound succeeded =>
      obtain ⟨rfl, rfl⟩ := halting.of_halt here
      have none : m.haltCause s = none := by
        rw [haltCause, show m.supervisor.stopLineTripped = false from clear, sound, succeeded]
        rfl
      rw [none, logs.counted.latest]
      exact ⟨rfl, here⟩
  | starts checking | refuses checking => simpa [here] using checking.origin
  | _ => simp_all

/-- A record that leaves `run` is the first of a tick that starts there. -/
theorem Account.leaves_run {tick : Nat} {before after : State} {hooks : List Bench.Hook}
    {r : TransitionRecord} (account : Account tick before records hooks after) (mem : r ∈ records)
    (leaves : r.source = .run) : before = .run ∧ records.head? = some r := by
  cases account with
  | starts lead | refuses lead | trips lead | breaks lead | halts lead | givesUp lead =>
      cases lead <;> grind
  | _ => grind

end Machine

/-! ### Ticks in a row -/

namespace Course

open Machine (Cause)

variable {σ : Type} [Plant σ] (c : Course σ)

theorem stopLineLimit_ready (n : Nat) :
    (c.ready n).supervisor.stopLine.limit = c.config.stopLineLimit.toNat := by
  have steady : Machine.Steady fun v => v.stopLine.limit :=
    ⟨fun _ _ => rfl, fun _ _ => rfl, fun _ => rfl, fun _ => rfl⟩
  have sampled (n : Nat) :
      (c.ready n).supervisor.stopLine.limit = (c.machine n).supervisor.stopLine.limit := by
    rw [supervisor_ready, Debounce.limit_run]
  induction n with
  | zero => rw [sampled]; rfl
  | succ n ih => rw [sampled, (c.ready_way n).keeps_steady steady fun _ => rfl, ih]

theorem stopLineTripped_ready (n : Nat) : (c.ready n).supervisor.stopLineTripped =
    decide (c.config.stopLineLimit.toNat < (c.ready n).supervisor.stopLine.count) := by
  rw [← c.stopLineLimit_ready n]
  rfl

/-- What would end `run` in a tick.  The plant is asked behind the report of a stall. -/
def runCauses (n : Nat) : List Cause :=
  let plant := (c.ready n).watched (c.turns n).data (c.scene n)
  Cause.runList (c.command n) (10 ≤ c.stall n) (Plant.wantsHalt plant)
    (c.config.stopLineLimit.toNat < (c.ready n).supervisor.stopLine.count) (Plant.faulty plant)

/-- What would end `halt` in a tick. -/
def haltCauses (n : Nat) : List Cause :=
  Cause.haltList (c.config.stopLineLimit.toNat < (c.ready n).supervisor.stopLine.count)
    (Plant.faulty (c.scene n)) (!(Plant.runHalt (c.scene n)).1)

theorem decision_eq_first {n : Nat} (here : c.state n = .run) :
    (c.ready n).decision (c.turns n).data (c.scene n) =
      (Cause.first (c.runCauses n)).map fun cause => (cause.target, cause.reason) := by
  have stalled : ((c.ready n).supervisor.observeMaster (c.counter n)).masterStalled =
      decide (10 ≤ c.stall n) := by
    rw [Bool.eq_iff_iff, c.stalled_iff here, decide_eq_true_iff]
  rw [Machine.decision, Machine.runDecision_eq_first, stopLineTripped_ready, ← counter, stalled]
  rfl

/-- A machine keeps the order of its records up to the tick that follows. -/
theorem logs_ready (n : Nat) : (c.ready n).Logs (c.machine n).latest :=
  (c.machine_logs n).1.congr rfl rfl

theorem head?_latest_of_run {n : Nat} (here : c.state n = .run) :
    (c.machine (n + 1)).latest.head? =
      (Cause.first (c.runCauses n)).map (·.record (n + 1) .run) := by
  rw [(c.ready_way n).head?_latest_of_run here (c.logs_ready n), c.decision_eq_first here,
    Option.map_map, ticks_ready, (c.machine_logs n).2]
  rfl

theorem latest_of_halt {n : Nat} (here : c.state n = .halt) :
    (c.machine (n + 1)).latest =
        ((Cause.first (c.haltCauses n)).map (·.record (n + 1) .halt)).toList ∧
      c.state (n + 1) = ((Cause.first (c.haltCauses n)).map (·.target)).getD .halt := by
  have step := (c.ready_way n).latest_of_halt here (c.logs_ready n)
  rwa [Machine.haltCause, stopLineTripped_ready, ticks_ready, (c.machine_logs n).2] at step

/-- Whatever the history holds was recorded by the tick it is dated with. -/
theorem exists_latest_of_mem {n : Nat} {r : TransitionRecord} (mem : r ∈ (c.machine n).history) :
    ∃ k < n, r ∈ (c.machine (k + 1)).latest := by
  induction n with
  | zero => nomatch mem
  | succ n ih =>
      have ext := (c.ready_way n).extends
      rcases ext.history r mem with old | new
      · obtain ⟨k, lt, found⟩ := ih old
        exact ⟨k, Nat.lt_succ_of_lt lt, found⟩
      · refine ⟨n, Nat.lt_succ_self n, List.mem_filter.mpr ⟨mem, ?_⟩⟩
        rw [beq_iff_eq, new.tick, ext.ticks]

/-- What is known of the reasons a tick records, and of those kept from the ticks before it. -/
structure ReasonsRanked (n : Nat) : Prop where
  /-- The first record of a tick that starts in `run` is that of the first cause. -/
  run : c.state n = .run → (c.machine (n + 1)).latest.head? =
    (Cause.first (c.runCauses n)).map (·.record (n + 1) .run)
  /-- There is none exactly if there is no cause. -/
  silent : c.state n = .run →
    ((c.machine (n + 1)).latest = [] ↔ (c.runCauses n).any Cause.holds = false)
  /-- A tick that starts in `halt` records its first cause and nothing else. -/
  halt : c.state n = .halt → (c.machine (n + 1)).latest =
    ((Cause.first (c.haltCauses n)).map (·.record (n + 1) .halt)).toList
  /-- It ends in `error` for any of its causes, and in `halt` otherwise. -/
  stays : c.state n = .halt → c.state (n + 1) =
    if (c.haltCauses n).any Cause.holds then .error else .halt
  /-- The master is observed once by every tick that starts in `run`, whatever it is ended by. -/
  master : c.state n = .run → (c.machine (n + 1)).supervisor.master =
    (c.machine n).supervisor.master.observe (c.counter n)
  /-- What the history tells of `run` is the first cause of the tick in question. -/
  history : ∀ r ∈ (c.machine n).history, r.source = .run → ∃ k < n, c.state k = .run ∧
    (Cause.first (c.runCauses k)).map (·.record (k + 1) .run) = some r

/--
**Recorded reasons are true, and ranked.**

This is about any course, so about a plant that may answer anything and change its answers from tick
to tick, and about every combination of causes.
-/
theorem reasons_ranked (n : Nat) : c.ReasonsRanked n where
  run := c.head?_latest_of_run
  silent := by
    intro here
    rw [← List.head?_eq_none_iff, c.head?_latest_of_run here, Option.map_eq_none_iff,
      Cause.any_eq_isSome_first, Option.isSome_eq_false_iff, Option.isNone_iff_eq_none]
  halt here := (c.latest_of_halt here).1
  stays := by
    intro here
    rw [(c.latest_of_halt here).2, Cause.any_eq_isSome_first]
    cases found : Cause.first (c.haltCauses n) with
    | none => rfl
    | some cause => exact Cause.target_of_halt found
  master := c.master_of_run
  history := by
    intro r mem leaves
    obtain ⟨k, lt, mem⟩ := c.exists_latest_of_mem mem
    obtain ⟨here, head⟩ := (c.account k).leaves_run mem leaves
    exact ⟨k, lt, here, (c.head?_latest_of_run here).symm.trans head⟩

end Course
end FieldbusNode
