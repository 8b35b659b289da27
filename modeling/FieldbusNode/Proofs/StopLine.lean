/-
The stop line, cycle after cycle.

The debounce counts every sample whatever the state is, also those that this node
asserts itself in `error`, and only a reset zeroes it.  `run` and `halt` look at the
debounce, the pre-run checks look at the line.  Between them no row of asserted
samples longer than the limit is survived: a machine that has been running
through the row has counted all of it, and one that started within the row has met
the line at its checks.

The other way round, a count over the limit shows where it came from: a debounce that
stops at zero never holds more than the excess of its latest samples.
-/
import FieldbusNode.Config.Validation
import FieldbusNode.Proofs.Chronicle
import FieldbusNode.Proofs.Tick.Grounds
import Mathlib.Data.List.DropRight
namespace FieldbusNode

open Simulation (SimBoard Action Station Move)

/-! ### The debounce -/

namespace Debounce

variable {d : Debounce}

theorem run_concat (samples : List Bool) (asserted : Bool) :
    d.run (samples ++ [asserted]) = (d.run samples).sample asserted := by
  simp [run]

/-- Some block of most recent samples holds at least as many more asserted samples than clear ones as
are counted. -/
theorem exists_excess (zero : d.count = 0) (samples : List Bool) : ∃ block, block <:+ samples ∧
    (d.run samples).count + block.count false ≤ block.count true := by
  induction samples using List.reverseRecOn with
  | nil => exact ⟨[], List.suffix_refl [], Nat.le_of_eq zero⟩
  | append_singleton samples asserted ih =>
      obtain ⟨block, suffix, excess⟩ := ih
      rw [run_concat]
      cases asserted with
      | true =>
          refine ⟨block ++ [true], List.suffix_append_self_iff.mpr suffix, ?_⟩
          have up : ((d.run samples).sample true).count ≤ (d.run samples).count + 1 :=
            Nat.min_le_left _ _
          have trues : (block ++ [true]).count true = block.count true + 1 := by simp
          have falses : (block ++ [true]).count false = block.count false := by simp
          omega
      | false =>
          have down : ((d.run samples).sample false).count = (d.run samples).count - 1 := rfl
          by_cases empty : (d.run samples).count = 0
          · exact ⟨[], List.nil_suffix, by rw [down, empty]; exact Nat.le_refl 0⟩
          · refine ⟨block ++ [false], List.suffix_append_self_iff.mpr suffix, ?_⟩
            have trues : (block ++ [false]).count true = block.count true := by simp
            have falses : (block ++ [false]).count false = block.count false + 1 := by simp
            omega

end Debounce

/-- The samples of the stop line since the last tick that found `reset`. -/
def samplesSinceReset (cycles : List Entry) : List Bool :=
  (cycles.rtakeWhile fun k => k.before != .reset).map Entry.asserted

theorem samplesSinceReset_concat (cycles : List Entry) (k : Entry) :
    samplesSinceReset (cycles ++ [k]) =
      if k.before = .reset then [] else samplesSinceReset cycles ++ [k.asserted] := by
  unfold samplesSinceReset
  rw [List.rtakeWhile_concat]
  by_cases reset : k.before = .reset <;> simp [reset]

/-- No debounce of a node gets near the end of its count before it trips. -/
theorem Config.Valid.stopLineLimit_lt {config : Config} (valid : config.Valid) :
    config.safety.stopLineLimit.toNat < uint32Max :=
  Nat.lt_of_le_of_lt valid.safety.stopLineLimit.2 (by decide)

namespace Simulation.Station

theorem ne_reset_of_live {state : State} (live : state = .run ∨ state = .halt) :
    state ≠ .reset := by
  rcases live with rfl | rfl <;> nofun

/-- What is known of a station behind the cycles of its run so far. -/
structure Counted (limit : Nat) (seen : List Entry) (s : Station) : Prop where
  debounce : s.controller.machine.supervisor.stopLine =
    (Debounce.ofLimit limit).run (samplesSinceReset seen)
  /-- A row of asserted samples that a running machine has behind it is counted. -/
  row : s.state = .run ∨ s.state = .halt → ∀ window, window <:+ seen →
    (∀ k ∈ window, k.asserted = true) →
      window.length ≤ s.controller.machine.supervisor.stopLine.count
  own : s.board.watchdogExpired = false →
    Machine.OwnLine SimBoard.line s.controller.machine s.board
  dated : s.controller.machine.Dated
  rested : s.state ≠ .init

/-! ### One cycle -/

section Cycle

variable {limit : Nat} {seen : List Entry} {s : Station} {k : Entry} {c : Controller SimBoard}

/-- A tick that found `reset` leaves no count behind, every other one the count it found. -/
theorem Counted.debounce_cycle (counted : Counted limit seen s)
    (told : s.controller.Told (some k) c) :
    k.machine.supervisor.stopLine =
      (Debounce.ofLimit limit).run (samplesSinceReset (seen ++ [k])) := by
  cases told with
  | cycle _ before _ _ way =>
      rw [samplesSinceReset_concat]
      by_cases reset : k.before = .reset
      · have here : s.controller.machine.state = .reset := before.symm.trans reset
        rw [if_pos reset, (way.of_reset here).2]
        show (s.controller.machine.supervisor.stopLine.sample k.asserted).reset = .ofLimit limit
        rw [counted.debounce, Debounce.reset, Debounce.limit_sample, Debounce.limit_run]
        rfl
      · have away : s.controller.machine.state ≠ .reset := fun here => reset (before.trans here)
        rw [if_neg reset, way.stopLine_eq away, Debounce.run_concat, ← counted.debounce]
        rfl

theorem Counted.limit_cycle (counted : Counted limit seen s)
    (told : s.controller.Told (some k) c) : k.machine.supervisor.stopLine.limit = limit := by
  rw [counted.debounce_cycle told, Debounce.limit_run]
  rfl

theorem Counted.ownLine (counted : Counted limit seen s) {asserted : Bool} {p : Mounted SimBoard}
    (alive : s.board.watchdogExpired = false) (line : p.line = s.board.line) :
    Machine.OwnLine Mounted.line (s.controller.machine.sampled asserted) p := by
  intro asserts
  rw [line] at asserts
  exact counted.own alive asserts

/-- A cycle that ends in `run` or in `halt` was there before and has not tripped, or has just come
from `idle` and found the line clear. -/
theorem Counted.live_cases (counted : Counted limit seen s)
    (told : s.controller.Told (some k) c) (live : k.Live) :
    (k.before = .run ∨ k.before = .halt) ∧ k.machine.supervisor.stopLine.count ≤ limit ∨
      k.before = .idle ∧ k.after = .run ∧ k.asserted = false := by
  have limited := counted.limit_cycle told
  cases told with
  | cycle alive before line asserted way =>
      by_cases running : s.state = .run ∨ s.state = .halt
      · refine Or.inl ⟨by rw [before]; exact running, ?_⟩
        apply Nat.le_of_not_lt
        intro beyond
        rw [way.stopLine_eq (ne_reset_of_live running)] at beyond limited
        have tripped : (s.controller.machine.sampled k.asserted).supervisor.stopLineTripped = true :=
          decide_eq_true (by rw [limited]; exact beyond)
        have failed := way.error_of_tripped running tripped
        rcases live with here | here <;> simp [Entry.after, failed] at here
      · obtain ⟨run, origin, clear⟩ := way.clear_of_start Mounted.wired
          (counted.ownLine alive line) running live
        refine Or.inr ⟨?_, run, asserted.trans clear⟩
        rcases origin with idle | init
        · exact before.trans idle
        · exact absurd init counted.rested

/-- The row of asserted samples that ends with a cycle in `run` or in `halt` is counted in full. -/
theorem Counted.row_cycle (counted : Counted limit seen s) (small : limit < uint32Max)
    (told : s.controller.Told (some k) c) (live : k.Live) {window : List Entry}
    (suffix : window <:+ seen ++ [k]) (asserted : ∀ e ∈ window, e.asserted = true) :
    window.length ≤ k.machine.supervisor.stopLine.count ∧ window.length ≤ limit := by
  rcases List.suffix_concat_iff.mp suffix with rfl | ⟨rest, rfl, inner⟩
  · exact ⟨Nat.zero_le _, Nat.zero_le _⟩
  have latest : k.asserted = true := asserted k (by simp)
  rcases counted.live_cases told live with ⟨running, le⟩ | ⟨-, -, clear⟩
  · have counts : k.machine.supervisor.stopLine.count =
        countUp s.controller.machine.supervisor.stopLine.count := by
      rw [counted.debounce_cycle told, samplesSinceReset_concat,
        if_neg (ne_reset_of_live running), Debounce.run_concat, ← counted.debounce, latest]
      rfl
    rw [told.before] at running
    have before := counted.row running rest inner fun e mem => asserted e (by simp [mem])
    -- The count is within the limit, so it is not at the end of its range and has gone up.
    rw [counts, countUp] at le ⊢
    rw [List.length_append, List.length_singleton]
    omega
  · rw [clear] at latest
    nomatch latest

/-- A trip shows in the samples. -/
theorem Counted.excess_of_trip (counted : Counted limit seen s)
    (told : s.controller.Told (some k) c) {r : TransitionRecord} (mem : r ∈ k.machine.latest)
    (source : r.source = .run ∨ r.source = .halt) (reason : r.reason = .stopLine) :
    ∃ block, block <:+ samplesSinceReset (seen ++ [k]) ∧
      limit + block.count false < block.count true := by
  obtain ⟨block, suffix, excess⟩ :=
    Debounce.exists_excess (d := .ofLimit limit) rfl (samplesSinceReset (seen ++ [k]))
  refine ⟨block, suffix, ?_⟩
  rw [← counted.debounce_cycle told] at excess
  have limited := counted.limit_cycle told
  cases told with
  | cycle _ _ _ _ way =>
      have grounded := way.extends.latest counted.dated mem
      rcases grounded.stopLine reason with init | ⟨running, tripped⟩
      · rcases source with here | here <;> simp [here] at init
      rw [way.stopLine_eq (ne_reset_of_live running)] at excess limited
      have beyond := of_decide_eq_true tripped
      omega

/-- What was known behind the earlier cycles is known behind one more. -/
theorem Counted.cycle (counted : Counted limit seen s) (small : limit < uint32Max)
    (told : s.controller.Told (some k) c) :
    Counted limit (seen ++ [k]) { s with controller := c } := by
  have machine := told.machine
  obtain ⟨own, dated, rested⟩ : Machine.OwnLine SimBoard.line k.machine c.board ∧
      k.machine.Dated ∧ k.after ≠ .init := by
    cases told with
    | cycle alive _ line _ way _ line' =>
        have own := way.ownLine Mounted.wired (counted.ownLine alive line)
        refine ⟨?_, way.extends.dated counted.dated, way.rested.1⟩
        intro asserts
        rw [line'] at asserts
        exact own asserts
  refine ⟨?_, ?_, ?_, ?_, ?_⟩
  · rw [machine]
    exact counted.debounce_cycle told
  · intro live window suffix asserted
    rw [state, machine] at live
    rw [machine]
    exact (counted.row_cycle small told live suffix asserted).1
  · intro _
    rw [machine]
    exact own
  · rw [machine]
    exact dated
  · rw [state, machine]
    exact rested

end Cycle

/-! ### Runs -/

section Runs

variable {config : Config} {s : Station}

theorem Started.counted (valid : config.limits.Valid) (started : Started config s) :
    Counted config.safety.stopLineLimit.toNat [] s := by
  obtain ⟨kind, begins⟩ := started.begins valid
  have idle : s.state = .idle := congrArg Machine.state begins.machine
  refine ⟨?_, ?_, ?_, ?_, ?_⟩
  · rw [begins.machine]
    rfl
  · intro live
    simp [idle] at live
  · intro _ asserts
    have quiet : s.board.line.1 = false := started.selfAsserted
    rw [quiet] at asserts
    nomatch asserts
  · rw [begins.machine]
    exact Machine.dated_ofConfig config.safety
  · simp [idle]

variable {limit : Nat} {seen : List Entry}

theorem Counted.act (counted : Counted limit seen s) (action : Action) :
    Counted limit seen (s.act action) where
  debounce := counted.debounce
  row := counted.row
  own := by
    intro alive asserts
    have before : s.board.watchdogExpired = false := by
      rw [Bool.eq_false_iff]
      intro expired
      have after := Rig.watchdogExpired_act ⟨s.board, s.master⟩ action expired
      rw [show (s.act action).board.watchdogExpired = true from after] at alive
      nomatch alive
    have same := Rig.selfAsserted_act ⟨s.board, s.master⟩ action
    exact counted.own before (same.symm.trans asserts)
  dated := counted.dated
  rested := counted.rested

theorem Counted.poll (counted : Counted limit seen s) (small : limit < uint32Max) :
    Counted limit (seen ++ s.controller.told?.toList) s.poll.2 := by
  have told := s.controller.poll_told
  have polled : s.poll.2 = { s with controller := s.controller.poll.2 } := rfl
  rw [polled]
  generalize s.controller.told? = entry, s.controller.poll.2 = c at told
  cases entry with
  | some k => exact counted.cycle small told
  | none =>
      rw [Option.toList_none, List.append_nil]
      cases told with
      | rest machine own =>
          refine ⟨?_, ?_, ?_, ?_, ?_⟩
          · rw [machine]
            exact counted.debounce
          · rw [state, machine]
            exact counted.row
          · intro alive asserts
            obtain ⟨before, same⟩ := own alive
            rw [machine]
            exact counted.own before (same.symm.trans asserts)
          · rw [machine]
            exact counted.dated
          · rw [state, machine]
            exact counted.rested

theorem Counted.chronicle (counted : Counted limit seen s) (small : limit < uint32Max)
    (run : List Move) : Counted limit (seen ++ s.chronicle run) (s.moves run) :=
  chronicle_keeps (fun _ _ action counted => counted.act action)
    (fun _ _ counted => counted.poll small) counted run

theorem Started.counted_behind (valid : config.Valid) (started : Started config s)
    {run : List Move} {earlier later : List Entry} {k : Entry}
    (told : s.chronicle run = earlier ++ k :: later) : ∃ s' c,
      Counted config.safety.stopLineLimit.toNat earlier s' ∧ s'.controller.Told (some k) c := by
  obtain ⟨before, -, -, rfl, next⟩ := chronicle_split told
  have counted := (started.counted valid.limits).chronicle valid.stopLineLimit_lt before
  have told := (s.moves before).controller.poll_told
  rw [next] at told
  exact ⟨_, _, counted, told⟩

end Runs

/-- What is known of a stop line in the cycles of a run. -/
structure StopLineLaw (limit : Nat) (cycles : List Entry) : Prop where
  /-- A row of asserted samples that is longer than the limit ends neither in `run` nor in `halt`. -/
  reacts : ∀ earlier row later, cycles = earlier ++ row ++ later → row.length = limit + 1 →
    (∀ k ∈ row, k.asserted = true) → ∀ k ∈ row.getLast?, k.after ≠ .run ∧ k.after ≠ .halt
  /-- A trip in `run` or in `halt` has a block of latest samples behind it, none from before the last
  reset, in which the asserted ones exceed the clear ones by more than the limit. -/
  trips : ∀ earlier k later, cycles = earlier ++ k :: later → ∀ r ∈ k.machine.latest,
    r.source = .run ∨ r.source = .halt → r.target = .error → r.reason = .stopLine →
      ∃ block, block <:+ samplesSinceReset (earlier ++ [k]) ∧
        limit + block.count false < block.count true

/-- **The stop line is obeyed within its limit, and trips for no less than that.** -/
theorem stop_line_law {config : Config} (valid : config.Valid) {s : Station}
    (started : Started config s) (run : List Move) :
    StopLineLaw config.safety.stopLineLimit.toNat (s.chronicle run) where
  reacts := by
    intro earlier row later told length asserted k last
    obtain ⟨rest, rfl⟩ := List.getLast?_eq_some_iff.mp last
    rw [← List.append_assoc, List.append_assoc, List.singleton_append] at told
    obtain ⟨s', c, counted, told⟩ := started.counted_behind valid told
    have live : ¬k.Live := by
      intro live
      have le := (counted.row_cycle valid.stopLineLimit_lt told live
        ⟨earlier, (List.append_assoc _ _ _).symm⟩ asserted).2
      omega
    exact ⟨fun here => live (Or.inl here), fun here => live (Or.inr here)⟩
  trips := by
    intro earlier k later told r mem source _ reason
    obtain ⟨s', c, counted, told⟩ := started.counted_behind valid told
    exact counted.excess_of_trip told mem source reason

/-- A hip that tolerates a single asserted sample. -/
def hastyConfig : Config where
  shared := { serviceName := "hip" }
  device := { id := ⟨0x20⟩ }
  safety := { stopLineLimit := 1 }

/-- A cycle in `run`, then the stop line is asserted for two. -/
def halted : List Move :=
  [.act (.command State.run.toByte), .act .step, .poll, .act (.externalStop true), .act .step,
    .poll, .act .step, .poll]

/-- The second of two asserted samples stops the hip. -/
theorem stop_line_law_halted : hastyConfig.Valid ∧ ∃ s, Started hastyConfig s ∧
    StopLineLaw 1 (s.chronicle halted) ∧
      (s.chronicle halted).map (fun k => (k.before, k.asserted, k.after)) =
        [(.idle, false, .run), (.run, true, .run), (.run, true, .error)] := by
  have valid : hastyConfig.Valid := by decide
  refine ⟨valid, _, ⟨1000000, [], rfl⟩, ?_, by decide +kernel⟩
  exact stop_line_law valid ⟨1000000, [], rfl⟩ halted

/-- **A machine that is in `run` or in `halt` after a cycle has not tripped, unless this cycle started
it: the pre-run checks look at the line, and the line was clear.** -/
theorem live_within_limit {config : Config} (valid : config.Valid) {s : Station}
    (started : Started config s) (run : List Move) {k : Entry} (told : k ∈ s.chronicle run)
    (live : k.Live) :
    k.machine.supervisor.stopLine.count ≤ config.safety.stopLineLimit.toNat ∨
      k.before = .idle ∧ k.after = .run ∧ k.asserted = false := by
  obtain ⟨earlier, later, told⟩ := List.append_of_mem told
  obtain ⟨s', c, counted, told⟩ := started.counted_behind valid told
  exact (counted.live_cases told live).imp And.right id

/-- A single asserted sample does not stop the hip, and is within the limit. -/
theorem live_within_limit_halted : hastyConfig.Valid ∧ ∃ s, Started hastyConfig s ∧
    ∃ k ∈ s.chronicle halted, k.before = .run ∧ k.asserted = true ∧ k.Live ∧
      k.machine.supervisor.stopLine.count ≤ 1 := by
  have valid : hastyConfig.Valid := by decide
  obtain ⟨s, started, k, told, running, asserted, live⟩ : ∃ s, Started hastyConfig s ∧
      ∃ k ∈ s.chronicle halted, k.before = .run ∧ k.asserted = true ∧ k.Live :=
    ⟨_, ⟨1000000, [], rfl⟩, by decide +kernel⟩
  refine ⟨valid, s, started, k, told, running, asserted, live, ?_⟩
  rcases live_within_limit valid started halted told live with le | ⟨idle, -⟩
  · exact le
  · simp [running] at idle

/-- The stop line is asserted for three cycles in `idle`, and let go of before the run command. -/
def released : List Move :=
  [.act (.externalStop true), .act .step, .poll, .act .step, .poll, .act .step, .poll,
    .act (.externalStop false), .act (.command State.run.toByte), .act .step, .poll]

/-- A hip starts with a debounce that is still over its limit. -/
theorem tripped_in_run : hastyConfig.Valid ∧ ∃ s, Started hastyConfig s ∧
    ∃ k ∈ s.chronicle released, k.Live ∧
      hastyConfig.safety.stopLineLimit.toNat < k.machine.supervisor.stopLine.count :=
  ⟨by decide, _, ⟨1000000, [], rfl⟩, by decide +kernel⟩

end Simulation.Station
end FieldbusNode
