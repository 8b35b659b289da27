/-
The closed form of a debounce.

A debounce counts up and down and stops at zero, so its count depends on everything it has been
given.  What it depends on is simple all the same: the count is the greatest excess of asserted
samples over clear ones in any block of latest samples, the empty one included.  One more sample
moves the excess of every block by one, and opens a new empty one, whose excess is zero; that is
the stop at zero (`isGreatest_excesses_concat`).  The stop at the other end of the count is out of
reach while there are fewer samples than 32-bit numbers.

The stop line of a supervisor and the limit switches of an actuator are debounces among other
things that are called all the time.  `Debounce.Use` is what a call makes of the debounce; all that
has to be known of a supervisor or of a monitor is the use that each call makes of it.
-/
import Mathlib.Algebra.Ring.Nat
import Mathlib.Order.Bounds.Basic
import Mathlib.Order.MinMax
import FieldbusNode.Bench.Sensors
import FieldbusNode.Proofs.PreRunChecks
import FieldbusNode.Proofs.StopLine
namespace FieldbusNode
namespace Debounce

/-! ### Excesses -/

/-- How many more samples are asserted than clear. -/
def excess (samples : List Bool) : ℤ := samples.count true - samples.count false

/-- The excesses of the blocks of latest samples. -/
def excesses (samples : List Bool) : Set ℤ := excess '' {block | block <:+ samples}

/-- What one sample adds to an excess. -/
def lift (asserted : Bool) : ℤ := if asserted then 1 else -1

theorem excess_concat (samples : List Bool) (asserted : Bool) :
    excess (samples ++ [asserted]) = excess samples + lift asserted := by
  unfold excess lift
  rw [List.count_append, List.count_append]
  cases asserted <;> simp <;> omega

/-- **One more sample moves the greatest excess, but not below that of the empty block.** -/
theorem isGreatest_excesses_concat {samples : List Bool} {most : ℤ}
    (greatest : IsGreatest (excesses samples) most) (asserted : Bool) :
    IsGreatest (excesses (samples ++ [asserted])) (max 0 (most + lift asserted)) := by
  obtain ⟨⟨block, suffix, reached⟩, bound⟩ := greatest
  constructor
  · rcases max_choice 0 (most + lift asserted) with none | moved
    · rw [none]
      exact ⟨[], List.nil_suffix, rfl⟩
    · rw [moved, ← reached, ← excess_concat]
      exact ⟨block ++ [asserted], List.suffix_append_self_iff.mpr suffix, rfl⟩
  · rintro _ ⟨later, suffix, rfl⟩
    rcases List.suffix_concat_iff.mp suffix with rfl | ⟨rest, rfl, inner⟩
    · exact le_max_left _ _
    · have le : excess rest ≤ most := bound ⟨rest, inner, rfl⟩
      rw [excess_concat]
      exact le_max_of_le_right (Int.add_le_add_right le _)

/-! ### The count -/

variable {d : Debounce}

/-- A debounce is what the samples it was given make of it. -/
structure Follows (d : Debounce) (limit : Nat) (samples : List Bool) : Prop where
  /-- The count is the greatest excess of a block of latest samples. -/
  count : IsGreatest (excesses samples) d.count
  /-- It is tripped when some block of latest samples has an excess beyond the limit. -/
  tripped : d.tripped = true ↔ ∃ block, block <:+ samples ∧ (limit : ℤ) < excess block

theorem count_run_le (d : Debounce) (samples : List Bool) :
    (d.run samples).count ≤ d.count + samples.length := by
  induction samples using List.reverseRecOn with
  | nil => exact Nat.le_refl _
  | append_singleton samples asserted ih =>
      have up : countUp (d.run samples).count ≤ (d.run samples).count + 1 := Nat.min_le_left _ _
      have down : (d.run samples).count - 1 ≤ (d.run samples).count := Nat.sub_le _ _
      rw [run_concat, List.length_append, List.length_singleton]
      cases asserted
      · show (d.run samples).count - 1 ≤ _
        omega
      · show countUp (d.run samples).count ≤ _
        omega

/-- Away from the end of its range the count takes one sample like the greatest excess. -/
theorem count_sample (room : d.count < uint32Max) (asserted : Bool) :
    ((d.sample asserted).count : ℤ) = max 0 (d.count + lift asserted) := by
  cases asserted with
  | true =>
      have up : (d.sample true).count = d.count + 1 := Nat.min_eq_left room
      rw [up, lift, if_pos rfl]
      omega
  | false =>
      have down : (d.sample false).count = d.count - 1 := rfl
      rw [down, lift, if_neg Bool.false_ne_true]
      omega

theorem isGreatest_run (zero : d.count = 0) {samples : List Bool} (few : samples.length < 2 ^ 32) :
    IsGreatest (excesses samples) ((d.run samples).count : ℤ) := by
  induction samples using List.reverseRecOn with
  | nil =>
      have start : (d.run []).count = 0 := zero
      rw [start]
      refine ⟨⟨[], List.nil_suffix, rfl⟩, ?_⟩
      rintro _ ⟨block, suffix, rfl⟩
      rw [List.suffix_nil.mp suffix]
      exact le_refl _
  | append_singleton samples asserted ih =>
      rw [List.length_append, List.length_singleton] at few
      have room : (d.run samples).count < uint32Max := by
        have le := d.count_run_le samples
        unfold uint32Max
        omega
      rw [run_concat, count_sample room]
      exact isGreatest_excesses_concat (ih (by omega)) asserted

theorem follows_run (zero : d.count = 0) {samples : List Bool} (few : samples.length < 2 ^ 32) :
    (d.run samples).Follows d.limit samples := by
  obtain ⟨⟨most, suffix, reached⟩, bound⟩ := isGreatest_run zero few
  refine ⟨isGreatest_run zero few, ?_⟩
  have meaning : (d.run samples).tripped = true ↔ (d.limit : ℤ) < (d.run samples).count := by
    rw [tripped, limit_run, decide_eq_true_iff, Int.ofNat_lt]
  rw [meaning]
  constructor
  · intro beyond
    exact ⟨most, suffix, reached ▸ beyond⟩
  · rintro ⟨block, inner, beyond⟩
    exact lt_of_lt_of_le beyond (bound ⟨block, inner, rfl⟩)

/-- What was asserted in a row from a zero count is counted in full. -/
theorem count_run_asserted (zero : d.count = 0) {n : Nat} (few : n < 2 ^ 32) :
    (d.run (List.replicate n true)).count = n := by
  induction n with
  | zero => exact zero
  | succ n ih =>
      have before := ih (by omega)
      have room : n + 1 ≤ uint32Max := by
        unfold uint32Max
        omega
      rw [List.replicate_succ', run_concat]
      show countUp (d.run (List.replicate n true)).count = n + 1
      rw [before]
      exact Nat.min_eq_left room

theorem count_run_clear (d : Debounce) (n : Nat) :
    (d.run (List.replicate n false)).count = d.count - n := by
  induction n with
  | zero => rfl
  | succ n ih =>
      rw [List.replicate_succ', run_concat]
      show (d.run (List.replicate n false)).count - 1 = d.count - (n + 1)
      rw [ih, Nat.sub_sub]

/-- A row beyond the limit keeps a debounce tripped for as many clear samples, less one, as it is
beyond the limit. -/
theorem tripped_row_iff (zero : d.count = 0) {n : Nat} (few : n < 2 ^ 32) (beyond : d.limit < n)
    (k : Nat) :
    (d.run (List.replicate n true ++ List.replicate k false)).tripped = true ↔
      k ≤ n - d.limit - 1 := by
  have split : d.run (List.replicate n true ++ List.replicate k false) =
      (d.run (List.replicate n true)).run (List.replicate k false) := List.foldl_append
  rw [split, tripped, limit_run, limit_run, count_run_clear, count_run_asserted zero few,
    decide_eq_true_iff]
  omega

/-! ### Debounces in use -/

/-- What a call makes of a debounce. -/
inductive Use
  | samples (asserted : Bool)
  | resets
  | passes
  deriving DecidableEq

/-- The debounce behind a call. -/
def use (d : Debounce) : Use → Debounce
  | .samples asserted => d.sample asserted
  | .resets => d.reset
  | .passes => d

/-- The sample that a call takes. -/
def Use.sample? : Use → Option Bool
  | .samples asserted => some asserted
  | _ => none

/-- The samples taken since the last reset. -/
def samplesTaken (uses : List Use) : List Bool :=
  (uses.rtakeWhile (· != .resets)).filterMap Use.sample?

theorem samplesTaken_concat (uses : List Use) (u : Use) :
    samplesTaken (uses ++ [u]) =
      if u = .resets then [] else samplesTaken uses ++ u.sample?.toList := by
  unfold samplesTaken
  rw [List.rtakeWhile_concat]
  cases u <;> simp [Use.sample?]

/-- **A debounce in use has taken the samples since its last reset, and nothing else.** -/
theorem foldl_use (limit : Nat) (uses : List Use) :
    uses.foldl use (.ofLimit limit) = (ofLimit limit).run (samplesTaken uses) := by
  induction uses using List.reverseRecOn with
  | nil => rfl
  | append_singleton uses u ih =>
      rw [List.foldl_append, List.foldl_cons, List.foldl_nil, ih, samplesTaken_concat]
      cases u with
      | samples asserted => exact (run_concat (samplesTaken uses) asserted).symm
      | resets =>
          show ((ofLimit limit).run (samplesTaken uses)).reset = ofLimit limit
          rw [reset, limit_run]
          rfl
      | passes =>
          have nothing : samplesTaken uses ++ Use.passes.sample?.toList = samplesTaken uses :=
            List.append_nil _
          rw [if_neg (by decide), nothing]
          rfl

end Debounce

/-! ### The stop line of a supervisor -/

namespace Supervisor

/-- A call of a supervisor. -/
inductive Call
  | sampleStopLine (asserted : Bool)
  | observeMaster (counter : UInt16)
  | rearmMaster (counter : UInt16)
  | restartDwell
  | tickDwell
  | clear

/-- What a call makes of a supervisor. -/
def call (s : Supervisor) : Call → Supervisor
  | .sampleStopLine asserted => s.sampleStopLine asserted
  | .observeMaster counter => s.observeMaster counter
  | .rearmMaster counter => s.rearmMaster counter
  | .restartDwell => s.restartDwell
  | .tickDwell => s.tickDwell
  | .clear => s.clear

/-- What a call makes of the stop-line debounce: only one samples it, and only one clears it. -/
def Call.use : Call → Debounce.Use
  | sampleStopLine asserted => .samples asserted
  | clear => .resets
  | _ => .passes

theorem stopLine_call (s : Supervisor) (c : Call) : (s.call c).stopLine = s.stopLine.use c.use := by
  cases c <;> rfl

theorem stopLine_calls (s : Supervisor) (calls : List Call) :
    (calls.foldl call s).stopLine = (calls.map Call.use).foldl Debounce.use s.stopLine := by
  induction calls generalizing s with
  | nil => rfl
  | cons c rest ih => rw [List.foldl_cons, ih, stopLine_call, List.map_cons, List.foldl_cons]

end Supervisor

/-! ### The limit switches of an actuator -/

namespace Actuator.Monitor

/-- A call of a monitor. -/
inductive Call
  | sample
  | enable
  | disable
  | estop
  | commandCurrent (current : Int32)
  | haltStep
  | reset

/-- What happens to a board before a call, and the call. -/
structure Turn (β : Type) where
  stir : β → β
  call : Call

/-- A monitor on its board, and what its calls so far made of the limit-switch debounce. -/
structure Watch (β : Type) where
  monitor : Monitor
  board : β
  uses : List Debounce.Use

variable {β : Type} [Hardware β]

theorem limitSwitch_disable (m : Monitor) (b : β) :
    (m.disable b).1.limitSwitch = m.limitSwitch := by
  unfold disable
  dsimp only
  split <;> rfl

theorem limitSwitch_commandCurrent (m : Monitor) (current : Int32) (b : β) :
    (m.commandCurrent current b).2.1.limitSwitch = m.limitSwitch := by
  unfold commandCurrent
  split
  · rfl
  split
  · rfl
  split <;> rfl

theorem limitSwitch_haltStep (m : Monitor) (b : β) :
    (m.haltStep b).2.1.limitSwitch = m.limitSwitch := by
  unfold haltStep
  split
  · rfl
  split
  · split
    · rfl
    · exact m.limitSwitch_commandCurrent _ b
  · exact m.limitSwitch_commandCurrent 0 b

namespace Watch

/-- A monitor that has just been made. -/
def begin (limits : Limits) (motorEncoder : Bool) (b : β) : Watch β :=
  ⟨.ofLimits limits motorEncoder, b, []⟩

/-- What a call makes of it. -/
def call (w : Watch β) : Call → Watch β
  | .sample =>
    let (r, b) := Readings.collect w.monitor.motorEncoder w.board
    ⟨w.monitor.observe r, Journal.noteAll (w.monitor.observeEvents r) b,
      w.uses ++ [.samples (r.sample.limitSwitches != 0)]⟩
  | .enable =>
    let (m, b) := w.monitor.enable w.board
    ⟨m, b, w.uses ++ [.passes]⟩
  | .disable =>
    let (m, b) := w.monitor.disable w.board
    ⟨m, b, w.uses ++ [.passes]⟩
  | .estop =>
    let (m, b) := w.monitor.estop w.board
    ⟨m, b, w.uses ++ [.passes]⟩
  | .commandCurrent current =>
    let (_, m, b) := w.monitor.commandCurrent current w.board
    ⟨m, b, w.uses ++ [.passes]⟩
  | .haltStep =>
    let (_, m, b) := w.monitor.haltStep w.board
    ⟨m, b, w.uses ++ [.passes]⟩
  | .reset => ⟨w.monitor.reset, w.board, w.uses ++ [.resets]⟩

/-- What a turn makes of it. -/
def turn (w : Watch β) (t : Turn β) : Watch β :=
  { w with board := t.stir w.board }.call t.call

/-- What turns make of it, one after another. -/
def after (w : Watch β) (turns : List (Turn β)) : Watch β :=
  turns.foldl turn w

/-- The debounce is what the uses make of a new one. -/
def Kept (limit : Nat) (w : Watch β) : Prop :=
  w.monitor.limitSwitch = w.uses.foldl Debounce.use (.ofLimit limit)

theorem Kept.call {limit : Nat} {w : Watch β} (kept : w.Kept limit) (c : Call) :
    (w.call c).Kept limit := by
  have one (u : Debounce.Use) : (w.uses ++ [u]).foldl Debounce.use (.ofLimit limit) =
      w.monitor.limitSwitch.use u := by
    rw [List.foldl_append, ← kept]
    rfl
  cases c with
  | sample => exact (one (.samples _)).symm
  | reset => exact (one .resets).symm
  | enable => exact (w.monitor.limitSwitch_enable w.board).trans (one .passes).symm
  | disable => exact (w.monitor.limitSwitch_disable w.board).trans (one .passes).symm
  | estop => exact (w.monitor.limitSwitch_estop w.board).trans (one .passes).symm
  | commandCurrent current =>
      exact (w.monitor.limitSwitch_commandCurrent current w.board).trans (one .passes).symm
  | haltStep => exact (w.monitor.limitSwitch_haltStep w.board).trans (one .passes).symm

theorem Kept.after {limit : Nat} {w : Watch β} (kept : w.Kept limit) (turns : List (Turn β)) :
    (w.after turns).Kept limit := by
  induction turns generalizing w with
  | nil => exact kept
  | cons t rest ih =>
      have stirred : Kept limit { w with board := t.stir w.board } := kept
      exact ih (stirred.call t.call)

end Watch

theorem limitSwitch_evaluate (m : Monitor) :
    m.evaluate.limitSwitch = (m.sample.isSome && m.limitSwitch.tripped) := by
  unfold evaluate
  cases m.sample <;> rfl

end Actuator.Monitor

/-! ### The law of the debounce -/

/-- **Closed form of the debounce.**  From a zero count, fewer samples than 32-bit numbers leave the
greatest excess of a block of latest samples, and a trip if one exceeds the limit.  So a row beyond
the limit outlasts exactly as many clear samples, less one, as it is beyond the limit.  The stop
line of a supervisor and the limit switches of an actuator follow the samples since they were
cleared last, whatever else is called. -/
theorem Debounce.closed_form :
    (∀ (d : Debounce) (samples : List Bool), d.count = 0 → samples.length < 2 ^ 32 →
      (d.run samples).Follows d.limit samples) ∧
    (∀ (d : Debounce) (n k : Nat), d.count = 0 → d.limit < n → n < 2 ^ 32 →
      ((d.run (List.replicate n true ++ List.replicate k false)).tripped = true ↔
        k ≤ n - d.limit - 1)) ∧
    (∀ (config : SafetySection) (calls : List Supervisor.Call),
      let s := calls.foldl Supervisor.call (.ofConfig config)
      let samples := samplesTaken (calls.map Supervisor.Call.use)
      s.stopLine = (ofLimit config.stopLineLimit.toNat).run samples ∧
        (samples.length < 2 ^ 32 → s.stopLine.Follows config.stopLineLimit.toNat samples)) ∧
    ∀ {β : Type} [Hardware β] (limits : Limits) (motorEncoder : Bool) (b : β)
      (turns : List (Actuator.Monitor.Turn β)),
      let w := (Actuator.Monitor.Watch.begin limits motorEncoder b).after turns
      let samples := samplesTaken w.uses
      w.monitor.limitSwitch = (ofLimit limits.limitSwitchLimit.toNat).run samples ∧
        (samples.length < 2 ^ 32 →
          w.monitor.limitSwitch.Follows limits.limitSwitchLimit.toNat samples) ∧
        w.monitor.evaluate.limitSwitch =
          (w.monitor.sample.isSome && w.monitor.limitSwitch.tripped) := by
  refine ⟨fun d samples zero few => follows_run zero few,
    fun d n k zero beyond few => tripped_row_iff zero few beyond k, ?_, ?_⟩
  · intro config calls s samples
    have run : s.stopLine = (ofLimit config.stopLineLimit.toNat).run samples :=
      (Supervisor.stopLine_calls (.ofConfig config) calls).trans (foldl_use _ _)
    refine ⟨run, fun few => ?_⟩
    rw [run]
    exact follows_run rfl few
  · intro β _ limits motorEncoder b turns w samples
    have new : (Actuator.Monitor.Watch.begin limits motorEncoder b).Kept
        limits.limitSwitchLimit.toNat := rfl
    have run : w.monitor.limitSwitch = (ofLimit limits.limitSwitchLimit.toNat).run samples :=
      (new.after turns).trans (foldl_use _ _)
    refine ⟨run, fun few => ?_, w.monitor.limitSwitch_evaluate⟩
    rw [run]
    exact follows_run rfl few

/-- Samples that hover between zero and two. -/
def Debounce.hovering : List Bool := [true, true, false, false, false, true, true, false, true]

/-- Asserted samples, a clear, and two more among other calls. -/
def Supervisor.cleared : List Call :=
  [.sampleStopLine true, .sampleStopLine true, .clear, .sampleStopLine true, .tickDwell,
    .observeMaster 7, .sampleStopLine true]

/-- The switches are read twice while one is pressed, and once more when they cannot be read. -/
def Actuator.Monitor.pressedTwice : List (Turn Bench.Sensors) :=
  [⟨fun s => { s with limitSwitches := some 4 }, .sample⟩, ⟨id, .haltStep⟩, ⟨id, .sample⟩,
    ⟨id, .enable⟩, ⟨fun s => { s with limitSwitches := none }, .sample⟩]

/-- With a limit of one, hovering samples trip at the end, five asserted ones outlast three clear
ones and no fourth, and a failed read of the switches counts like a clear one. -/
theorem Debounce.closed_form_hovering :
    ((ofLimit 1).run hovering).tripped = true ∧ IsGreatest (excesses hovering) 2 ∧
      ((ofLimit 1).run (List.replicate 5 true ++ List.replicate 3 false)).tripped = true ∧
      ((ofLimit 1).run (List.replicate 5 true ++ List.replicate 4 false)).tripped = false ∧
      (Supervisor.cleared.foldl Supervisor.call
        (.ofConfig { stopLineLimit := 1 })).stopLineTripped = true ∧
      ((Actuator.Monitor.Watch.begin { limitSwitchLimit := 1 } true
        ({} : Bench.Sensors)).after Actuator.Monitor.pressedTwice).monitor.evaluate.limitSwitch =
          false := by
  obtain ⟨follows, row, supervisor, monitor⟩ := closed_form
  have hovers := follows (ofLimit 1) hovering rfl (by decide)
  obtain ⟨-, stopLine⟩ := supervisor { stopLineLimit := 1 } Supervisor.cleared
  obtain ⟨switches, -, shown⟩ := monitor { limitSwitchLimit := 1 } true ({} : Bench.Sensors)
    Actuator.Monitor.pressedTwice
  refine ⟨hovers.tripped.mpr ?_, hovers.count, (row (ofLimit 1) 5 3 rfl ?_ ?_).mpr ?_, ?_, ?_, ?_⟩
  · exact ⟨[true, true, false, true], by decide, by decide⟩
  · decide
  · decide
  · decide
  · rw [Bool.eq_false_iff, ne_eq, row (ofLimit 1) 5 4 rfl (by decide) (by decide)]
    decide
  · exact (stopLine (by decide)).tripped.mpr ⟨[true, true], by decide, by decide⟩
  · rw [shown, switches]
    decide +kernel

end FieldbusNode
