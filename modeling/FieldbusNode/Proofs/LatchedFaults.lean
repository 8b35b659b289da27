/-
Latched faults are never lost.

A service is a started controller and the rounds it serves: before each cycle the board
may change in any way whatever, and the cycle runs for any edge.  The board is arbitrary,
so reads and commands may fail as they like.

What a cycle publishes as flags is still published by the next one, unless the tick
between them reset the errors.  And what is published behind such a tick has a cause
behind the reset: a later call of the tick, or the sampling of the next cycle.
-/
import FieldbusNode.Proofs.Header
import FieldbusNode.Proofs.Tick.Trace
namespace FieldbusNode

open Bench (Hook Recorded)
open Simulation (SimBoard)
open Simulation.Station (legConfig)

/-! ### The flags of a cycle -/

namespace Controller

variable {β : Type} [Board β] (c : Controller β)

/-- The flags among the bytes a cycle hands to the transport. -/
def sentFlags (edge : Edge) : Flags :=
  Flags.ofByte ((c.sent edge).getD Outbound.errorFlags.offset 0)

/-- The header of a cycle carries the flags behind its sampling. -/
theorem sentFlags_eq (valid : c.data.layout.Valid) (edge : Edge) :
    c.sentFlags edge = (c.inputsSampled edge).device.flags := by
  have layout : (c.inputsSampled edge).data.layout = c.data.layout :=
    layout_sampleInputs (c.accountEdge edge) _
  have inside : Outbound.errorFlags.offset < (c.inputsSampled edge).data.layout.txSize := by
    rw [layout]
    exact valid.2.1
  rw [sentFlags, sent, ProcessData.wireBytes, ProcessData.layout_writeHeader,
    Record.getD_leading _ inside, ProcessData.getByte_writeHeader, Flags.ofByte_toByte]

/-- The trace of a tick. -/
def traced : Traced β := (c.machine.tick c.data (⟨c.mounted, []⟩ : Traced β)).2

/-- A trace is of the calls of the tick, ends with its device and loses nothing. -/
theorem traced_tick : c.traced.flags = c.tick.device.flags ∧
    c.traced.calls.map (·.hook) = c.tickHooks.reverse ∧ c.traced.Latched c.device.flags := by
  have recalled := (Machine.tick_simulates Traced.simulates c.machine c.data
    (⟨rfl, rfl⟩ : Traced.Recalls ⟨c.mounted, []⟩ ⟨c.mounted, []⟩)).2
  have recorded := (c.machine.tick_recorded c.data ⟨c.mounted, []⟩).2
  have way := Machine.tick_way c.machine c.data (⟨c.mounted, []⟩ : Traced β)
  refine ⟨?_, ?_, way.keeps Traced.latched_keeps (Traced.latched_start c.mounted)⟩
  · exact congrArg (fun m : Mounted β => m.device.flags) (recalled.1.trans recorded)
  · rw [tickHooks, List.reverse_reverse]
    exact recalled.2

theorem resets_iff : .resetError ∈ c.tickHooks ↔ c.machine.Clears c.data := by
  have way := Machine.tick_way c.machine c.data (⟨c.mounted, []⟩ : Recorded (Mounted β))
  rw [tickHooks, List.mem_reverse]
  exact way.resets_iff rfl

/-- Without a reset a tick keeps what is latched. -/
theorem subset_tick (unreset : ¬c.machine.Clears c.data) :
    c.device.flags ⊆ c.tick.device.flags := by
  obtain ⟨flags, hooks, latched⟩ := c.traced_tick
  rw [← flags]
  refine latched.kept ?_
  intro call mem same
  have listed : call.hook ∈ c.tickHooks := by
    rw [← List.mem_reverse, ← hooks]
    exact List.mem_map_of_mem mem
  rw [same, resets_iff] at listed
  exact unreset listed

/-- Behind the last reset of a tick everything latched was raised by one of its calls. -/
theorem raised_tick (reset : c.machine.Clears c.data) :
    ∃ newer last older, c.traced.calls = newer ++ last :: older ∧ last.hook = .resetError ∧
      (∀ call ∈ newer, call.hook ≠ .resetError) ∧
      ∀ flag, c.tick.device.flags.has flag = true →
        ∃ call ∈ newer, call.raised.has flag = true := by
  obtain ⟨flags, hooks, latched⟩ := c.traced_tick
  have listed : .resetError ∈ c.traced.calls.map (·.hook) := by
    rw [hooks, List.mem_reverse, resets_iff]
    exact reset
  obtain ⟨before, after, cut, unreset⟩ := List.eq_append_cons_of_mem listed
  obtain ⟨newer, rest, split, rfl, rest_eq⟩ := List.map_eq_append_iff.mp cut
  obtain ⟨last, older, rfl, is_reset, -⟩ := List.map_eq_cons_iff.mp rest_eq
  have away : ∀ call ∈ newer, call.hook ≠ .resetError := by
    intro call mem same
    exact unreset (same ▸ List.mem_map_of_mem mem)
  refine ⟨newer, last, older, split, is_reset, away, ?_⟩
  rw [← flags]
  exact latched.caused split is_reset away

/-- A controller that starts has the layout of its kind. -/
theorem valid_start {config : Config} {b b' : β} {c : Controller β}
    (h : start config b = (.ok c, b')) : c.data.layout.Valid := by
  unfold start at h
  cases named : config.device.id.kind? with
  | none => simp [named] at h
  | some kind =>
      simp only [named] at h
      split at h
      · simp at h
      rename_i data board setUp
      simp only [Prod.mk.injEq, Except.ok.injEq] at h
      obtain ⟨rfl, -⟩ := h
      show data.layout.Valid
      rw [Device.layout_setUp setUp]
      exact kind.layout_valid

end Controller

/-! ### Services -/

/-- What happens to a board before a cycle, and the edge the cycle runs for. -/
structure Round (β : Type) where
  stir : β → β
  edge : Edge

/-- A controller and the rounds it serves, one cycle each. -/
structure Service (β : Type) where
  first : Controller β
  rounds : Nat → Round β

namespace Service

variable {β : Type} [Board β]

/-- The controller after so many cycles. -/
def after (v : Service β) : Nat → Controller β
  | 0 => v.first
  | n + 1 =>
    let c := v.after n
    { c with board := (v.rounds n).stir c.board }.syncCycle (v.rounds n).edge

variable (v : Service β)

/-- The controller as a cycle finds it. -/
def ready (n : Nat) : Controller β :=
  { v.after n with board := (v.rounds n).stir (v.after n).board }

/-- The controller of a cycle with its inputs sampled. -/
def sampled (n : Nat) : Controller β := (v.ready n).inputsSampled (v.rounds n).edge

/-- The controller of a cycle as the tick finds it. -/
def ticking (n : Nat) : Controller β := (v.ready n).readied (v.rounds n).edge

/-- The flags a cycle publishes. -/
def published (n : Nat) : Flags := (v.ready n).sentFlags (v.rounds n).edge

/-- The flags the sampling of a cycle raises. -/
def raisedBySampling (n : Nat) : Flags := (v.sampled n).device.flags.diff (v.ready n).device.flags

/-- The tick of a cycle runs its pre-run checks or its reset. -/
def Clears (n : Nat) : Prop := (v.ticking n).machine.Clears (v.ticking n).data

instance (n : Nat) : Decidable (v.Clears n) :=
  inferInstanceAs (Decidable (Machine.Clears _ _))

/-- The calls of the tick of a cycle, in order, with the flags each of them raised. -/
def trace (n : Nat) : List Raise := (v.ticking n).traced.calls.reverse

theorem valid_after (valid : v.first.data.layout.Valid) (n : Nat) :
    (v.after n).data.layout.Valid := by
  induction n with
  | zero => exact valid
  | succ n ih =>
      rw [after, Controller.layout_syncCycle]
      exact ih

theorem published_eq (valid : v.first.data.layout.Valid) (n : Nat) :
    v.published n = (v.sampled n).device.flags :=
  (v.ready n).sentFlags_eq (v.valid_after valid n) _

/-- The next cycle finds the device as the tick leaves it. -/
theorem flags_ready (n : Nat) : (v.ready (n + 1)).device.flags = (v.ticking n).tick.device.flags :=
  rfl

/--
**Latched faults are never lost.**

This is about a controller of any kind on any board, once it has started, and about any
two cycles one after another.  Unless the tick between them runs the pre-run checks or
the reset, the second publishes all the flags of the first.  If it does, its calls have
one of `resetError` among them, and whatever the second cycle publishes was raised
behind the last one: by a later call of the tick, or by the sampling of that cycle.
-/
theorem latched_never_lost {config : Config} {b b' : β}
    (started : Controller.start config b = (.ok v.first, b')) (n : Nat) :
    (¬v.Clears n → v.published n ⊆ v.published (n + 1)) ∧
      (v.Clears n → ∃ earlier reset later, v.trace n = earlier ++ reset :: later ∧
        reset.hook = .resetError ∧ (∀ call ∈ later, call.hook ≠ .resetError) ∧
        ∀ flag, (v.published (n + 1)).has flag = true →
          (∃ call ∈ later, call.raised.has flag = true) ∨
            (v.raisedBySampling (n + 1)).has flag = true) := by
  have valid := Controller.valid_start started
  have sampled : (v.ticking n).tick.device.flags ⊆ (v.sampled (n + 1)).device.flags := by
    rw [← flags_ready]
    exact ((v.ready (n + 1)).grows_inputsSampled _).subset
  rw [v.published_eq valid, v.published_eq valid]
  refine ⟨?_, ?_⟩
  · intro unreset
    have ticked := (v.ticking n).subset_tick unreset
    exact Flags.subset_trans ((v.ready n).grows_readied _).subset
      (Flags.subset_trans ticked sampled)
  · intro reset
    obtain ⟨newer, last, older, cut, is_reset, unreset, raised⟩ := (v.ticking n).raised_tick reset
    refine ⟨older.reverse, last, newer.reverse, ?_, is_reset, ?_, ?_⟩
    · rw [trace, cut, List.reverse_append, List.reverse_cons, List.append_assoc]
      rfl
    · exact fun call mem => unreset call (List.mem_reverse.mp mem)
    · intro flag mem
      by_cases old : (v.ready (n + 1)).device.flags.has flag = true
      · obtain ⟨call, among, cause⟩ := raised flag old
        exact Or.inl ⟨call, List.mem_reverse.mpr among, cause⟩
      · refine Or.inr ?_
        rw [raisedBySampling, Flags.has_diff, mem, Bool.eq_false_iff.mpr old]
        rfl

/-- A run command, then one cycle with a thermistor that is too hot. -/
def heated : Nat → Round SimBoard
  | 0 => ⟨fun b => { b with rx := b.rx.setByte Inbound.command.offset State.run.toByte }, ⟨1, 0⟩⟩
  | 1 => ⟨fun b => { b with thermistors := .fill 65535 }, ⟨2, 0⟩⟩
  | n + 2 => ⟨fun b => { b with thermistors := .fill 1500 }, ⟨n + 3, 0⟩⟩

/-- A leg still publishes a heat that is over, and a heat that comes up behind a reset has its
cause in the sampling. -/
theorem latched_never_lost_heated :
    ∃ v : Service SimBoard, (∃ b', Controller.start legConfig (.fresh 10000000) = (.ok v.first, b')) ∧
      v.Clears 0 ∧ ¬v.Clears 1 ∧ v.published 1 = { thermistor := true } ∧
      (v.raisedBySampling 1).has .thermistor = true ∧ (v.published 2).has .thermistor = true := by
  obtain ⟨v, ⟨b', started⟩, resets, keeps, hot, calls⟩ : ∃ v : Service SimBoard,
      (∃ b', Controller.start legConfig (.fresh 10000000) = (.ok v.first, b')) ∧ v.Clears 0 ∧
        ¬v.Clears 1 ∧ v.published 1 = { thermistor := true } ∧
        (v.trace 0).map (·.raised) = [∅, ∅, ∅] :=
    ⟨⟨_, heated⟩, ⟨_, rfl⟩, by decide +kernel, by decide +kernel, by decide +kernel,
      by decide +kernel⟩
  obtain ⟨-, behind⟩ := v.latched_never_lost started 0
  obtain ⟨earlier, reset, later, trace, -, -, caused⟩ := behind resets
  obtain ⟨kept, -⟩ := v.latched_never_lost started 1
  refine ⟨v, ⟨b', started⟩, resets, keeps, hot, ?_, ?_⟩
  · rcases caused .thermistor (by rw [hot]; rfl) with ⟨call, among, raised⟩ | cause
    · have listed : call.raised ∈ (v.trace 0).map (·.raised) := by
        rw [trace]
        exact List.mem_map_of_mem (List.mem_append_right _ (List.mem_cons_of_mem _ among))
      have silent : call.raised = ∅ := by simpa [calls] using listed
      rw [silent, Flags.has_empty] at raised
      nomatch raised
    · exact cause
  · exact kept keeps .thermistor (by rw [hot]; rfl)

end Service
end FieldbusNode
