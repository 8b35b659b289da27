/-
Which calls latch flags, and which clear them.

A device raises flags when it samples, when the hardware refuses a call, and when it is
stopped in an emergency.  Only one call clears any: the reset of errors, which clears
all.  So between two resets the flags of a device can only grow (`Flags.Grows`), on any
board whatever, and the mark of the emergency stop is left to the two calls that are
about it.
-/
import FieldbusNode.Device
namespace FieldbusNode

namespace Flags

instance : HasSubset Flags := ⟨fun f g => ∀ flag, f.has flag = true → g.has flag = true⟩

theorem subset_refl (f : Flags) : f ⊆ f := fun _ mem => mem

theorem subset_trans {f g h : Flags} (first : f ⊆ g) (second : g ⊆ h) : f ⊆ h :=
  fun flag mem => second flag (first flag mem)

theorem subset_raise (f : Flags) (flag : Flag) : f ⊆ f.raise flag := by
  intro other mem
  rw [has_raise, mem, Bool.true_or]

theorem has_raise_self (f : Flags) (flag : Flag) : (f.raise flag).has flag = true := by
  rw [has_raise, decide_eq_true rfl, Bool.or_true]

theorem hasFault_of_has {f : Flags} {flag : Flag} (h : f.has flag = true)
    (fault : faultMask.has flag = true) : f.hasFault = true := by
  unfold hasFault intersects
  rw [List.any_eq_true]
  refine ⟨flag, ?_, by rw [h, fault]; rfl⟩
  cases flag <;> decide

theorem hasFault_mono {f g : Flags} (sub : f ⊆ g) (fault : f.hasFault = true) :
    g.hasFault = true := by
  unfold hasFault intersects at fault ⊢
  rw [List.any_eq_true] at fault ⊢
  obtain ⟨flag, listed, both⟩ := fault
  rw [Bool.and_eq_true] at both
  exact ⟨flag, listed, by rw [sub flag both.1, both.2]; rfl⟩

/-- Flags were raised, none was cleared, and the mark of the emergency stop is as it was. -/
structure Grows (f g : Flags) : Prop where
  subset : f ⊆ g
  estop : g.has .estop = f.has .estop

theorem Grows.refl (f : Flags) : Grows f f := ⟨subset_refl f, rfl⟩

theorem Grows.trans {f g h : Flags} (first : Grows f g) (second : Grows g h) : Grows f h :=
  ⟨subset_trans first.subset second.subset, second.estop.trans first.estop⟩

theorem grows_raise (f : Flags) {flag : Flag} (other : flag ≠ .estop) : Grows f (f.raise flag) := by
  refine ⟨subset_raise f flag, ?_⟩
  rw [has_raise, decide_eq_false (Ne.symm other), Bool.or_false]

theorem grows_union (f : Flags) {g : Flags} (unmarked : g.has .estop = false) :
    Grows f (f.union g) := by
  refine ⟨?_, ?_⟩
  · intro flag mem
    rw [has_union, mem, Bool.true_or]
  · rw [has_union, unmarked, Bool.or_false]

end Flags

open Flags (Grows)

/-! ### Actuators -/

namespace Actuator

theorem flag_of_failure? {α : Type} {flag : Flag} {r : Reading α} {f : Flag × HardwareError}
    (h : failure? flag r = some f) : f.1 = flag := by
  cases r with
  | ok value => simp [failure?] at h
  | error e =>
      obtain rfl : (flag, e) = f := Option.some.inj h
      rfl

/-- No read is answered by an emergency stop. -/
theorem Readings.ne_estop_of_failed {r : Readings} {f : Flag × HardwareError}
    (mem : f ∈ r.failures) : f.1 ≠ .estop := by
  have raises : f.1 = .sensor ∨ f.1 = .amplifier := by
    simp only [failures, List.mem_filterMap, List.mem_cons, List.not_mem_nil, or_false, id] at mem
    obtain ⟨_, rfl | rfl | rfl | rfl | rfl | rfl | rfl | rfl | rfl, h⟩ := mem
    case inr.inl =>
      obtain ⟨_, -, h⟩ := Option.bind_eq_some_iff.mp h
      exact Or.inl (flag_of_failure? h)
    case inr.inr.inr.inr.inr.inr.inr.inr => exact Or.inr (flag_of_failure? h)
    all_goals exact Or.inl (flag_of_failure? h)
  rcases raises with same | same <;> rw [same] <;> decide

namespace Monitor

theorem grows_latched (flags : Flags) {failures : List (Flag × HardwareError)}
    (unmarked : ∀ f ∈ failures, f.1 ≠ .estop) : Grows flags (latched flags failures) := by
  induction failures generalizing flags with
  | nil => exact .refl flags
  | cons f rest ih =>
      obtain ⟨first, others⟩ := List.forall_mem_cons.mp unmarked
      exact (Flags.grows_raise flags first).trans (ih _ others)

/-- **Sampling latches what fails and what the sample shows.** -/
theorem grows_observe (m : Monitor) (r : Readings) : Grows m.flags (m.observe r).flags := by
  have failed : Grows m.flags (m.take r).flags :=
    grows_latched m.flags fun _ mem => Readings.ne_estop_of_failed mem
  exact failed.trans (Flags.grows_union _ rfl)

variable {β : Type} [Hardware β]

theorem grows_latch (m : Monitor) {flag : Flag} (other : flag ≠ .estop) (e : HardwareError)
    (b : β) : Grows m.flags (m.latch flag e b).1.flags :=
  Flags.grows_raise m.flags other

theorem grows_enable (m : Monitor) (b : β) : Grows m.flags (m.enable b).1.flags := by
  unfold enable
  split
  · exact .refl _
  · exact m.grows_latch (by decide) _ _

theorem grows_disable (m : Monitor) (b : β) : Grows m.flags (m.disable b).1.flags := by
  unfold disable
  dsimp only
  split
  · exact .refl _
  · exact grows_latch { m with outputsEnabled := false } (by decide) _ _

theorem grows_commandCurrent (m : Monitor) (current : Int32) (b : β) :
    Grows m.flags (m.commandCurrent current b).2.1.flags := by
  unfold commandCurrent
  split
  · exact .refl _
  split
  · exact .refl _
  split
  · exact .refl _
  · exact m.grows_latch (by decide) _ _

theorem grows_haltStep (m : Monitor) (b : β) : Grows m.flags (m.haltStep b).2.1.flags := by
  unfold haltStep
  split
  · exact .refl _
  split
  · split
    · exact .refl _
    · exact m.grows_commandCurrent _ b
  · exact m.grows_commandCurrent 0 b

theorem flags_estop (m : Monitor) (b : β) :
    m.flags ⊆ (m.estop b).1.flags ∧ (m.estop b).1.flags.has .estop = true := by
  have disabled := (m.grows_disable b).subset
  have raised := Flags.subset_raise (m.disable b).1.flags .estop
  exact ⟨Flags.subset_trans disabled raised, Flags.has_raise_self _ _⟩

/-- A current that is refused is an amplifier fault from then on. -/
theorem amplifier_of_refused {m : Monitor} {current : Int32} {b : β} :
    (m.commandCurrent current b).1 = false →
      (m.commandCurrent current b).2.1.flags.has .amplifier = true := by
  unfold commandCurrent
  split
  · exact nofun
  split
  · exact nofun
  split
  · exact nofun
  · exact fun _ => m.flags.has_raise_self .amplifier

theorem hasFault_of_givenUp {m : Monitor} {b : β} :
    (m.haltStep b).1 = false → (m.haltStep b).2.1.flags.hasFault = true := by
  unfold haltStep
  split
  · rename_i fault
    exact fun _ => fault
  split
  · split
    · exact nofun
    · exact fun refused => Flags.hasFault_of_has (amplifier_of_refused refused) rfl
  · exact fun refused => Flags.hasFault_of_has (amplifier_of_refused refused) rfl

end Monitor
end Actuator

/-! ### The other kinds of device -/

theorem Boom.grows_observe (boom : Boom) (r : BoomReadings) :
    Grows boom.flags (boom.observe r).flags := by
  have sensed (failed : Bool) :
      Grows boom.flags (if failed then boom.flags.raise .sensor else boom.flags) := by
    cases failed with
    | true => exact Flags.grows_raise _ (by decide)
    | false => exact .refl _
  unfold observe
  dsimp only
  split
  · exact (sensed _).trans (Flags.grows_raise _ (by decide))
  · exact sensed _

theorem Imu.grows_transportFault (unit : Imu) : Grows unit.flags unit.transportFault.flags :=
  Flags.grows_raise _ (by decide)

theorem Imu.grows_reject (unit : Imu) : Grows unit.flags unit.reject.flags :=
  Flags.grows_raise _ (by decide)

theorem Imu.grows_observe (unit : Imu) (reading : Except HardwareError (List UInt8)) :
    Grows unit.flags (unit.observe reading).1.flags := by
  cases reading with
  | ok bytes =>
      unfold observe
      dsimp only
      split
      · exact .refl _
      · exact grows_reject (unit.store _)
  | error e =>
      unfold observe
      dsimp only
      split
      · exact unit.grows_transportFault
      · exact unit.grows_transportFault.trans (grows_reject _)

/-! ### Devices -/

namespace Device

variable {β : Type} [Hardware β] (d : Device) (b : β)

theorem grows_enable : Grows d.flags (d.enable b).1.flags := by
  cases d with
  | actuator joint m => exact m.grows_enable b
  | boom unit | imu unit => exact .refl _

theorem grows_disable : Grows d.flags (d.disable b).1.flags := by
  cases d with
  | actuator joint m => exact m.grows_disable b
  | boom unit | imu unit => exact .refl _

theorem grows_updateOutputs (data : ProcessData) :
    Grows d.flags (d.updateOutputs data b).1.flags := by
  cases d with
  | actuator joint m => exact m.grows_commandCurrent data.currentCommand b
  | boom unit | imu unit => exact .refl _

theorem grows_runHalt : Grows d.flags (d.runHalt b).2.1.flags := by
  cases d with
  | actuator joint m => exact m.grows_haltStep b
  | boom unit | imu unit => exact .refl _

theorem grows_updateInputs (sinceEdge : Nat) (data : ProcessData) :
    Grows d.flags (d.updateInputs sinceEdge data b).1.flags := by
  cases d with
  | actuator joint m => exact m.grows_observe _
  | boom unit => exact unit.grows_observe _
  | imu unit => exact unit.grows_observe _

theorem grows_postSync : Grows d.flags (d.postSync b).1.flags := by
  cases d with
  | actuator joint m => exact .refl _
  | boom unit => exact .refl _
  | imu unit =>
      unfold postSync
      dsimp only
      split
      · exact .refl _
      · exact unit.grows_transportFault

/-- An emergency stop clears no flag and leaves its mark. -/
theorem flags_estop :
    d.flags ⊆ (d.estop b).1.flags ∧ (d.estop b).1.flags.has .estop = true := by
  cases d with
  | actuator joint m => exact m.flags_estop b
  | boom unit | imu unit =>
      exact ⟨unit.flags.subset_raise .estop, unit.flags.has_raise_self .estop⟩

theorem flags_resetError : d.resetError.flags = ∅ := by
  cases d <;> rfl

/-- **A halt controller gives up over a hardware fault only.** -/
theorem hasFault_of_givenUp (failed : (d.runHalt b).1 = false) :
    (d.runHalt b).2.1.flags.hasFault = true := by
  cases d with
  | actuator joint m => exact Actuator.Monitor.hasFault_of_givenUp failed
  | boom unit | imu unit => nomatch failed

end Device
end FieldbusNode
