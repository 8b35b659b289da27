/-
Which call of a tick raised which flag.

A traced device keeps, beside the calls of a tick, the flags each of them raised.  As no
call but the reset of errors clears a flag (`Latching`), whatever is latched at the end
of a tick was raised by a call behind the last reset, or, without a reset, was latched
before or raised since.  `Traced.Latched` says this of a trace, and every hook keeps it.
-/
import FieldbusNode.Proofs.Cycle
import FieldbusNode.Proofs.Latching
import FieldbusNode.Proofs.Tick.Plant
namespace FieldbusNode

open Bench (Hook Recorded)

theorem Flags.has_diff (f g : Flags) (flag : Flag) :
    (f.diff g).has flag = (f.has flag && !g.has flag) := by
  simp [diff]

/-- A call of a hook, with the flags it raised. -/
structure Raise where
  hook : Hook
  raised : Flags
  deriving DecidableEq

/-- A mounted device and what was called on it, newest first. -/
structure Traced (β : Type) where
  mounted : Mounted β
  calls : List Raise := []

namespace Traced

variable {β : Type}

/-- Latched flags. -/
def flags (t : Traced β) : Flags := t.mounted.device.flags

/-- Calls a hook and traces it. -/
def call (t : Traced β) (hook : Hook) (f : Mounted β → Mounted β) : Traced β :=
  ⟨f t.mounted, ⟨hook, (f t.mounted).device.flags.diff t.flags⟩ :: t.calls⟩

instance [Board β] : Plant (Traced β) where
  note e t := { t with mounted := Journal.note e t.mounted }
  trap trap t := { t with mounted := Journal.trap trap t.mounted }
  enableOutputs t := t.call .enableOutputs Plant.enableOutputs
  disableOutputs t := t.call .disableOutputs Plant.disableOutputs
  updateOutputs data t := t.call .updateOutputs (Plant.updateOutputs data)
  estop t := t.call .estop Plant.estop
  resetError t := t.call .resetError Plant.resetError
  runHalt t := ((Plant.runHalt t.mounted).1, t.call .runHalt fun m => (Plant.runHalt m).2)
  faulty t := Plant.faulty t.mounted
  wantsHalt t := Plant.wantsHalt t.mounted
  lineAsserted t := Plant.lineAsserted t.mounted
  assertLine t := t.call .assertLine Plant.assertLine
  releaseLine t := t.call .releaseLine Plant.releaseLine

/-- A traced device and the same device with its calls only recorded. -/
def Recalls (t : Traced β) (r : Recorded (Mounted β)) : Prop :=
  t.mounted = r.plant ∧ t.calls.map (·.hook) = r.hooks

theorem recalls_call {t : Traced β} {r : Recorded (Mounted β)} (h : Recalls t r) (hook : Hook)
    (f : Mounted β → Mounted β) : Recalls (t.call hook f) (r.call hook f) :=
  ⟨congrArg f h.1, congrArg (hook :: ·) h.2⟩

/-- Tracing calls is recording them. -/
theorem simulates [Board β] :
    Plant.Simulates fun (t : Traced β) (r : Recorded (Mounted β)) => Recalls t r where
  note e _ _ h := ⟨congrArg (Journal.note e) h.1, h.2⟩
  enableOutputs h := recalls_call h _ _
  disableOutputs h := recalls_call h _ _
  updateOutputs _ _ _ h := recalls_call h _ _
  estop h := recalls_call h _ _
  resetError h := recalls_call h _ _
  runHalt h := ⟨congrArg (fun m => (Plant.runHalt m).1) h.1, recalls_call h _ _⟩
  assertLine h := recalls_call h _ _
  releaseLine h := recalls_call h _ _
  faulty h := congrArg Plant.faulty h.1
  wantsHalt h := congrArg Plant.wantsHalt h.1
  lineAsserted h := congrArg Plant.lineAsserted h.1

/-- Nothing latched gets lost, given what was latched before the first call. -/
structure Latched (before : Flags) (t : Traced β) : Prop where
  /-- Without a reset everything is still there. -/
  kept : (∀ c ∈ t.calls, c.hook ≠ .resetError) → before ⊆ t.flags
  /-- Behind the last reset nothing is there without a cause. -/
  caused : ∀ {newer older : List Raise} {reset : Raise}, t.calls = newer ++ reset :: older →
    reset.hook = .resetError → (∀ c ∈ newer, c.hook ≠ .resetError) →
      ∀ flag, t.flags.has flag = true → ∃ c ∈ newer, c.raised.has flag = true

theorem latched_start (m : Mounted β) : Latched m.device.flags ⟨m, []⟩ where
  kept _ := Flags.subset_refl _
  caused cut := by simp at cut

variable {before : Flags} {t : Traced β}

/-- A call that clears nothing keeps a trace latched. -/
theorem Latched.call (h : Latched before t) {hook : Hook} (other : hook ≠ .resetError)
    (f : Mounted β → Mounted β) (grows : t.flags ⊆ (f t.mounted).device.flags) :
    Latched before (t.call hook f) where
  kept none := Flags.subset_trans (h.kept fun c mem => none c (List.mem_cons_of_mem _ mem)) grows
  caused := by
    intro newer older reset cut is_reset unreset flag mem
    cases newer with
    | nil =>
        obtain ⟨rfl, -⟩ := List.cons.inj cut
        exact absurd is_reset other
    | cons latest rest =>
        obtain ⟨rfl, cut_rest⟩ := List.cons.inj cut
        by_cases old : t.flags.has flag = true
        · have unreset := fun c mem => unreset c (List.mem_cons_of_mem _ mem)
          obtain ⟨c, among, raised⟩ := h.caused cut_rest is_reset unreset flag old
          exact ⟨c, List.mem_cons_of_mem _ among, raised⟩
        · refine ⟨_, List.mem_cons_self, ?_⟩
          have now : (f t.mounted).device.flags.has flag = true := mem
          rw [Flags.has_diff, now, Bool.eq_false_iff.mpr old]
          rfl

variable [Board β]

/-- A reset leaves nothing that could be without a cause. -/
theorem Latched.reset : Latched before (Plant.resetError t) where
  kept none := absurd rfl (none _ List.mem_cons_self)
  caused := by
    intro _ _ _ _ _ _ flag mem
    have cleared : (Plant.resetError t).flags = ∅ := t.mounted.device.flags_resetError
    rw [cleared, Flags.has_empty] at mem
    nomatch mem

theorem latched_keeps : Plant.Keeps fun t : Traced β => Latched before t where
  note _ _ h := ⟨h.kept, h.caused⟩
  enableOutputs t h :=
    h.call (by decide) Plant.enableOutputs (t.mounted.device.grows_enable t.mounted.board).subset
  disableOutputs t h :=
    h.call (by decide) Plant.disableOutputs (t.mounted.device.grows_disable t.mounted.board).subset
  updateOutputs data t h :=
    h.call (by decide) (Plant.updateOutputs data)
      (t.mounted.device.grows_updateOutputs t.mounted.board data).subset
  estop t h := h.call (by decide) Plant.estop (t.mounted.device.flags_estop t.mounted.board).1
  resetError _ _ := .reset
  runHalt t h :=
    h.call (by decide) (fun m => (Plant.runHalt m).2)
      (t.mounted.device.grows_runHalt t.mounted.board).subset
  assertLine _ h := h.call (by decide) Plant.assertLine (Flags.subset_refl _)
  releaseLine _ h := h.call (by decide) Plant.releaseLine (Flags.subset_refl _)

end Traced

/-! ### Ticks that reset -/

namespace Machine

/-- The tick of a machine runs its pre-run checks or its reset. -/
def Clears (m : Machine) (data : ProcessData) : Prop :=
  m.state = .init ∨ m.state = .idle ∧ data.command = some .run ∨ m.state = .reset

instance (m : Machine) (data : ProcessData) : Decidable (m.Clears data) :=
  inferInstanceAs (Decidable (_ ∨ _))

variable {σ : Type} [Plant σ] {m m₁ m' : Machine} {data : ProcessData} {s s₁ s' : Recorded σ}

theorem Checking.clears (checking : Checking m data s m₁ s₁) : m.Clears data := by
  cases checking with
  | commanded here command => exact Or.inr (Or.inl ⟨here, command⟩)
  | resumed here => exact Or.inl here

theorem not_clears_of_live (live : m.state = .run ∨ m.state = .halt) : ¬m.Clears data := by
  rcases live with here | here <;> simp [Clears, here]

theorem Halting.hooks_eq (halting : Halting m data s m₁ s₁) : s₁.hooks = s.hooks := by
  cases halting with
  | entered => simp
  | standing => rfl

theorem resetError_secured (s : Recorded σ) :
    .resetError ∈ (secured s).hooks ↔ .resetError ∈ s.hooks := by
  obtain ⟨off, switched, called⟩ := s.hooks_secured
  rcases switched with rfl | rfl <;> simp [called]

/-- **Errors are reset by the pre-run checks and by the reset, and by nothing else.** -/
theorem Way.resets_iff (fresh : s.hooks = []) (way : Way m data s m' s') :
    .resetError ∈ s'.hooks ↔ m.Clears data := by
  cases way with
  | waits here command => simp [Clears, here, command, fresh]
  | starts checking => simp [checking.clears]
  | refuses checking => simp [checking.clears]
  | runs here => simp [not_clears_of_live (.inl here), fresh]
  | fails here => simp [not_clears_of_live (.inl here), resetError_secured, fresh]
  | stops here => simp [not_clears_of_live (.inl here), fresh]
  | finishes here => simp [Clears, here, fresh]
  | trips halting =>
      simp [not_clears_of_live halting.origin, resetError_secured, halting.hooks_eq, fresh]
  | breaks halting => simp [not_clears_of_live halting.origin, halting.hooks_eq, fresh]
  | halts halting => simp [not_clears_of_live halting.origin, halting.hooks_eq, fresh]
  | givesUp halting => simp [not_clears_of_live halting.origin, halting.hooks_eq, fresh]
  | clears here => simp [Clears, here]
  | dwells here => simp [Clears, here, fresh]
  | leaves here => simp [Clears, here, fresh]

end Machine
end FieldbusNode
