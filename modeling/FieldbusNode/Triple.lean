/-
Three values of one type: the axes of a sensor, the thermistors of a motor.
-/
namespace FieldbusNode

/-- Three values of one type. -/
@[ext] structure Triple (α : Type) where
  first : α
  second : α
  third : α
  deriving DecidableEq, Inhabited

namespace Triple

/-- The same value three times. -/
def fill {α : Type} (a : α) : Triple α := ⟨a, a, a⟩

/-- Applies a function to each value. -/
def map {α β : Type} (f : α → β) (t : Triple α) : Triple β :=
  ⟨f t.first, f t.second, f t.third⟩

/-- The values in order. -/
def toList {α : Type} (t : Triple α) : List α :=
  [t.first, t.second, t.third]

/-- The value at an index, if there is one. -/
def get? {α : Type} (t : Triple α) : Nat → Option α
  | 0 => some t.first
  | 1 => some t.second
  | 2 => some t.third
  | _ => none

/-- Replaces the value at an index; nothing happens at any other. -/
def set {α : Type} (t : Triple α) (i : Nat) (a : α) : Triple α :=
  match i with
  | 0 => { t with first := a }
  | 1 => { t with second := a }
  | 2 => { t with third := a }
  | _ => t

/-- Whether a value passes a test. -/
def any {α : Type} (p : α → Bool) (t : Triple α) : Bool :=
  p t.first || p t.second || p t.third

end Triple
end FieldbusNode
