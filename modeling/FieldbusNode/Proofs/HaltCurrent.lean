/-
The current of the halt controller.

The controller draws its current into the halt clamp in floating point.  The clamp is an integer of
32 bits, so it is rounded first, and above 2 ^ 24 that may be upwards.  The current passes the
general clamp behind it, and that one may be larger.  So the current reaches what the damping, the
rounded halt clamp and the general clamp all reach, and no more: it respects the halt clamp up to
half a unit of its last place, and it is above it exactly if the clamp was rounded up and nothing
else is in the way.
-/
import FieldbusNode.Bench.Sensors
import FieldbusNode.Proofs.Clamps
namespace FieldbusNode

open Binary (Value binary32)

/-- The halt clamp as floating point has it. -/
def Limits.roundedHaltClamp (l : Limits) : Nat :=
  binary32.nearest l.haltMaxCurrent.toInt.natAbs

/-- The rounded clamp is off by half a unit of the last of 24 places, of which 31 bits leave 128. -/
theorem Limits.roundedHaltClamp_le (l : Limits) (pos : 0 < l.haltMaxCurrent.toInt) :
    l.roundedHaltClamp ≤ l.haltMaxCurrent.toInt.natAbs + 64 := by
  have range := l.haltMaxCurrent.toInt_lt
  have short : l.haltMaxCurrent.toInt.natAbs < 2 ^ 31 := by omega
  have unit : binary32.unit l.haltMaxCurrent.toInt.natAbs ≤ 128 :=
    binary32.unit_le (by omega) short
  obtain ⟨-, near⟩ := binary32.nearest_within l.haltMaxCurrent.toInt.natAbs
  rw [roundedHaltClamp]
  omega

theorem Limits.roundedHaltClamp_of_short (l : Limits) (pos : 0 < l.haltMaxCurrent.toInt)
    (short : l.haltMaxCurrent.toInt ≤ 2 ^ 24) :
    l.roundedHaltClamp = l.haltMaxCurrent.toInt.natAbs :=
  binary32.nearest_of_short (by decide) (by show _ ≤ 2 ^ 24; omega)

namespace Actuator.Monitor

/-! ### Damping -/

/-- The current that damps the movement between two positions, before any clamp. -/
def damping (limits : Limits) (now before : UInt32) : Value :=
  (binary32.multiply limits.haltDamping.value
    (binary32.ofInt ((now.toNat : Int) - before.toNat))).negate

/-- The current that a monitor asks for in order to stop; none before it has seen two positions in
a row. -/
def pull (m : Monitor) : Value :=
  match m.position, m.previousPosition with
  | some now, some before => damping m.limits now before
  | _, _ => .finite false 0 0

variable {limits : Limits}

theorem isNan_damping (valid : limits.Valid) (now before : UInt32) :
    (damping limits now before).isNan = false := by
  have far := now.toNat_lt
  have far' := before.toNat_lt
  obtain ⟨n, k, velocity, -⟩ := Binary.ofInt_eq (i := (now.toNat : Int) - before.toNat)
    (by unfold uint32Max; omega)
  obtain ⟨s, m, e, gain⟩ : ∃ s m e, limits.haltDamping.value = .finite s m e := by
    have usable := valid.damping
    unfold Limits.dampingUsable at usable
    cases gain : limits.haltDamping.value with
    | finite s m e => exact ⟨s, m, e, rfl⟩
    | nan | infinite => simp [gain, Value.isFinite] at usable
  rw [damping, Value.isNan_negate, velocity, gain]
  exact Value.isNan_round _ _ _ _

/-- **Drawn into the halt clamp, the damping reaches what it reached within the rounded clamp.** -/
theorem le_haltCurrent_iff (valid : limits.Valid) (now before : UInt32) :
    ∃ current, haltCurrent limits now before = .ok current ∧ ∀ n ≤ int32Max,
      (n ≤ current.toInt.natAbs ↔
        (damping limits now before).Reaches n ∧ n ≤ limits.roundedHaltClamp) := by
  have pos := valid.haltClamp
  have small := toInt_le_uint32Max limits.haltMaxCurrent
  obtain ⟨mantissa, exponent, clamp, size⟩ :=
    Binary.ofInt_eq (i := limits.haltMaxCurrent.toInt) (by omega)
  rw [decide_eq_false (by omega)] at clamp
  obtain ⟨s, m, e, drawn, reaches⟩ :=
    Value.reaches_clamp (isNan_damping valid now before) mantissa exponent
  refine ⟨((damping limits now before).clamp (.finite true mantissa exponent)
    (.finite false mantissa exponent)).toInt32, ?_, ?_⟩
  · unfold haltCurrent
    rw [clamp]
    dsimp only
    rw [Binary.less_negate, if_neg Bool.false_ne_true]
    rfl
  · intro n inRange
    rw [drawn, Value.le_toInt32_iff s m e inRange, reaches, Value.reaches_finite, size]
    exact and_congr_right fun _ => Nat.cast_le

/-! ### Commanding -/

/-- A current drawn into the general clamp reaches what it reached within the clamp. -/
theorem le_clampCurrent_iff {max : Int32} (order : 0 ≤ max.toInt) (current : Int32) :
    ∃ clamped, clampCurrent max current = .ok clamped ∧ ∀ n,
      n ≤ clamped.toInt.natAbs ↔ n ≤ current.toInt.natAbs ∧ n ≤ max.toInt.natAbs := by
  obtain ⟨clamped, clamp, value⟩ := clampCurrent_eq order current
  refine ⟨clamped, clamp, fun n => ?_⟩
  rw [value]
  omega

/-- Hands a current to the amplifier. -/
def handed {β : Type} [Hardware β] (m : Monitor) (current : Int32) (b : β) : Bool × Monitor × β :=
  match Hardware.setCurrent current b with
  | (.ok _, b) => (true, m, b)
  | (.error e, b) => (false, m.latch .amplifier e b)

theorem commandCurrent_eq {β : Type} [Hardware β] {m : Monitor} (enabled : m.outputsEnabled = true)
    {current clamped : Int32} (clamp : clampCurrent m.limits.maxMotorCurrent current = .ok clamped)
    (b : β) : m.commandCurrent current b = m.handed clamped b := by
  unfold commandCurrent
  rw [if_neg (by simp [enabled]), clamp]
  rfl

/-- A monitor without a latched fault commands its pull, drawn into the halt clamp. -/
theorem haltStep_eq {m : Monitor} (valid : m.limits.Valid) (sound : m.flags.hasFault = false) :
    ∃ current, (∀ {β : Type} [Hardware β] (b : β), m.haltStep b = m.commandCurrent current b) ∧
      ∀ n ≤ int32Max,
        (n ≤ current.toInt.natAbs ↔ m.pull.Reaches n ∧ n ≤ m.limits.roundedHaltClamp) := by
  have goes : ¬m.flags.hasFault = true := Bool.eq_false_iff.mp sound
  have still (n : Nat) : n ≤ (0 : Int32).toInt.natAbs ↔
      (Value.finite false 0 0).Reaches n ∧ n ≤ m.limits.roundedHaltClamp := by
    rw [Value.reaches_finite, Nat.cast_zero, zero_mul, Nat.cast_nonpos]
    show n ≤ 0 ↔ _
    omega
  cases now : m.position with
  | none =>
      refine ⟨0, fun b => ?_, fun n _ => ?_⟩
      · simp only [haltStep, if_neg goes, now]
      · simpa only [pull, now] using still n
  | some here =>
      cases before : m.previousPosition with
      | none =>
          refine ⟨0, fun b => ?_, fun n _ => ?_⟩
          · simp only [haltStep, if_neg goes, now, before]
          · simpa only [pull, now, before] using still n
      | some there =>
          obtain ⟨current, drawn, reaches⟩ := le_haltCurrent_iff valid here there
          refine ⟨current, fun b => ?_, fun n inRange => ?_⟩
          · simp only [haltStep, if_neg goes, now, before, drawn]
          · simpa only [pull, now, before] using reaches n inRange

/-! ### The law -/

/--
**A halt current reaches what the damping, the rounded halt clamp and the general clamp all reach.**

This is for any monitor with its outputs enabled, under limits that passed their checks, on any
board.  With a fault latched nothing is commanded.  Otherwise one current is, which is above the
halt clamp exactly if the damping and the general clamp are and the clamp was rounded up.  It is
never above it by more than 64, and not at all if the clamp is 2 ^ 24 or less.
-/
theorem halt_current_reaches {m : Monitor} (valid : m.limits.Valid)
    (enabled : m.outputsEnabled = true) :
    (m.flags.hasFault = true →
      ∀ {β : Type} [Hardware β] (b : β), m.haltStep b = (false, m, b)) ∧
    (m.flags.hasFault = false → ∃ current : Int32,
      (∀ {β : Type} [Hardware β] (b : β), m.haltStep b = m.handed current b) ∧
      (∀ n, n ≤ current.toInt.natAbs ↔
        m.pull.Reaches n ∧ n ≤ m.limits.roundedHaltClamp ∧
          n ≤ m.limits.maxMotorCurrent.toInt.natAbs) ∧
      (m.limits.haltMaxCurrent.toInt.natAbs < current.toInt.natAbs ↔
        m.pull.Reaches (m.limits.haltMaxCurrent.toInt.natAbs + 1) ∧
          m.limits.haltMaxCurrent.toInt.natAbs < m.limits.roundedHaltClamp ∧
          m.limits.haltMaxCurrent.toInt < m.limits.maxMotorCurrent.toInt) ∧
      current.toInt.natAbs ≤ m.limits.haltMaxCurrent.toInt.natAbs + 64 ∧
      (m.limits.haltMaxCurrent.toInt ≤ 2 ^ 24 →
        current.toInt.natAbs ≤ m.limits.haltMaxCurrent.toInt.natAbs)) := by
  have pos := valid.haltClamp
  have above := valid.clamp
  have order : 0 ≤ m.limits.maxMotorCurrent.toInt := by omega
  refine ⟨fun faulty _ _ b => if_pos faulty, fun sound => ?_⟩
  obtain ⟨asked, commands, drawn⟩ := haltStep_eq valid sound
  obtain ⟨current, clamp, clamped⟩ := le_clampCurrent_iff order asked
  have reaches (n : Nat) : n ≤ current.toInt.natAbs ↔ m.pull.Reaches n ∧
      n ≤ m.limits.roundedHaltClamp ∧ n ≤ m.limits.maxMotorCurrent.toInt.natAbs := by
    have range := m.limits.maxMotorCurrent.toInt_lt
    rw [clamped, ← and_assoc]
    refine and_congr_left fun within => drawn n ?_
    unfold int32Max
    omega
  have within := ((reaches current.toInt.natAbs).mp le_rfl).2.1
  refine ⟨current, fun b => (commands b).trans (commandCurrent_eq enabled clamp b), reaches,
    ?_, ?_, ?_⟩
  · rw [← Nat.succ_le_iff, reaches]
    refine and_congr_right fun _ => and_congr Nat.succ_le_iff ?_
    omega
  · exact within.trans (m.limits.roundedHaltClamp_le pos)
  · intro short
    rw [← m.limits.roundedHaltClamp_of_short pos short]
    exact within

/-- An output shaft that turns back by 2 ^ 25 positions within a cycle, and the monitor that has seen
it, with its outputs enabled. -/
def turningBack (limits : Limits) : Monitor × Bench.Sensors :=
  let before : Bench.Sensors := { encoders := .fill (some 33554432) }
  let now : Bench.Sensors := { encoders := .fill (some 0) }
  let fresh := ofLimits limits true
  let seen := fresh.observe (Readings.collect true before).1
  (seen.observe (Readings.collect true now).1).enable now

/-- The least clamp that is rounded up, below a larger general clamp. -/
def raisedClamp : Limits where
  haltDamping := ⟨0x3F800000⟩
  haltMaxCurrent := 16777219
  maxMotorCurrent := 20000000

theorem halt_current_reaches_turningBack : raisedClamp.Valid ∧ ∃ current : Int32,
    (∀ {β : Type} [Hardware β] (b : β),
      (turningBack raisedClamp).1.haltStep b = (turningBack raisedClamp).1.handed current b) ∧
    16777219 < current.toInt.natAbs ∧ current.toInt.natAbs ≤ 16777219 + 64 := by
  have valid : raisedClamp.Valid := raisedClamp.violations_eq_nil_iff.mp (by decide)
  obtain ⟨enabled, sound, pulls⟩ : (turningBack raisedClamp).1.outputsEnabled = true ∧
      (turningBack raisedClamp).1.flags.hasFault = false ∧
      (turningBack raisedClamp).1.pull = .finite false 8388608 2 := by decide +kernel
  obtain ⟨current, hands, -, exceeds, bounded, -⟩ :=
    (halt_current_reaches (m := (turningBack raisedClamp).1) valid enabled).2 sound
  refine ⟨valid, current, hands, exceeds.mpr ⟨?_, ?_, ?_⟩, bounded⟩
  · rw [pulls, Value.reaches_finite]
    show ((16777220 : Nat) : ℚ) ≤ _
    norm_num
  · decide +kernel
  · decide

/-- A valid configuration whose halt controller commands more than its clamp allows. -/
theorem halt_clamp_exceeded : raisedClamp.Valid ∧
    (turningBack raisedClamp).1.outputsEnabled = true ∧
    ((turningBack raisedClamp).1.haltStep (turningBack raisedClamp).2).2.2.calls.head? =
      some (.current 16777220) ∧
    raisedClamp.haltMaxCurrent < 16777220 := by
  have valid : raisedClamp.Valid := raisedClamp.violations_eq_nil_iff.mp (by decide)
  refine ⟨valid, ?_⟩
  decide +kernel

end Actuator.Monitor
end FieldbusNode
