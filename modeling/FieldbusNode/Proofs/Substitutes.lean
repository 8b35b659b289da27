/-
What stands for an analog channel that cannot be read.

A sample shows such a thermistor as hottest and such a supply as dead.  The failed read
is latched, but a reset takes the latched flags away, and then only the sample is left:
the substitute has to be outside of the configured limit by itself.  It is, but for
three extreme limits (`Limits.Extreme`), and a configuration may have them.
-/
import FieldbusNode.Bench.Sensors
import FieldbusNode.Proofs.PreRunChecks
namespace FieldbusNode

namespace AnalogChannel

/-- The value a sample shows for a channel that cannot be read. -/
def substitute : AnalogChannel → UInt16
  | .thermistor _ => 65535
  | .motorVoltage | .logicVoltage => 0

/-- The flag of a value outside of the limit of a channel. -/
def flag : AnalogChannel → Flag
  | .thermistor _ => .thermistor
  | .motorVoltage => .motorVoltage
  | .logicVoltage => .logicVoltage

theorem flag_fault (channel : AnalogChannel) : Flags.faultMask.has channel.flag = true := by
  cases channel <;> rfl

theorem flag_ne_limitSwitch (channel : AnalogChannel) : channel.flag ≠ .limitSwitch := by
  cases channel <;> nofun

end AnalogChannel

/-! ### Limits -/

namespace Limits

variable (l : Limits)

/-- A value is outside of the limit of a channel. -/
def Excludes : AnalogChannel → UInt16 → Prop
  | .thermistor _, v => l.thermistorMax < v
  | .motorVoltage, v => v < l.motorVoltageMin ∨ l.motorVoltageMax < v
  | .logicVoltage, v => v < l.logicVoltageMin ∨ l.logicVoltageMax < v

/-- The limit of a channel is so wide that it leaves no room for a substitute. -/
def Extreme : AnalogChannel → Prop
  | .thermistor _ => l.thermistorMax = 65535
  | .motorVoltage => l.motorVoltageMin = 0
  | .logicVoltage => l.logicVoltageMin = 0

/-- A window of a supply excludes zero by its lower end. -/
theorem window_excludes_zero_iff (low high : UInt16) : (0 < low ∨ high < 0) ↔ low ≠ 0 := by
  rw [UInt16.lt_iff_toNat_lt, UInt16.lt_iff_toNat_lt, ne_eq, ← UInt16.toNat_inj]
  simp only [UInt16.toNat_zero]
  omega

theorem lt_max_iff (limit : UInt16) : limit < 65535 ↔ limit ≠ 65535 := by
  have bound := limit.toNat_lt
  rw [UInt16.lt_iff_toNat_lt, ne_eq, ← UInt16.toNat_inj]
  simp only [UInt16.reduceToNat]
  omega

/-- **A substitute is outside of every limit but the extreme one.** -/
theorem excludes_substitute_iff (channel : AnalogChannel) :
    l.Excludes channel channel.substitute ↔ ¬l.Extreme channel := by
  cases channel with
  | thermistor => exact lt_max_iff l.thermistorMax
  | motorVoltage => exact window_excludes_zero_iff l.motorVoltageMin l.motorVoltageMax
  | logicVoltage => exact window_excludes_zero_iff l.logicVoltageMin l.logicVoltageMax

/-- No temperature at all is above an extreme limit. -/
theorem not_excludes_of_extreme {index : UInt8} (extreme : l.Extreme (.thermistor index))
    (v : UInt16) : ¬l.Excludes (.thermistor index) v := by
  have bound := v.toNat_lt
  intro hot
  have above : l.thermistorMax < v := hot
  rw [show l.thermistorMax = 65535 from extreme, UInt16.lt_iff_toNat_lt] at above
  simp only [UInt16.reduceToNat] at above
  omega

end Limits

/-! ### Samples -/

theorem Triple.mem_of_get? {α : Type} {t : Triple α} {i : Nat} {a : α} (h : t.get? i = some a) :
    a ∈ t.toList := by
  unfold get? at h
  split at h
  all_goals simp_all [toList]

theorem Triple.get?_map {α β : Type} (f : α → β) (t : Triple α) (i : Nat) :
    (t.map f).get? i = (t.get? i).map f := by
  unfold get?
  split <;> rfl

namespace Actuator

/-- The result of reading an analog channel; an actuator has three thermistors. -/
def Readings.analog? (r : Readings) : AnalogChannel → Option (Reading UInt16)
  | .thermistor index => r.thermistors.get? index.toNat
  | .motorVoltage => some r.motorVoltage
  | .logicVoltage => some r.logicVoltage

/-- The value a sample shows for an analog channel. -/
def Sample.analog? (s : Sample) : AnalogChannel → Option UInt16
  | .thermistor index => s.thermistors.get? index.toNat
  | .motorVoltage => some s.motorVoltage
  | .logicVoltage => some s.logicVoltage

theorem Readings.sample_analog? (r : Readings) (channel : AnalogChannel) :
    r.sample.analog? channel = (r.analog? channel).map (valueOr channel.substitute) := by
  cases channel with
  | thermistor index => exact Triple.get?_map _ _ _
  | motorVoltage | logicVoltage => rfl

theorem Readings.mem_failures {r : Readings} {channel : AnalogChannel} {e : HardwareError}
    (failed : r.analog? channel = some (.error e)) : (.sensor, e) ∈ r.failures := by
  simp only [failures, List.mem_filterMap, List.mem_cons, List.not_mem_nil, or_false, id]
  refine ⟨some (.sensor, e), ?_, rfl⟩
  cases channel with
  | thermistor index =>
      have among : .error e ∈ r.thermistors.toList := Triple.mem_of_get? failed
      simp only [Triple.toList, List.mem_cons, List.not_mem_nil, or_false] at among
      rcases among with here | here | here <;> simp [← here, failure?]
  | motorVoltage =>
      have here : r.motorVoltage = .error e := Option.some.inj failed
      simp [here, failure?]
  | logicVoltage =>
      have here : r.logicVoltage = .error e := Option.some.inj failed
      simp [here, failure?]

namespace Monitor

variable {m : Monitor} {s : Sample} {channel : AnalogChannel}

theorem has_latched (flags : Flags) (failures : List (Flag × HardwareError)) (flag : Flag) :
    (latched flags failures).has flag = true ↔
      flags.has flag = true ∨ ∃ f ∈ failures, f.1 = flag := by
  induction failures generalizing flags with
  | nil => simp [latched]
  | cons f rest ih =>
      have step : latched flags (f :: rest) = latched (flags.raise f.1) rest := rfl
      rw [step, ih, Flags.has_raise, Bool.or_eq_true, decide_eq_true_iff]
      simp [@eq_comm _ flag, or_assoc]

/-- A failed read of an analog channel is a fault until the flags are cleared. -/
theorem faulty_of_failed {r : Readings} {e : HardwareError}
    (failed : r.analog? channel = some (.error e)) : (m.observe r).faulty = true := by
  have read : (m.take r).flags.has .sensor = true :=
    (has_latched _ _ _).mpr (Or.inr ⟨_, r.mem_failures failed, rfl⟩)
  have kept : (m.observe r).flags.has .sensor = true := by
    rw [observe, Flags.has_union, read, Bool.true_or]
  have shown : ((m.observe r).flags.union (m.observe r).evaluate).has .sensor = true := by
    rw [Flags.has_union, kept, Bool.true_or]
  exact Flags.hasFault_of_has shown rfl

/-- A substitute in the sample shows exactly if it is outside of its limit. -/
theorem judge_substitute_iff (stands : s.analog? channel = some channel.substitute) :
    (m.judge s).has channel.flag = true ↔ m.limits.Excludes channel channel.substitute := by
  cases channel with
  | thermistor index =>
      show s.thermistors.any (m.limits.thermistorMax < ·) = true ↔ _
      rw [Triple.any_eq_true]
      constructor
      · rintro ⟨t, -, hot⟩
        by_cases extreme : m.limits.Extreme (.thermistor index)
        · exact absurd (of_decide_eq_true hot) (m.limits.not_excludes_of_extreme extreme t)
        · exact (m.limits.excludes_substitute_iff _).mpr extreme
      · exact fun outside => ⟨65535, Triple.mem_of_get? stands, decide_eq_true outside⟩
  | motorVoltage =>
      have dead : s.motorVoltage = 0 := Option.some.inj stands
      simp [judge, Flags.has, AnalogChannel.flag, dead, Limits.Excludes, AnalogChannel.substitute]
  | logicVoltage =>
      have dead : s.logicVoltage = 0 := Option.some.inj stands
      simp [judge, Flags.has, AnalogChannel.flag, dead, Limits.Excludes, AnalogChannel.substitute]

variable {β : Type} [Hardware β]

/--
**A failed read of an analog channel is replaced on the unsafe side.**

This is for any limits, any actuator and any board.  The sample shows the substitute and
the actuator is faulty.  Unless the limit of the channel is extreme, the substitute is
outside of it, so the sample has the flag of the channel by itself, and the actuator is
still faulty once its latched flags were cleared.  Under an extreme limit the sample
does not have that flag.
-/
theorem failed_analog_read (m : Monitor) (b : β) {e : HardwareError}
    (failed : (m.readings b).analog? channel = some (.error e)) :
    (m.observe (m.readings b)).sample.bind (·.analog? channel) = some channel.substitute ∧
      (m.observe (m.readings b)).faulty = true ∧
      (m.limits.Excludes channel channel.substitute ↔ ¬m.limits.Extreme channel) ∧
      ((m.observe (m.readings b)).evaluate.has channel.flag = true ↔ ¬m.limits.Extreme channel) ∧
      (¬m.limits.Extreme channel → (m.observe (m.readings b)).reset.faulty = true) := by
  have stands : (m.readings b).sample.analog? channel = some channel.substitute := by
    rw [Readings.sample_analog?, failed]
    rfl
  have outside := m.limits.excludes_substitute_iff channel
  have shows (taken : Monitor) (limits : taken.limits = m.limits) :
      (taken.judge (m.readings b).sample).has channel.flag = true ↔ ¬m.limits.Extreme channel := by
    rw [judge_substitute_iff stands, limits, outside]
  refine ⟨stands, faulty_of_failed failed, outside, shows (m.observe (m.readings b)) rfl, ?_⟩
  intro moderate
  exact faulty_reset channel.flag channel.flag_fault ((shows m rfl).mpr moderate)
    channel.flag_ne_limitSwitch

/-- A board whose first thermistor and whose supplies cannot be read. -/
def numb : Bench.Sensors where
  thermistors := ⟨none, some 1500, some 1500⟩
  motorVoltage := none
  logicVoltage := none

/-- Under the default limits the lost thermistor counts as too hot, also behind a reset. -/
theorem failed_analog_read_numb :
    ∃ e, ((ofLimits {} false).readings numb).analog? (.thermistor 0) = some (.error e) ∧
      ((ofLimits {} false).observe ((ofLimits {} false).readings numb)).evaluate.has
        .thermistor = true ∧
      ((ofLimits {} false).observe ((ofLimits {} false).readings numb)).reset.faulty = true := by
  obtain ⟨e, failed⟩ : ∃ e, ((ofLimits {} false).readings numb).analog? (.thermistor 0) =
      some (.error e) := ⟨_, rfl⟩
  have moderate : ¬(ofLimits {} false).limits.Extreme (.thermistor 0) := by
    intro extreme
    exact absurd (show (3000 : UInt16) = 65535 from extreme) (by decide)
  obtain ⟨-, -, -, shows, behind⟩ := failed_analog_read (ofLimits {} false) numb failed
  exact ⟨e, failed, shows.mpr moderate, behind moderate⟩

/-- The three extreme limits at once. -/
def extremeLimits : Limits where
  thermistorMax := 65535
  motorVoltageMin := 0
  logicVoltageMin := 0

/-- A valid configuration can hide three failed reads: the sample shows no fault, and a reset
clears the only mark of them. -/
theorem failed_reads_hidden : extremeLimits.Valid ∧
    (∀ channel ∈ [AnalogChannel.thermistor 0, .motorVoltage, .logicVoltage],
      ∃ e, ((ofLimits extremeLimits false).readings numb).analog? channel = some (.error e)) ∧
    ((ofLimits extremeLimits false).observe
      ((ofLimits extremeLimits false).readings numb)).evaluate = ∅ ∧
    ((ofLimits extremeLimits false).observe
      ((ofLimits extremeLimits false).readings numb)).faulty = true ∧
    ((ofLimits extremeLimits false).observe
      ((ofLimits extremeLimits false).readings numb)).reset.faulty = false := by
  have valid : extremeLimits.Valid := extremeLimits.violations_eq_nil_iff.mp (by decide)
  refine ⟨valid, ?_, by decide, by decide, by decide⟩
  simp only [List.forall_mem_cons]
  exact ⟨⟨_, rfl⟩, ⟨_, rfl⟩, ⟨_, rfl⟩, nofun⟩

end Monitor
end Actuator
end FieldbusNode
