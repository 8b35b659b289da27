/-
Outputs are live in `run` and `halt` only.

A motor stands next to an operator, so its amplifier may be on only while the node
says so.  Two things switch it: the hooks of a tick, which follow the state, and the
local watchdog, which takes the outputs away in whatever state the node is.  A
watchdog that has run out is final, so from the first pass that fails on, the
amplifier is off for good.

What a run of a station keeps is `Guarded`; the flag in it says whether a pass has
failed so far.
-/
import FieldbusNode.Proofs.Station
namespace FieldbusNode

open Simulation (SimBoard Rig Action Station Move)

variable {limits : Limits} {kind : Kind} {joint : Joint}

theorem State.outputsLive_iff (s : State) : s.outputsLive = true ↔ s = .run ∨ s = .halt := by
  cases s <;> decide

/-! ### Passes -/

namespace Controller

variable {c c' : Controller SimBoard}

theorem Quiet.live (quiet : Quiet c c')
    (live : c.board.amplifierEnabled = c.machine.state.outputsLive) :
    c'.board.amplifierEnabled = c'.machine.state.outputsLive := by
  have enabled : c'.board.amplifierEnabled = c.board.amplifierEnabled :=
    congrArg Prod.fst quiet.amplifier
  rw [enabled, quiet.state, live]

theorem live_syncCycle (sound : c.mounted.Sound limits joint.kind)
    (live : c.board.amplifierEnabled = c.machine.state.outputsLive) (edge : Edge) :
    (c.syncCycle edge).board.amplifierEnabled = (c.syncCycle edge).machine.state.outputsLive := by
  have quiet := c.quiet_readied edge
  have ticked := (c.readied edge).tick_way.outputs_live (Mounted.sound_switches joint)
    Mounted.sound_keeps (quiet.sound sound) (quiet.live live)
  rw [syncCycle_eq]
  exact (quiet_recordCycle (c.readied edge).tick edge _).live ticked

theorem amplifierEnabled_expire (sound : c.mounted.Sound limits kind) :
    c.expire.2.board.amplifierEnabled = false :=
  sound.off_estop

theorem watchdogExpired_expire (c : Controller SimBoard) :
    c.expire.2.board.watchdogExpired = c.board.watchdogExpired := by
  unfold expire
  cases c.device <;> rfl

end Controller

/-! ### Runs -/

namespace Simulation.Station

/-- Whether a move is a pass that fails. -/
def failsOn (s : Station) : Move → Bool
  | .act _ => false
  | .poll => !s.poll.1.isOk

/-- Whether a pass of a run fails. -/
def fails (s : Station) : List Move → Bool
  | [] => false
  | move :: rest => s.failsOn move || (s.move move).fails rest

/-- The amplifier follows the state until a pass fails, and is off from then on. -/
structure Guarded (limits : Limits) (joint : Joint) (failed : Bool) (s : Station) : Prop where
  sound : s.controller.mounted.Sound limits joint.kind
  live : failed = false → s.board.amplifierEnabled = s.state.outputsLive
  dead : failed = true → s.board.watchdogExpired = true ∧ s.board.amplifierEnabled = false

variable {failed : Bool} {s : Station}

theorem Guarded.act (h : Guarded limits joint failed s) (action : Action) :
    Guarded limits joint failed (s.act action) := by
  have amplifier := Rig.amplifier_act ⟨s.board, s.master⟩ action
  have enabled : (s.act action).board.amplifierEnabled = s.board.amplifierEnabled :=
    congrArg Prod.fst amplifier
  refine ⟨sound_move h.sound (.act action), ?_, ?_⟩
  · intro sofar
    rw [enabled, h.live sofar]
    rfl
  · intro gone
    obtain ⟨expired, off⟩ := h.dead gone
    exact ⟨Rig.watchdogExpired_act _ action expired, enabled.trans off⟩

/-- A pass that finds the watchdog alive comes before every failure. -/
theorem Guarded.unfailed (h : Guarded limits joint failed s)
    (alive : (Board.expired s.board).1 = false) : failed = false := by
  cases failed with
  | false => rfl
  | true =>
      have expired := (h.dead rfl).1
      have found : s.board.latchWatchdog.watchdogExpired = false := alive
      rw [SimBoard.latchWatchdog_of_expired expired, expired] at found
      nomatch found

theorem Guarded.pass (h : Guarded limits joint failed s) {outcome : Except Expiry Outcome}
    {c : Controller SimBoard} (pass : Controller.Pass s.controller outcome c) :
    Guarded limits joint (failed || !outcome.isOk) { s with controller := c } := by
  have looked := s.controller.quiet_of_wiring (SimBoard.wiring_latchWatchdog s.board)
  have sound := pass.sound h.sound
  cases pass with
  | expires expired =>
      refine ⟨sound, fun never => by simp [Except.isOk, Except.toBool] at never, fun _ => ?_⟩
      exact ⟨(Controller.watchdogExpired_expire _).trans expired,
        Controller.amplifierEnabled_expire (looked.sound h.sound)⟩
  | @syncs ready edge alive cycle =>
      obtain rfl := h.unfailed alive
      have quiet := Controller.quiet_cycle? cycle
      refine ⟨sound, fun _ => ?_, nofun⟩
      exact Controller.live_syncCycle (quiet.sound h.sound) (quiet.live (h.live rfl)) edge
  | waits alive =>
      obtain rfl := h.unfailed alive
      exact ⟨sound, fun _ => s.controller.quiet_waits.live (h.live rfl), nofun⟩

theorem Guarded.move (h : Guarded limits joint failed s) (move : Move) :
    Guarded limits joint (failed || s.failsOn move) (s.move move) := by
  cases move with
  | act action =>
      rw [failsOn, Bool.or_false]
      exact h.act action
  | poll => exact h.pass s.controller.poll_pass

theorem Guarded.moves (h : Guarded limits joint failed s) (run : List Move) :
    Guarded limits joint (failed || s.fails run) (s.moves run) := by
  induction run generalizing s failed with
  | nil =>
      rw [fails, Bool.or_false]
      exact h
  | cons move rest ih =>
      rw [fails, ← Bool.or_assoc]
      exact ih (h.move move)

theorem Started.guarded {config : Config} (valid : config.limits.Valid) {s : Station}
    (started : Started config s) (named : config.device.id.kind? = some joint.kind) :
    Guarded config.limits joint false s := by
  obtain ⟨kind, begins⟩ := started.begins valid
  obtain rfl : joint.kind = kind := Option.some.inj (named.symm.trans begins.named)
  have idle : s.state = .idle := congrArg Machine.state begins.machine
  refine ⟨begins.sound, fun _ => ?_, nofun⟩
  rw [idle]
  exact begins.off

/--
**The amplifier is on in `run` and `halt`, and nowhere else.**

This is about an actuator under a configuration that passes its checks, on a rig of
which it does not know what has been done to it, in any run of actions and passes.  As
long as no pass fails the amplifier follows the state; once one has failed it is off.
The monitor knows which it is, no current flows through an amplifier that is off, and
no current is over the configured clamp.
-/
theorem amplifier_follows_state {config : Config} (valid : config.Valid)
    (named : config.device.id.kind? = some joint.kind) {s : Station}
    (started : Started config s) (run : List Move) :
    (s.fails run = false → ((s.moves run).board.amplifierEnabled = true ↔
        (s.moves run).state = .run ∨ (s.moves run).state = .halt)) ∧
      (s.fails run = true → (s.moves run).board.amplifierEnabled = false) ∧
      (∃ m, (s.moves run).controller.device = .actuator joint m ∧
        m.outputsEnabled = (s.moves run).board.amplifierEnabled) ∧
      ((s.moves run).board.motorCurrent ≠ 0 → (s.moves run).board.amplifierEnabled = true) ∧
      -config.limits.maxMotorCurrent.toInt ≤ (s.moves run).board.motorCurrent.toInt ∧
      (s.moves run).board.motorCurrent.toInt ≤ config.limits.maxMotorCurrent.toInt := by
  have guarded := (started.guarded valid.limits named).moves run
  rw [Bool.false_or] at guarded
  obtain ⟨sound, live, dead⟩ := guarded
  obtain ⟨m, device⟩ := sound.actuator
  have outputs : m.outputsEnabled = (s.moves run).board.amplifierEnabled := by
    have known : (s.moves run).controller.device.outputsEnabled = _ := sound.outputs
    rw [device] at known
    exact known
  refine ⟨?_, fun failed => (dead failed).2, ⟨m, device, outputs⟩, ?_, sound.low, sound.high⟩
  · intro unfailed
    rw [live unfailed]
    exact State.outputsLive_iff _
  · intro flows
    cases on : (s.moves run).board.amplifierEnabled with
    | true => rfl
    | false => exact absurd (sound.still on) flows

/-- A leg under the default settings. -/
def legConfig : Config where
  shared := { serviceName := "leg" }
  device := { id := ⟨0x10⟩ }

/-- A run command, a current over the clamp and two cycles, then silence until the watchdog runs
out. -/
def silenced : List Move :=
  [.act (.command State.run.toByte), .act (.setInbound Inbound.motorCurrent .i32 40000),
    .act .step, .poll, .act .step, .poll, .act (.advance 9000000), .poll]

/-- The amplifier of a leg goes on in `run`, carries what the clamp leaves of the current, and goes
off with the watchdog, although the state stays `run`. -/
theorem amplifier_follows_state_silenced :
    legConfig.Valid ∧ legConfig.device.id.kind? = some Joint.leg.kind ∧
      ∃ s, Started legConfig s ∧ s.fails (silenced.take 6) = false ∧
        (s.moves (silenced.take 6)).state = .run ∧
        (s.moves (silenced.take 6)).board.amplifierEnabled = true ∧
        (s.moves (silenced.take 6)).board.motorCurrent = 30000 ∧
        s.fails silenced = true ∧ (s.moves silenced).state = .run ∧
        (s.moves silenced).board.amplifierEnabled = false := by
  have valid : legConfig.Valid := by decide
  have named : legConfig.device.id.kind? = some Joint.leg.kind := rfl
  refine ⟨valid, named, _, ⟨1000000, [], rfl⟩, ?_, ?_, ?_, ?_, ?_, ?_, ?_⟩
  · decide +kernel
  · decide +kernel
  · obtain ⟨follows, -⟩ := amplifier_follows_state valid named ⟨1000000, [], rfl⟩ (silenced.take 6)
    exact (follows (by decide +kernel)).mpr (Or.inl (by decide +kernel))
  · decide +kernel
  · decide +kernel
  · decide +kernel
  · obtain ⟨-, off, -⟩ := amplifier_follows_state valid named ⟨1000000, [], rfl⟩ silenced
    exact off (by decide +kernel)

end Simulation.Station
end FieldbusNode
