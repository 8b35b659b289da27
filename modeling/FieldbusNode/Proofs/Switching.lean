/-
What the amplifier is told, and whether it listens.

A metered board is any board with a list of the commands its amplifier was given, each with the
answer.  The board may refuse a command whenever it likes.  Which commands a tick gives follows
from the hooks it calls (`Metered.Counts`), whatever the answers are, and nothing else in a cycle
gives one.

A disable that was refused leaves a live amplifier behind.  A node in `error` gives the command
again in every tick.  A node in `idle` or in `reset` does not: it has given the command once, on
its way there, and what was refused is not repeated.
-/
import FieldbusNode.Proofs.LatchedFaults
namespace FieldbusNode

open Bench (Hook Recorded)
open Simulation (SimBoard)
open Simulation.Station (legConfig)

/-- A command to the amplifier, and whether it was accepted. -/
structure Switching where
  on : Bool
  accepted : Bool
  deriving DecidableEq

namespace Switching

/-- Whether the last command that was accepted, the newest one in front, switched the amplifier on.
Before any it is off. -/
def live : List Switching → Bool
  | [] => false
  | last :: older => if last.accepted then last.on else live older

end Switching

/-- A board, and the commands its amplifier was given, newest first. -/
structure Metered (β : Type) where
  board : β
  given : List Switching := []

namespace Metered

variable {β : Type}

/-- Asks the board. -/
def ask {α : Type} (f : β → α × β) (m : Metered β) : α × Metered β :=
  ((f m.board).1, { m with board := (f m.board).2 })

/-- Tells the board. -/
def tell (f : β → β) (m : Metered β) : Metered β :=
  { m with board := f m.board }

/-- Switches the amplifier, and keeps the answer. -/
def switch [Board β] (on : Bool) (m : Metered β) : Except HardwareError Unit × Metered β :=
  let (answer, board) := Hardware.setAmplifier on m.board
  (answer, ⟨board, ⟨on, answer.isOk⟩ :: m.given⟩)

instance [Board β] : Board (Metered β) where
  note e := tell (Journal.note e)
  trap t := tell (Journal.trap t)
  readEncoder channel := ask (Hardware.readEncoder channel)
  readAnalog channel := ask (Hardware.readAnalog channel)
  readLimitSwitches := ask Hardware.readLimitSwitches
  setAmplifier := switch
  setCurrent current := ask (Hardware.setCurrent current)
  readAmplifierFault := ask Hardware.readAmplifierFault
  pulseImu := ask Hardware.pulseImu
  readImu capacity := ask (Hardware.readImu capacity)
  awaitEdge timeout := ask (Board.awaitEdge timeout)
  sinceEdge m := Board.sinceEdge m.board
  cycleDuration m := Board.cycleDuration m.board
  feed := tell Board.feed
  expired := ask Board.expired
  lineAsserted m := Board.lineAsserted m.board
  assertLine := tell Board.assertLine
  releaseLine := tell Board.releaseLine
  send bytes := tell (Board.send bytes)
  receive capacity := ask (Board.receive capacity)

variable [Board β] (b : Metered β)

theorem given_noteAll (events : List Event) : (Journal.noteAll events b).given = b.given :=
  Journal.noteAll_leaves (f := given) (fun _ _ => rfl) events b

theorem given_noteIf (condition : Bool) (e : Event) :
    (Journal.noteIf condition e b).given = b.given :=
  Journal.noteIf_leaves (f := given) (fun _ _ => rfl) condition e b

/-- A switch gives one command. -/
theorem given_setAmplifier (on : Bool) :
    ∃ accepted, (Hardware.setAmplifier on b).2.given = ⟨on, accepted⟩ :: b.given :=
  ⟨_, rfl⟩

theorem given_collect (motorEncoder : Bool) :
    (Actuator.Readings.collect motorEncoder b).2.given = b.given := by
  cases motorEncoder <;> rfl

end Metered

/-! ### One hook -/

namespace Actuator.Monitor

variable {β : Type} [Board β] (m : Monitor) (b : Metered β)

theorem given_latch (flag : Flag) (e : HardwareError) : (m.latch flag e b).2.given = b.given :=
  b.given_noteIf _ _

theorem given_enable : ∃ accepted, (m.enable b).2.given = ⟨true, accepted⟩ :: b.given := by
  obtain ⟨accepted, given⟩ := b.given_setAmplifier true
  refine ⟨accepted, ?_⟩
  rw [← given]
  unfold enable
  split
  · next answer => rw [answer]
  · next answer =>
      rw [answer]
      exact m.given_latch _ _ _

theorem given_disable : ∃ accepted, (m.disable b).2.given = ⟨false, accepted⟩ :: b.given := by
  obtain ⟨accepted, given⟩ := b.given_setAmplifier false
  refine ⟨accepted, ?_⟩
  rw [← given]
  unfold disable
  dsimp only
  split
  · next answer => rw [answer]
  · next answer =>
      rw [answer]
      exact given_latch _ _ _ _

theorem given_commandCurrent (current : Int32) :
    (m.commandCurrent current b).2.2.given = b.given := by
  unfold commandCurrent
  split
  · rfl
  split
  · rfl
  next current clamped =>
    have kept : (Hardware.setCurrent current b).2.given = b.given := rfl
    split
    · next answer =>
        rw [answer] at kept
        exact kept
    · next answer =>
        rw [answer] at kept
        exact (m.given_latch _ _ _).trans kept

theorem given_haltStep : (m.haltStep b).2.2.given = b.given := by
  unfold haltStep
  split
  · rfl
  split
  · split
    · rfl
    · exact m.given_commandCurrent b _
  · exact m.given_commandCurrent b 0

end Actuator.Monitor

/-! ### The hooks of a tick -/

/-- What a hook tells the amplifier, if anything. -/
def Bench.Hook.switches : Hook → Option Bool
  | .enableOutputs => some true
  | .disableOutputs | .estop => some false
  | _ => none

namespace Metered

variable {β : Type} {joint : Joint} {base : List Switching} {r : Recorded (Mounted (Metered β))}

/-- Behind what was there before, the commands given are those of the recorded hooks. -/
structure Counts (joint : Joint) (base : List Switching) (r : Recorded (Mounted (Metered β))) :
    Prop where
  device : ∃ m, r.plant.device = .actuator joint m
  given : ∃ later, r.plant.board.given = later ++ base ∧
    later.map Switching.on = r.hooks.filterMap Hook.switches

/-- A hook that gives no command. -/
theorem Counts.call (h : Counts joint base r) {hook : Hook}
    {f : Mounted (Metered β) → Mounted (Metered β)} (silent : hook.switches = none)
    (device : ∃ m, (f r.plant).device = .actuator joint m)
    (given : (f r.plant).board.given = r.plant.board.given) :
    Counts joint base (r.call hook f) := by
  obtain ⟨later, found, commands⟩ := h.given
  refine ⟨device, later, given.trans found, ?_⟩
  show _ = (hook :: r.hooks).filterMap Hook.switches
  rw [List.filterMap_cons_none silent]
  exact commands

/-- A hook that gives one. -/
theorem Counts.switch (h : Counts joint base r) {hook : Hook} {on : Bool}
    {f : Mounted (Metered β) → Mounted (Metered β)} (loud : hook.switches = some on)
    (device : ∃ m, (f r.plant).device = .actuator joint m)
    (given : ∃ accepted, (f r.plant).board.given = ⟨on, accepted⟩ :: r.plant.board.given) :
    Counts joint base (r.call hook f) := by
  obtain ⟨later, found, commands⟩ := h.given
  obtain ⟨accepted, given⟩ := given
  refine ⟨device, ⟨on, accepted⟩ :: later, ?_, ?_⟩
  · exact given.trans (congrArg _ found)
  · show _ = (hook :: r.hooks).filterMap Hook.switches
    rw [List.filterMap_cons_some loud, List.map_cons, commands]

/-- **The commands of a tick are those of its hooks.** -/
theorem counts_keeps [Board β] (joint : Joint) (base : List Switching) :
    Plant.Keeps (Counts (β := β) joint base) where
  note _ _ h := ⟨h.device, h.given⟩
  enableOutputs := by
    intro ⟨⟨device, b⟩, hooks⟩ h
    obtain ⟨m, rfl⟩ := h.device
    exact h.switch (f := Plant.enableOutputs) rfl ⟨_, rfl⟩ (m.given_enable b)
  disableOutputs := by
    intro ⟨⟨device, b⟩, hooks⟩ h
    obtain ⟨m, rfl⟩ := h.device
    exact h.switch (f := Plant.disableOutputs) rfl ⟨_, rfl⟩ (m.given_disable b)
  updateOutputs := by
    intro data ⟨⟨device, b⟩, hooks⟩ h
    obtain ⟨m, rfl⟩ := h.device
    exact h.call (f := Plant.updateOutputs data) rfl ⟨_, rfl⟩ (m.given_commandCurrent b _)
  estop := by
    intro ⟨⟨device, b⟩, hooks⟩ h
    obtain ⟨m, rfl⟩ := h.device
    exact h.switch (f := Plant.estop) rfl ⟨_, rfl⟩ (m.given_disable b)
  resetError := by
    intro ⟨⟨device, b⟩, hooks⟩ h
    obtain ⟨m, rfl⟩ := h.device
    exact h.call (f := Plant.resetError) rfl ⟨_, rfl⟩ rfl
  runHalt := by
    intro ⟨⟨device, b⟩, hooks⟩ h
    obtain ⟨m, rfl⟩ := h.device
    exact h.call (f := fun p => (Plant.runHalt p).2) rfl ⟨_, rfl⟩ (m.given_haltStep b)
  assertLine _ h := h.call rfl h.device rfl
  releaseLine _ h := h.call rfl h.device rfl

end Metered

/-! ### One tick -/

namespace Machine

variable {σ : Type} [Plant σ] {m m₁ m' : Machine} {data : ProcessData} {s s₁ s' : Recorded σ}

theorem Checking.switches (way : Checking m data s m₁ s₁) :
    s₁.hooks.filterMap Hook.switches = s.hooks.filterMap Hook.switches := by
  cases way with
  | commanded | resumed => rfl

theorem Halting.switches (way : Halting m data s m₁ s₁) :
    s₁.hooks.filterMap Hook.switches = s.hooks.filterMap Hook.switches := by
  cases way with
  | entered =>
      rw [Bench.Recorded.hooks_note, Bench.Recorded.hooks_watched]
  | standing => rfl

/-- What a tick that gave no command before tells the amplifier, newest first. -/
structure Tells (before : State) (commands : List Bool) (after : State) : Prop where
  /-- A tick in `error` switches it off. -/
  dwells : before = .error → commands = [false]
  /-- A tick from `idle` or `reset` to `idle` leaves it alone. -/
  rests : before = .idle ∨ before = .reset → after = .idle → commands = []
  /-- A tick that ends outside of `run` and `halt` switches it off last, or was there already and
  leaves it alone. -/
  leaves : after.outputsLive = false →
    (∃ earlier, commands = false :: earlier) ∨ (commands = [] ∧ before.outputsLive = false)
  /-- No tick ends in `init` or `stop`. -/
  settles : after ≠ .init ∧ after ≠ .stop

/-- A tick that ends with a disable, and did not start in a state that says more. -/
theorem Tells.off {before after : State} {earlier : List Bool} (awake : before ≠ .error)
    (away : before = .idle ∨ before = .reset → after ≠ .idle)
    (settles : after ≠ .init ∧ after ≠ .stop) : Tells before (false :: earlier) after where
  dwells here := absurd here awake
  rests here there := absurd there (away here)
  leaves _ := Or.inl ⟨earlier, rfl⟩
  settles := settles

theorem Way.tells (fresh : s.hooks = []) (way : Way m data s m' s') :
    Tells m.state (s'.hooks.filterMap Hook.switches) m'.state := by
  cases way with
  | waits here =>
      rw [state_counted, here]
      simp only [Bench.Recorded.hooks_releaseLine, fresh]
      exact ⟨nofun, fun _ _ => rfl, fun _ => Or.inr ⟨rfl, rfl⟩, by decide⟩
  | starts checking =>
      rw [state_moved]
      rcases checking.origin with here | here <;> rw [here] <;>
        exact ⟨nofun, nofun, nofun, by decide⟩
  | refuses checking =>
      rw [state_failed]
      rcases checking.origin with here | here <;> rw [here] <;> exact .off nofun nofun (by decide)
  | runs here => 
      rw [state_observed, state_counted, here]
      exact ⟨nofun, nofun, nofun, by decide⟩
  | fails here => 
      rw [state_failed, here]
      exact .off nofun nofun (by decide)
  | stops here => 
      rw [state_moved, here]
      exact .off nofun nofun (by decide)
  | finishes here =>
      rw [state_moved, here]
      exact .off nofun nofun (by decide)
  | trips halting =>
      rw [state_failed]
      rcases halting.origin with here | here <;> rw [here] <;> exact .off nofun nofun (by decide)
  | breaks halting =>
      rw [state_failed]
      rcases halting.origin with here | here <;> rw [here] <;> exact .off nofun nofun (by decide)
  | halts halting =>
      rw [halting.state]
      rcases halting.origin with here | here <;> rw [here] <;>
        exact ⟨nofun, nofun, nofun, by decide⟩
  | givesUp halting =>
      rw [state_failed]
      rcases halting.origin with here | here <;> rw [here] <;> exact .off nofun nofun (by decide)
  | clears here =>
      rw [state_moved, here]
      simp only [Bench.Recorded.hooks_note, Bench.Recorded.hooks_resetError,
        Bench.Recorded.hooks_releaseLine, fresh]
      exact ⟨nofun, fun _ _ => rfl, fun _ => Or.inr ⟨rfl, rfl⟩, by decide⟩
  | dwells here =>
      rw [state_dwelt, state_counted, here]
      simp only [Bench.Recorded.hooks_assertLine, Bench.Recorded.hooks_estop, fresh]
      exact ⟨fun _ => rfl, nofun, fun _ => Or.inl ⟨_, rfl⟩, by decide⟩
  | leaves here =>
      rw [state_moved, here]
      simp only [Bench.Recorded.hooks_note, Bench.Recorded.hooks_assertLine,
        Bench.Recorded.hooks_estop, fresh]
      exact ⟨fun _ => rfl, nofun, fun _ => Or.inl ⟨_, rfl⟩, by decide⟩

end Machine
/-! ### One cycle -/

namespace Controller

section Silent

variable {β : Type} {joint : Joint} {c c₁ c₂ : Controller (Metered β)}

/-- Between two controllers no command was given, and the device is still the same joint. -/
structure Silent (joint : Joint) (c c' : Controller (Metered β)) : Prop where
  device : (∃ m, c.device = .actuator joint m) → ∃ m, c'.device = .actuator joint m
  given : (∃ m, c.device = .actuator joint m) → c'.board.given = c.board.given

theorem Silent.trans (first : Silent joint c c₁) (second : Silent joint c₁ c₂) :
    Silent joint c c₂ where
  device h := second.device (first.device h)
  given h := (second.given (first.device h)).trans (first.given h)

end Silent

variable {β : Type} [Board β] {joint : Joint} (c : Controller (Metered β))

theorem silent_accountEdge (edge : Edge) : Silent joint c (c.accountEdge edge) where
  device h := h
  given _ := accountEdge_leaves (f := Metered.given) (fun _ _ => rfl) (fun _ _ => rfl) c edge

theorem silent_sampleInputs (sinceEdge : Nat) : Silent joint c (c.sampleInputs sinceEdge) := by
  obtain ⟨board, device, _, _, _, _, _, _, _, _⟩ := c
  refine ⟨?_, ?_⟩
  · rintro ⟨m, rfl⟩
    exact ⟨_, rfl⟩
  · rintro ⟨m, rfl⟩
    exact (ProcessData.report_leaves _ _ _ (f := Metered.given) fun _ _ => rfl).trans
      ((Metered.given_noteAll _ _).trans (board.given_collect m.motorEncoder))

theorem silent_exchange : Silent joint c c.exchange :=
  ⟨fun h => h, fun _ => rfl⟩

theorem silent_afterExchange : Silent joint c c.afterExchange := by
  obtain ⟨board, device, _, _, _, _, _, _, _, _⟩ := c
  refine ⟨?_, ?_⟩
  · rintro ⟨m, rfl⟩
    exact ⟨m, rfl⟩
  · rintro ⟨m, rfl⟩
    rfl

theorem silent_feed (edgeSeen : Bool) : Silent joint c (c.feed edgeSeen) := by
  unfold feed
  split
  · exact ⟨fun h => h, fun _ => rfl⟩
  · exact ⟨fun h => h, fun _ => rfl⟩

theorem silent_sampleStopLine : Silent joint c c.sampleStopLine :=
  ⟨fun h => h, fun _ => Metered.given_noteAll _ _⟩

/-- Nothing in front of a tick gives a command. -/
theorem silent_readied (edge : Edge) : Silent joint c (c.readied edge) :=
  (c.silent_accountEdge edge).trans <| (silent_sampleInputs _ _).trans <|
    (silent_exchange _).trans <| (silent_afterExchange _).trans <|
    (silent_feed _ true).trans (silent_sampleStopLine _)

variable {c}

/-- **The commands of a cycle are those of the hooks of its tick.** -/
theorem tells_syncCycle (device : ∃ m, c.device = .actuator joint m) (edge : Edge) :
    (∃ m, (c.syncCycle edge).device = .actuator joint m) ∧
      ∃ later, (c.syncCycle edge).board.given = later ++ c.board.given ∧
        Machine.Tells c.machine.state (later.map Switching.on)
          (c.syncCycle edge).machine.state := by
  have silent : Silent joint c (c.readied edge) := c.silent_readied edge
  let found : Recorded (Mounted (Metered β)) := ⟨(c.readied edge).mounted, []⟩
  have begins : Metered.Counts joint c.board.given found :=
    ⟨silent.device device, [], silent.given device, rfl⟩
  have way := Machine.tick_way (c.readied edge).machine (c.readied edge).data found
  obtain ⟨made, later, given, commands⟩ :=
    way.keeps (Metered.counts_keeps joint c.board.given) begins
  have tells := way.tells rfl
  rw [← commands] at tells
  -- Recording its hooks does not change what a tick does.
  obtain ⟨machine, plant⟩ := (c.readied edge).machine.tick_recorded (c.readied edge).data found
  rw [plant] at made given
  rw [machine] at tells
  have recorded := syncCycle_leaves (f := Metered.given) (fun _ _ => rfl) (fun _ _ => rfl) c edge
  exact ⟨made, later, recorded.trans given, tells⟩

theorem given_powerUp (m : Actuator.Monitor) (b : Metered β) :
    ∃ accepted, ((Device.actuator joint m).powerUp b).2.given = ⟨false, accepted⟩ :: b.given := by
  obtain ⟨accepted, given⟩ := b.given_setAmplifier false
  refine ⟨accepted, ?_⟩
  rw [← given]
  unfold Device.powerUp
  dsimp only
  split
  next switched => rw [switched]
  next switched =>
    rw [switched]
    rfl

/-- A joint that is set up was told to be off. -/
theorem given_setUp {m : Actuator.Monitor} {data data' : ProcessData} {b b' : Metered β}
    (h : (Device.actuator joint m).setUp data b = (.ok data', b')) :
    ∃ accepted, b'.given = ⟨false, accepted⟩ :: b.given := by
  have kept := Device.setUp_leaves (f := Metered.given) (fun _ _ => rfl)
    (Device.actuator joint m) data b
  rw [h] at kept
  obtain ⟨accepted, given⟩ : ∃ accepted, ((Device.actuator joint m).powerUp b).2.given =
    ⟨false, accepted⟩ :: b.given := given_powerUp m b
  exact ⟨accepted, kept.trans given⟩

/-- A joint that has started is idle, and was told once to be off. -/
theorem given_of_start {config : Config} {b : β} {b' : Metered β}
    (named : config.device.id.kind? = some joint.kind)
    (started : start config (⟨b, []⟩ : Metered β) = (.ok c, b')) :
    (∃ m, c.device = .actuator joint m) ∧ c.machine.state = .idle ∧
      ∃ accepted, c.board.given = [⟨false, accepted⟩] := by
  obtain ⟨m, chosen⟩ : ∃ m, Device.ofKind joint.kind config.limits = .actuator joint m := by
    cases joint <;> exact ⟨_, rfl⟩
  unfold start at started
  simp only [named, chosen] at started
  split at started
  · nomatch (Prod.mk.inj started).1
  next data board setUp =>
    obtain ⟨accepted, given⟩ := given_setUp setUp
    obtain rfl := Except.ok.inj (Prod.mk.inj started).1
    exact ⟨⟨m, rfl⟩, rfl, accepted, given⟩

end Controller

/-! ### Runs -/

namespace Service

variable {β : Type}

/-- A service on a metered board.  What happens to the board before a cycle gives no command. -/
def metered (c : Controller (Metered β)) (rounds : Nat → Round β) : Service (Metered β) where
  first := c
  rounds n := ⟨Metered.tell (rounds n).stir, (rounds n).edge⟩

variable [Board β]

/-- The state after so many cycles. -/
def state (v : Service β) (n : Nat) : State := (v.after n).machine.state

/-- The commands the amplifier was given in so many cycles and in the set-up, newest first. -/
def given (v : Service (Metered β)) (n : Nat) : List Switching := (v.after n).board.given

variable {c : Controller (Metered β)} {joint : Joint}

theorem tells_metered (device : ∃ m, c.device = .actuator joint m) (rounds : Nat → Round β)
    (n : Nat) :
    (∃ m, ((metered c rounds).after n).device = .actuator joint m) ∧
      ∃ later, (metered c rounds).given (n + 1) = later ++ (metered c rounds).given n ∧
        Machine.Tells ((metered c rounds).state n) (later.map Switching.on)
          ((metered c rounds).state (n + 1)) := by
  have made : ∃ m, ((metered c rounds).after n).device = .actuator joint m := by
    induction n with
    | zero => exact device
    | succ n ih =>
        exact (Controller.tells_syncCycle (c := (metered c rounds).ready n) ih _).1
  exact ⟨made, (Controller.tells_syncCycle (c := (metered c rounds).ready n) made _).2⟩

/-- Outside of `run` and `halt` the last command was to be off. -/
theorem last_of_off (device : ∃ m, c.device = .actuator joint m)
    (off : ∃ accepted older, c.board.given = ⟨false, accepted⟩ :: older)
    (rounds : Nat → Round β) (n : Nat)
    (outside : ((metered c rounds).state n).outputsLive = false) :
    ∃ accepted older, (metered c rounds).given n = ⟨false, accepted⟩ :: older := by
  induction n with
  | zero => exact off
  | succ n ih =>
      obtain ⟨-, later, given, tells⟩ := tells_metered device rounds n
      rw [given]
      rcases tells.leaves outside with ⟨earlier, commands⟩ | ⟨silent, before⟩
      · obtain ⟨⟨on, accepted⟩, older, rfl, rfl, -⟩ := List.map_eq_cons_iff.mp commands
        exact ⟨accepted, older ++ _, rfl⟩
      · rw [List.map_eq_nil_iff.mp silent]
        exact ih before

/--
**A refused disable is repeated in `error`, and nowhere else.**

This is about a leg or a hip on any board, whatever happens to the board between two
cycles and whichever commands of the amplifier it refuses.  A cycle that starts in
`error` switches the amplifier off, whether or not that was accepted before.  Outside
of `run` and `halt` the last command has always been to be off.  A node that stays in
`idle`, or comes there from `reset`, gives no command.
-/
theorem disable_repeated_in_error {config : Config} {b : β} {b' : Metered β}
    (named : config.device.id.kind? = some joint.kind)
    (started : Controller.start config (⟨b, []⟩ : Metered β) = (.ok c, b'))
    (rounds : Nat → Round β) (n : Nat) :
    let v := metered c rounds
    (v.state n ≠ .run → v.state n ≠ .halt → v.state n ≠ .idle → v.state n ≠ .reset →
      ∃ accepted, v.given (n + 1) = ⟨false, accepted⟩ :: v.given n) ∧
    (v.state n ≠ .run → v.state n ≠ .halt →
      ∃ accepted older, v.given n = ⟨false, accepted⟩ :: older) ∧
    (v.state n = .idle ∨ v.state n = .reset → v.state (n + 1) = .idle →
      v.given (n + 1) = v.given n) := by
  obtain ⟨device, idle, first, off⟩ := Controller.given_of_start named started
  obtain ⟨-, later, given, tells⟩ := tells_metered device rounds n
  have settled : (metered c rounds).state n ≠ .init ∧ (metered c rounds).state n ≠ .stop := by
    cases n with
    | zero =>
        rw [show (metered c rounds).state 0 = .idle from idle]
        decide
    | succ n =>
        obtain ⟨-, _, -, tells⟩ := tells_metered device rounds n
        exact tells.settles
  refine ⟨?_, ?_, ?_⟩
  · intro run halt idle reset
    have error : (metered c rounds).state n = .error := by
      obtain ⟨init, stop⟩ := settled
      generalize (metered c rounds).state n = state at *
      cases state <;> first | rfl | contradiction
    have commands := tells.dwells error
    obtain ⟨⟨on, accepted⟩, older, rfl, rfl, none⟩ := List.map_eq_cons_iff.mp commands
    obtain rfl := List.map_eq_nil_iff.mp none
    exact ⟨accepted, given⟩
  · intro run halt
    have outside : ((metered c rounds).state n).outputsLive = false := by
      generalize (metered c rounds).state n = state at *
      cases state <;> first | rfl | contradiction
    exact last_of_off device ⟨first, [], off⟩ rounds n outside
  · intro before after
    rw [given, List.map_eq_nil_iff.mp (tells.rests before after), List.nil_append]

/-! ### Welded contacts -/

/-- A simulated board with an amplifier that cannot be switched off once it is on. -/
def Welded : Type := SimBoard

instance : Board Welded :=
  let simulated : Board SimBoard := inferInstance
  { simulated with
    setAmplifier := fun on b =>
      if b.amplifierEnabled && !on then (.error (.actuatorFault "contacts welded"), b)
      else (.ok (), b.setAmplifier on) }

/-- A leg that may leave `error` after two cycles. -/
def hastyConfig : Config := { legConfig with safety := { errorDwell := 1 } }

/-- A cycle for each command. -/
def orders (commands : List State) (n : Nat) : Round Welded where
  stir b := { b with rx := b.rx.setByte Inbound.command.offset (commands.getD n .idle).toByte }
  edge := ⟨n + 1, 0⟩

def obeying (c : Controller (Metered Welded)) (commands : List State) : Service (Metered Welded) :=
  metered c (orders commands)

/-- A live amplifier in `error` is told again to be off. -/
theorem disable_repeated_in_error_welded :
    ∃ (c : Controller (Metered Welded)) (b' : Metered Welded),
      Controller.start hastyConfig ⟨SimBoard.fresh 10000000, []⟩ = (.ok c, b') ∧
      (obeying c [.run, .error]).state 2 = .error ∧
      Switching.live ((obeying c [.run, .error]).given 2) = true ∧
      ∃ accepted, (obeying c [.run, .error]).given 3 =
        ⟨false, accepted⟩ :: (obeying c [.run, .error]).given 2 := by
  obtain ⟨c, b', started, error, live⟩ :
      ∃ (c : Controller (Metered Welded)) (b' : Metered Welded),
        Controller.start hastyConfig ⟨SimBoard.fresh 10000000, []⟩ = (.ok c, b') ∧
        (obeying c [.run, .error]).state 2 = .error ∧
        Switching.live ((obeying c [.run, .error]).given 2) = true := by
    refine ⟨_, _, rfl, ?_, ?_⟩ <;> decide +kernel
  have named : hastyConfig.device.id.kind? = some Joint.leg.kind := rfl
  obtain ⟨again, -, -⟩ := disable_repeated_in_error named started (orders [.run, .error]) 2
  refine ⟨c, b', started, error, live, again ?_ ?_ ?_ ?_⟩
  all_goals exact fun same => State.noConfusion (error.symm.trans same)

/-- A live amplifier in `idle` or in `reset` is not: the next cycle gives it no command. -/
theorem live_amplifier_left_standing :
    ∃ (c : Controller (Metered Welded)) (b' : Metered Welded),
      Controller.start hastyConfig ⟨SimBoard.fresh 10000000, []⟩ = (.ok c, b') ∧
      (obeying c [.run, .stop]).state 2 = .idle ∧
      Switching.live ((obeying c [.run, .stop]).given 2) = true ∧
      (obeying c [.run, .stop]).given 3 = (obeying c [.run, .stop]).given 2 ∧
      (obeying c [.run, .error, .reset, .reset]).state 4 = .reset ∧
      Switching.live ((obeying c [.run, .error, .reset, .reset]).given 4) = true ∧
      (obeying c [.run, .error, .reset, .reset]).given 5 =
        (obeying c [.run, .error, .reset, .reset]).given 4 := by
  refine ⟨_, _, rfl, ?_, ?_, ?_, ?_, ?_, ?_⟩ <;> decide +kernel

end Service
end FieldbusNode
