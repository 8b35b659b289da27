/-
The local watchdog of a simulated rig, over every sequence of calls and actions.

The countdown is looked at in three places: when time passes, when it is fed and when
somebody asks.  In between the latch lags behind, so what is followed here is not the
latch but what it will be once somebody asks (`SimBoard.settled`).  That changes with
every operation in one of two ways: time passes, perhaps none, or the countdown starts
again.

A `Watch` is the other side: a rig beside the moment at which a bystander saw the last
feed.  It never looks at the latch.  The watchdog reads expired just when at some moment
of the sequence the bystander had waited longer than the timeout.

Times and the timeout are plain numbers, so they may be read in any unit.
-/
import FieldbusNode.Proofs.Watchdog
import Mathlib.Data.List.Induction
namespace FieldbusNode.Simulation

/-! ### Operations -/

/-- A call of a board that may change it.  The others are questions: how long the last edge is
ago, and whether the stop line is asserted. -/
inductive Call
  | readEncoder (channel : EncoderChannel)
  | readAnalog (channel : AnalogChannel)
  | readLimitSwitches
  | setAmplifier (enabled : Bool)
  | setCurrent (current : Int32)
  | readAmplifierFault
  | pulseImu
  | readImu (capacity : Nat)
  /-- Waits for an edge, at most so long. -/
  | awaitEdge (timeout : Nat)
  | feed
  /-- Asks whether the countdown ran out. -/
  | expired
  | assertLine
  | releaseLine
  | send (bytes : List UInt8)
  | receive (capacity : Nat)

/-- What a call makes of a board. -/
def SimBoard.call (b : SimBoard) : Call → SimBoard
  | .readEncoder channel => (Hardware.readEncoder channel b).2
  | .readAnalog channel => (Hardware.readAnalog channel b).2
  | .readLimitSwitches => (Hardware.readLimitSwitches b).2
  | .setAmplifier enabled => (Hardware.setAmplifier enabled b).2
  | .setCurrent current => (Hardware.setCurrent current b).2
  | .readAmplifierFault => (Hardware.readAmplifierFault b).2
  | .pulseImu => (Hardware.pulseImu b).2
  | .readImu capacity => (Hardware.readImu capacity b).2
  | .awaitEdge timeout => (Board.awaitEdge timeout b).2
  | .feed => Board.feed b
  | .expired => (Board.expired b).2
  | .assertLine => Board.assertLine b
  | .releaseLine => Board.releaseLine b
  | .send bytes => Board.send bytes b
  | .receive capacity => (Board.receive capacity b).2

/-- A call of the board, or an action on the rig around it. -/
inductive Operation
  | call (call : Call)
  | act (action : Action)

/-- Whether an operation feeds the watchdog. -/
def Operation.feeds : Operation → Bool
  | .call .feed => true
  | _ => false

namespace Rig

/-- What an operation makes of a rig. -/
def operate (rig : Rig) : Operation → Rig
  | .call call => { rig with board := rig.board.call call }
  | .act action => rig.act action

/-- How long an operation takes.  A wait takes its whole timeout, unless an edge is queued. -/
def takes (rig : Rig) : Operation → Nat
  | .call (.awaitEdge timeout) => if rig.board.edges.isEmpty then timeout else 0
  | .act .step => rig.master.period
  | .act (.advance nanos) => nanos
  | _ => 0

end Rig

/-- A rig, and when its watchdog was last fed.  The start counts as a feed. -/
structure Watch where
  rig : Rig
  fedAt : Nat

namespace Watch

def step (w : Watch) (op : Operation) : Watch :=
  ⟨w.rig.operate op, if op.feeds then w.rig.board.now else w.fedAt⟩

def after (w : Watch) (ops : List Operation) : Watch := ops.foldl step w

def now (w : Watch) : Nat := w.rig.board.now

/-- The time since the last feed. -/
def unfed (w : Watch) : Nat := w.now - w.fedAt

/-- What the watchdog answers when it is asked. -/
def reads (w : Watch) : Bool := (Board.expired w.rig.board).1

end Watch

/-! ### One operation -/

namespace Timing

variable (t : Timing)

/-- Two spans of time are as good as one. -/
theorem advance_advance (first second : Nat) :
    (t.advance first).advance second = t.advance (first + second) := by
  simp only [advance, Timing.mk.injEq, true_and, Nat.add_assoc]
  rw [Bool.or_assoc, ← Bool.decide_or, decide_eq_decide.mpr]
  omega

/-- The countdown starts again.  The latch stays as it is. -/
def restart : Timing := { t with lastFeed := t.now }

theorem advance_restart : t.restart.advance 0 = t.restart := by
  simp [advance, restart]

end Timing

namespace SimBoard

variable (b : SimBoard)

/-- The timing as the watchdog will tell it once somebody asks. -/
def settled : Timing := b.timing.advance 0

theorem advance_settled : b.settled.advance 0 = b.settled :=
  b.timing.advance_advance 0 0

theorem timing_latched : b.latchWatchdog.timing = b.settled := by
  have latched := congrArg timing b.clockwork_latchWatchdog
  exact latched

theorem settled_latchWatchdog : b.latchWatchdog.settled = b.settled := by
  unfold settled
  rw [timing_latched, settled, Timing.advance_advance]

theorem settled_of_passed {b b' : SimBoard} {nanos : Nat}
    (passed : b'.timing = b.timing.advance nanos) : b'.settled = b.settled.advance nanos := by
  unfold settled
  rw [passed, Timing.advance_advance, Timing.advance_advance, Nat.add_comm]

theorem settled_feed : b.feed.settled = b.settled.restart := by
  have fed : b.feed.timing = b.latchWatchdog.timing.restart := rfl
  unfold settled
  rw [fed, timing_latched, Timing.advance_restart]
  rfl

/-- A call that feeds starts the countdown again, one that waits lets time pass, and the others
leave the countdown alone. -/
theorem settled_call (call : Call) : (b.call call).settled =
    match call with
    | .feed => b.settled.restart
    | .awaitEdge timeout => b.settled.advance (if b.edges.isEmpty then timeout else 0)
    | _ => b.settled := by
  cases call with
  | feed => exact b.settled_feed
  | expired => exact b.settled_latchWatchdog
  | awaitEdge timeout =>
      show (b.awaitEdge timeout).2.settled = _
      unfold awaitEdge
      cases queue : b.edges with
      | nil => exact settled_of_passed (b.timing_advance timeout)
      | cons edge rest => exact b.advance_settled.symm
  | setCurrent current =>
      show (b.setCurrent current).2.settled = _
      unfold setCurrent
      split <;> rfl
  | _ => rfl

theorem feedCount_call (call : Call) :
    (b.call call).feedCount = b.feedCount + (Operation.call call).feeds.toNat := by
  cases call with
  | feed => exact b.feedCount_feed
  | expired => exact b.feedCount_latchWatchdog
  | awaitEdge timeout =>
      show (b.awaitEdge timeout).2.feedCount = _
      unfold awaitEdge
      split
      · rfl
      · exact b.feedCount_advance timeout
  | setCurrent current =>
      show (b.setCurrent current).2.feedCount = _
      unfold setCurrent
      split <;> rfl
  | _ => rfl

end SimBoard

namespace Rig

variable (rig : Rig) (op : Operation)

/-- **An operation lets its time pass, unless it feeds: then the countdown starts again.** -/
theorem settled_operate : (rig.operate op).board.settled =
    if op.feeds then rig.board.settled.restart else rig.board.settled.advance (rig.takes op) := by
  have still := rig.board.advance_settled.symm
  cases op with
  | call call =>
      refine (rig.board.settled_call call).trans ?_
      cases call with
      | feed | awaitEdge => rfl
      | _ => exact still
  | act action =>
      cases action with
      | step => exact SimBoard.settled_of_passed rig.timing_step
      | advance nanos => exact SimBoard.settled_of_passed (rig.board.timing_advance nanos)
      | setInbound f t value =>
          have kept : (rig.act (.setInbound f t value)).board.clockwork = rig.board.clockwork :=
            rig.clockwork_act rfl
          exact (congrArg SimBoard.settled kept).trans still
      | _ => exact still

theorem feedCount_operate :
    (rig.operate op).board.feedCount = rig.board.feedCount + op.feeds.toNat := by
  cases op with
  | call call => exact rig.board.feedCount_call call
  | act action => exact rig.feedCount_act action

theorem takes_of_feeds (feeds : op.feeds = true) : rig.takes op = 0 := by
  match op, feeds with
  | .call .feed, _ => rfl

theorem now_operate : (rig.operate op).board.now = rig.board.now + rig.takes op := by
  have now := congrArg Timing.now (rig.settled_operate op)
  refine now.trans ?_
  split
  · rename_i feeds
    rw [rig.takes_of_feeds op feeds]
    rfl
  · rfl

end Rig

/-! ### Every sequence of operations -/

namespace Watch

variable {timeout : Nat} {w : Watch}

theorem after_concat (w : Watch) (ops : List Operation) (op : Operation) :
    w.after (ops ++ [op]) = (w.after ops).step op :=
  List.foldl_append

theorem after_append (w : Watch) (ops more : List Operation) :
    w.after (ops ++ more) = (w.after ops).after more :=
  List.foldl_append

theorem now_step (w : Watch) (op : Operation) :
    (w.step op).now = w.now + w.rig.takes op :=
  w.rig.now_operate op

theorem reads_eq (w : Watch) : w.reads = w.rig.board.settled.expired :=
  congrArg Timing.expired w.rig.board.timing_latched

/-- The board counts from the feed that the bystander saw. -/
structure Agrees (timeout : Nat) (w : Watch) : Prop where
  timeout : w.rig.board.settled.timeout = timeout
  lastFeed : w.rig.board.settled.lastFeed = w.fedAt

theorem Agrees.step (h : w.Agrees timeout) (op : Operation) : (w.step op).Agrees timeout := by
  have settled := w.rig.settled_operate op
  cases feeds : op.feeds with
  | true =>
      rw [feeds, if_pos rfl] at settled
      refine ⟨(congrArg Timing.timeout settled).trans h.timeout, ?_⟩
      refine (congrArg Timing.lastFeed settled).trans ?_
      simp only [Watch.step, feeds, if_true]
      rfl
  | false =>
      rw [feeds, if_neg Bool.false_ne_true] at settled
      refine ⟨(congrArg Timing.timeout settled).trans h.timeout, ?_⟩
      refine (congrArg Timing.lastFeed settled).trans (h.lastFeed.trans ?_)
      simp [Watch.step, feeds]

theorem Agrees.after (h : w.Agrees timeout) (ops : List Operation) :
    (w.after ops).Agrees timeout := by
  induction ops generalizing w with
  | nil => exact h
  | cons op rest ih => exact ih (h.step op)

theorem unfed_step_of_feeds (w : Watch) {op : Operation} (feeds : op.feeds = true) :
    (w.step op).unfed = 0 := by
  rw [unfed, now_step, w.rig.takes_of_feeds op feeds, Watch.step, if_pos feeds]
  exact Nat.sub_self _

/-- **After an operation the watchdog reads expired if it did before, or if the time since the last
feed is too long by then.** -/
theorem Agrees.reads_step (h : w.Agrees timeout) (op : Operation) :
    (w.step op).reads = true ↔ w.reads = true ∨ timeout < (w.step op).unfed := by
  have settled := w.rig.settled_operate op
  rw [reads_eq, reads_eq, show (w.step op).rig = w.rig.operate op from rfl, settled]
  cases feeds : op.feeds with
  | true =>
      rw [w.unfed_step_of_feeds feeds, if_pos rfl]
      simp [Timing.restart]
  | false =>
      have later : (w.step op).unfed = w.now + w.rig.takes op - w.fedAt := by
        rw [unfed, now_step, Watch.step, if_neg (by simp [feeds])]
      have since : (w.rig.board.settled.advance (w.rig.takes op)).expired =
          (w.rig.board.settled.expired || decide (timeout < w.now + w.rig.takes op - w.fedAt)) := by
        rw [← h.timeout, ← h.lastFeed]
        rfl
      rw [later, if_neg Bool.false_ne_true, since, Bool.or_eq_true, decide_eq_true_iff]

theorem fedAt_after_of_unfed {ops : List Operation} (unfed : ∀ op ∈ ops, op.feeds = false) :
    (w.after ops).fedAt = w.fedAt := by
  induction ops generalizing w with
  | nil => rfl
  | cons op rest ih =>
      obtain ⟨first, others⟩ := List.forall_mem_cons.mp unfed
      exact (ih others).trans (if_neg (by simp [first]))

/-- Without a feed the last moment is the one that counts. -/
theorem Agrees.reads_after_of_unfed (h : w.Agrees timeout) {ops : List Operation}
    (unfed : ∀ op ∈ ops, op.feeds = false) (start : timeout < w.unfed → w.reads = true) :
    (w.after ops).reads = true ↔ w.reads = true ∨ timeout < (w.after ops).now - w.fedAt := by
  induction ops using List.reverseRecOn with
  | nil => exact ⟨.inl, fun late => late.elim id start⟩
  | append_singleton ops op ih =>
      have earlier : ∀ op ∈ ops, op.feeds = false :=
        fun op among => unfed op (List.mem_append_left _ among)
      have fedAt : ((w.after ops).step op).fedAt = w.fedAt := by
        rw [← after_concat]
        exact fedAt_after_of_unfed unfed
      have passed := now_step (w.after ops) op
      rw [after_concat, (h.after ops).reads_step op, ih earlier, Watch.unfed, fedAt, or_assoc]
      refine or_congr_right ⟨fun late => ?_, .inr⟩
      omega

/-- A feed keeps what it finds.  From there only the time since the feed counts. -/
theorem Agrees.reads_after_feed (h : w.Agrees timeout) {ops : List Operation}
    (unfed : ∀ op ∈ ops, op.feeds = false) :
    (w.after (.call .feed :: ops)).reads = true ↔
      w.reads = true ∨ timeout < (w.after (.call .feed :: ops)).now - w.now := by
  have fed : (w.step (.call .feed)).unfed = 0 := w.unfed_step_of_feeds rfl
  have kept := h.reads_step (.call .feed)
  rw [fed] at kept
  have later := (h.step (.call .feed)).reads_after_of_unfed unfed (by simp [fed])
  refine later.trans (or_congr_left (kept.trans ?_))
  simp

/-- **The watchdog reads expired just when the time since the last feed was too long at some
moment.** -/
theorem Agrees.reads_after (h : w.Agrees timeout) (start : w.reads = decide (timeout < w.unfed))
    (ops : List Operation) :
    (w.after ops).reads = true ↔ ∃ sofar, sofar <+: ops ∧ timeout < (w.after sofar).unfed := by
  induction ops using List.reverseRecOn with
  | nil =>
      refine (iff_of_eq (congrArg (· = true) start)).trans ?_
      rw [decide_eq_true_iff]
      simp only [List.prefix_nil, exists_eq_left]
      rfl
  | append_singleton ops op ih =>
      rw [after_concat, (h.after ops).reads_step op, ih]
      simp only [List.prefix_concat_iff, or_and_right, exists_or, exists_eq_left, after_concat]
      exact or_comm

theorem feedCount_after (w : Watch) (ops : List Operation) :
    (w.after ops).rig.board.feedCount = w.rig.board.feedCount + ops.countP Operation.feeds := by
  induction ops generalizing w with
  | nil => rfl
  | cons op rest ih =>
      refine (ih (w.step op)).trans ?_
      rw [show (w.step op).rig = w.rig.operate op from rfl, Rig.feedCount_operate, List.countP_cons]
      cases op.feeds <;> simp [Nat.add_comm, Nat.add_left_comm]

/-- A fresh rig with this timeout, whose master steps with this period. -/
def fresh (timeout period : Nat) : Watch := ⟨⟨.fresh timeout, .ofPeriod period⟩, 0⟩

theorem agrees_fresh (timeout period : Nat) : (fresh timeout period).Agrees timeout := ⟨rfl, rfl⟩

theorem reads_fresh (timeout period : Nat) :
    (fresh timeout period).reads = decide (timeout < (fresh timeout period).unfed) := by
  rw [reads_eq]
  rfl

/--
**The latch of a simulated watchdog is exact.**

A fresh rig with any timeout and any period goes through any operations, and then the watchdog is
asked.
* It reads expired if and only if the time since the last feed, or since the start, was longer than
  the timeout after some of the operations.
* Behind its last feed, it reads expired if and only if it did before that feed, or if more than the
  timeout has passed since.  So a feed that comes in time starts the countdown again, and one that
  comes too late clears nothing.
* Once it reads expired it always does.
* The number of feeds it tells is the number of feeds there were.

The clock moves by what each operation takes and by nothing else.
-/
theorem latch_exact (timeout period : Nat) (ops : List Operation) :
    let start := Watch.fresh timeout period
    ((start.after ops).reads = true ↔
        ∃ sofar, sofar <+: ops ∧ timeout < (start.after sofar).unfed) ∧
      (∀ before behind, ops = before ++ .call .feed :: behind →
        (∀ op ∈ behind, op.feeds = false) →
          ((start.after ops).reads = true ↔ (start.after before).reads = true ∨
            timeout < (start.after ops).now - (start.after before).now)) ∧
      (∀ sofar, sofar <+: ops → (start.after sofar).reads = true →
        (start.after ops).reads = true) ∧
      (start.after ops).rig.board.feedCount = ops.countP Operation.feeds ∧
      ∀ op, (start.after (ops ++ [op])).now =
        (start.after ops).now + (start.after ops).rig.takes op := by
  intro start
  have agrees : start.Agrees timeout := agrees_fresh timeout period
  have moments := agrees.reads_after (reads_fresh timeout period)
  refine ⟨moments ops, ?_, ?_, ?_, ?_⟩
  · rintro before behind rfl unfed
    rw [start.after_append]
    exact (agrees.after before).reads_after_feed unfed
  · intro sofar part reads
    obtain ⟨earlier, within, late⟩ := (moments sofar).mp reads
    exact (moments ops).mpr ⟨earlier, within.trans part, late⟩
  · exact (start.feedCount_after ops).trans (Nat.zero_add _)
  · intro op
    rw [after_concat]
    exact now_step _ op

/-- A step and a feed in time, then nothing for as long as the timeout, a queued edge and a wait, and
a feed that comes one too late. -/
def overslept : List Operation :=
  [.act .step, .call .feed, .act (.advance 8), .call (.awaitEdge 5), .call (.awaitEdge 1),
    .call .feed]

theorem latch_exact_overslept :
    let start := Watch.fresh 8 1
    (start.after (overslept.take 4)).reads = false ∧ (start.after overslept).reads = true ∧
      (start.after overslept).rig.board.feedCount = 2 ∧ (start.after overslept).now = 10 := by
  have early := latch_exact 8 1 (overslept.take 4)
  obtain ⟨-, law, -, count, -⟩ := latch_exact 8 1 overslept
  have behind : ∀ op ∈ [Operation.act (.advance 8), .call (.awaitEdge 5)], op.feeds = false := by
    decide
  refine ⟨?_, (law (overslept.take 5) [] rfl (List.forall_mem_nil _)).mpr (.inl ?_), count, rfl⟩
  · refine Bool.eq_false_iff.mpr fun reads => ?_
    obtain reads | late := (early.2.1 [.act .step] _ rfl behind).mp reads
    · exact absurd reads (by decide)
    · exact absurd late (by decide)
  · exact (latch_exact 8 1 (overslept.take 5)).1.mpr ⟨_, List.prefix_refl _, by decide⟩

end Watch
end FieldbusNode.Simulation
