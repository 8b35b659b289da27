/-
Two nodes that differ in what their masters write.

`Shadows` relates two runs that are move for move the same, but for commands that are alike
and for values that only one of the two masters writes, far enough behind the header.  Twins
are two controllers under equal veils whose inbound records agree, on the board and as they
were taken over, as far as the runs do (`Controller.Twins`).  Passes and moves keep twins,
so along two such runs each pass of the one is like the pass of the other
(`Station.Twins.gather`).

How much agreement is needed depends on what is to be seen.  If currents are hidden the
header is enough; otherwise as many bytes have to agree as a cycle takes over.
-/
import FieldbusNode.Proofs.LiveMaster
import FieldbusNode.Proofs.Veil
namespace FieldbusNode

open Bench (Hook)
open Simulation (SimBoard Rig Action Station Move Master)

/-! ### Records that agree -/

/-- The commands of two inbound records are alike, and between the command and an offset the records
are the same. -/
structure Record.Agrees (alike : UInt8 → UInt8 → Prop) (n : Nat) (r r' : Record) : Prop where
  command : alike (r.getByte Inbound.command.offset) (r'.getByte Inbound.command.offset)
  rest : ∀ i, Inbound.command.stop ≤ i → i < n → r.getByte i = r'.getByte i

/-- Behind the end of a record there is nothing. -/
theorem Record.getByte_of_le (r : Record) {i : Nat} (behind : recordCapacity ≤ i) :
    r.getByte i = 0 := by
  simp [getByte, behind]

/-- A record is its bytes. -/
theorem Record.eq_of_getByte {r r' : Record} (same : ∀ i, r.getByte i = r'.getByte i) : r = r' := by
  obtain ⟨bytes⟩ := r
  obtain ⟨bytes'⟩ := r'
  congr
  ext i inside
  have byte := same i
  simp only [getByte, Vector.getElem?_eq_getElem inside, Option.getD_some] at byte
  rw [byte]

theorem Record.getByte_put_congr {r r' : Record} (offset : Nat) (bytes : List UInt8) {i : Nat}
    (same : i < offset ∨ offset + bytes.length ≤ i → r.getByte i = r'.getByte i) :
    (r.put offset bytes).getByte i = (r'.put offset bytes).getByte i := by
  rw [getByte_put, getByte_put]
  by_cases here : offset ≤ i ∧ i < recordCapacity
  · rw [if_pos here, if_pos here]
    by_cases written : i - offset < bytes.length
    · rw [List.getElem?_eq_getElem written]
      rfl
    · rw [same (Or.inr (by omega))]
  · rw [if_neg here, if_neg here]
    by_cases before : i < offset
    · exact same (Or.inl before)
    · have none : recordCapacity ≤ i := by omega
      rw [getByte_of_le r none, getByte_of_le r' none]

variable {alike : UInt8 → UInt8 → Prop} {n : Nat} {hidden : Bool}

namespace Simulation.Master

/-- Masters that step alike, and write records that agree up to an offset. -/
structure Twins (alike : UInt8 → UInt8 → Prop) (n : Nat) (m m' : Master) : Prop where
  period : m.period = m'.period
  command : alike m.command m'.command
  counter : m.counter = m'.counter
  frozen : m.frozen = m'.frozen
  values : ∀ i, Inbound.headerEnd ≤ i → i < n → m.rx.getByte i = m'.rx.getByte i

variable {m m' : Master}

theorem Twins.counter_prepared (h : Twins alike n m m') :
    m.prepared.counter = m'.prepared.counter := by
  show (if m.frozen then _ else _) = if m'.frozen then _ else _
  rw [h.counter, h.frozen]

theorem Twins.prepared (h : Twins alike n m m') : m.prepared.rx.Agrees alike n m'.prepared.rx := by
  constructor
  · rw [m.commandByte_prepared, m'.commandByte_prepared]
    exact h.command
  · intro i above below
    show ((m.rx.setByte _ _).put _ (Bytes.ofNat _ m.prepared.counter.toNat)).getByte i =
      ((m'.rx.setByte _ _).put _ (Bytes.ofNat _ m'.prepared.counter.toNat)).getByte i
    rw [h.counter_prepared]
    apply Record.getByte_put_congr
    intro outside
    rw [Bytes.length_ofNat] at outside
    have value : Inbound.headerEnd ≤ i := outside.resolve_left (Nat.not_lt.mpr above)
    have other : Inbound.command.offset ≠ i :=
      Nat.ne_of_lt (Nat.lt_of_lt_of_le (by decide) above)
    rw [Record.getByte_setByte, Record.getByte_setByte, if_neg (other ·.1), if_neg (other ·.1)]
    exact h.values i value below

end Simulation.Master

/-! ### Twins -/

namespace Controller

variable {c : Controller SimBoard}

theorem passHooks_of_unsynced (none : c.edge? = none) : c.passHooks = [] := by
  unfold passHooks
  rw [Option.map_eq_none_iff.mp none]

theorem passHooks_of_edge (alive : c.board.Alive) {edge : Edge} {rest : List Edge}
    (queue : c.board.edges = edge :: rest) : c.passHooks =
      ({ c with board := { c.board with edges := rest } }.readied edge).tickHooks := by
  have awaited : Board.awaitEdge c.idlePoll c.board =
      (some edge, { c.board with edges := rest }) := by
    show c.board.awaitEdge c.idlePoll = _
    rw [SimBoard.awaitEdge, queue]
  unfold passHooks cycle?
  rw [expired_of_alive alive]
  dsimp only
  rw [awaited]
  rfl

/-- Without a cycle nothing is taken over. -/
theorem rest_poll (none : c.edge? = none) :
    c.poll.2.data = c.data ∧ c.poll.2.board.rx = c.board.rx := by
  have pass := c.poll_observes
  rw [none] at pass
  have rx : c.poll.2.board.rx = c.board.rx := by
    cases pass with
    | rest machine backlog => exact congrArg Simulation.Backlog.inbound backlog
  refine ⟨?_, rx⟩
  by_cases alive : c.board.Alive
  · rw [edge?_of_alive alive, List.head?_eq_none_iff] at none
    rw [poll_of_empty alive none]
    exact (settled_feed _ false).data
  · rw [poll_of_spent alive]
    rfl

/-- What a pass without an edge makes of a controller whose watchdog is alive. -/
def waits (c : Controller SimBoard) : Controller SimBoard :=
  { c with board := c.board.advance c.idlePoll }.idlePass

theorem veil_waits (hidden : Bool) (c : Controller SimBoard) :
    c.waits.veil hidden = (c.veil hidden).waits := by
  unfold waits
  rw [veil_idlePass]
  exact congrArg (fun b => { c.veil hidden with board := b }.idlePass)
    (c.board.veil_advance hidden c.idlePoll)

/-- What a pass makes of a controller whose watchdog has run out. -/
def lapses (c : Controller SimBoard) : Controller SimBoard :=
  { c with board := c.board.latchWatchdog }.expire.2

theorem veil_lapses (hidden : Bool) (c : Controller SimBoard) :
    c.lapses.veil hidden = (c.veil hidden).lapses := by
  unfold lapses
  rw [veil_expire]
  exact congrArg (fun b => { c.veil hidden with board := b }.expire.2)
    (c.board.veil_latchWatchdog hidden)

end Controller

/-- Two controllers that differ in nothing but their inbound records, where those do not agree, and
in the current of the motor if that is hidden. -/
structure Controller.Twins (alike : UInt8 → UInt8 → Prop) (n : Nat) (hidden : Bool)
    (c c' : Controller SimBoard) : Prop where
  veil : c.veil hidden = c'.veil hidden
  layout : c.data.layout.Valid
  wire : c.board.rx.Agrees alike n c'.board.rx
  taken : c.data.inbound.Agrees alike n c'.data.inbound
  /-- Behind what a cycle takes over nothing ever changes. -/
  behind : ∀ i, c.data.layout.rxSize ≤ i → c.data.inbound.getByte i = c'.data.inbound.getByte i

/-- What has to agree for twins to go on alike. -/
structure Enough (alike : UInt8 → UInt8 → Prop) (n : Nat) (hidden : Bool) (layout : Layout) :
    Prop where
  reflexive : ∀ raw, alike raw raw
  meaning : ∀ raw raw', alike raw raw' →
    State.meaning (State.ofByte? raw) = State.meaning (State.ofByte? raw')
  header : Inbound.headerEnd ≤ n
  shown : hidden = false → layout.rxSize ≤ n

namespace Controller.Twins

variable {c c' d d' : Controller SimBoard}

theorem layout_eq (h : Twins alike n hidden c c') : c'.data.layout = c.data.layout := by
  have erased := congrArg (fun c : Controller SimBoard => c.data.layout) h.veil
  exact erased.symm

theorem validTwin (h : Twins alike n hidden c c') : c'.data.layout.Valid := by
  rw [h.layout_eq]
  exact h.layout

/-- What a cycle takes over of records that agree. -/
theorem taken_readied (h : Twins alike n hidden c c') (edge : Edge) :
    (c.readied edge).data.inbound.Agrees alike n (c'.readied edge).data.inbound ∧
      ∀ i, c.data.layout.rxSize ≤ i →
        (c.readied edge).data.inbound.getByte i = (c'.readied edge).data.inbound.getByte i := by
  have fits : c.data.layout.rxSize ≤ recordCapacity := h.layout.2.2.1
  rw [inbound_readied c h.layout, inbound_readied c' h.validTwin, h.layout_eq]
  have received {i : Nat} (inside : i < c.data.layout.rxSize) (r other : Record) :
      (r.put 0 (other.leading c.data.layout.rxSize)).getByte i = other.getByte i :=
    r.getByte_put_leading other inside fits
  have kept {i : Nat} (behind : c.data.layout.rxSize ≤ i) :
      (c.data.inbound.put 0 (c.board.rx.leading c.data.layout.rxSize)).getByte i =
        (c'.data.inbound.put 0 (c'.board.rx.leading c.data.layout.rxSize)).getByte i := by
    rw [Record.getByte_put_leading_of_le _ _ behind, Record.getByte_put_leading_of_le _ _ behind]
    exact h.behind i behind
  refine ⟨⟨?_, ?_⟩, fun i behind => kept behind⟩
  · have inside : Inbound.command.offset < c.data.layout.rxSize :=
      Nat.lt_of_lt_of_le (by decide : Inbound.command.offset < Inbound.headerEnd) h.layout.1
    rw [received inside, received inside]
    exact h.wire.command
  · intro i above below
    by_cases inside : i < c.data.layout.rxSize
    · rw [received inside, received inside]
      exact h.wire.rest i above below
    · exact kept (Nat.le_of_not_lt inside)

theorem ticksAlike (h : Twins alike n hidden c c') (enough : Enough alike n hidden c.data.layout)
    (edge : Edge) : (c.readied edge).TicksAlike hidden (c'.readied edge) := by
  obtain ⟨taken, behind⟩ := h.taken_readied edge
  have same (f : Field) (above : Inbound.command.stop ≤ f.offset)
      (seen : f.stop ≤ n ∨ c.data.layout.rxSize ≤ n) :
      (c.readied edge).data.inbound.slice f.offset f.width =
        (c'.readied edge).data.inbound.slice f.offset f.width := by
    apply Record.slice_congr
    intro i start stop
    rcases Nat.lt_or_ge i n with below | past
    · exact taken.rest i (Nat.le_trans above start) below
    · rcases seen with seen | seen
      · exact absurd (Nat.lt_of_lt_of_le stop seen) (Nat.not_lt.mpr past)
      · exact behind i (Nat.le_trans seen past)
  refine ticksAlike_of_orders (readied_alike h.veil edge) ⟨?_, ?_⟩ fun visible => ?_
  · exact enough.meaning _ _ taken.command
  · unfold ProcessData.masterCounter Record.getNat
    rw [same Inbound.masterCounter (Nat.le_refl _) (Or.inl enough.header)]
  · unfold ProcessData.currentCommand Record.getNat
    rw [same Inbound.motorCurrent (by decide) (Or.inr (enough.shown visible))]

theorem syncCycle (h : Twins alike n hidden c c') (enough : Enough alike n hidden c.data.layout)
    (edge : Edge) : Twins alike n hidden (c.syncCycle edge) (c'.syncCycle edge) ∧
      (c.readied edge).tickHooks = (c'.readied edge).tickHooks := by
  obtain ⟨veil, hooks⟩ := syncCycle_alike h.veil edge (h.ticksAlike enough edge)
  obtain ⟨taken, behind⟩ := h.taken_readied edge
  have layout := c.layout_syncCycle edge
  have rx (c : Controller SimBoard) : (c.syncCycle edge).board.rx = c.board.rx :=
    congrArg Simulation.Backlog.inbound (c.backlog_syncCycle edge)
  have data (c : Controller SimBoard) : (c.syncCycle edge).data = (c.readied edge).data := rfl
  refine ⟨⟨veil, ?_, ?_, ?_, ?_⟩, hooks⟩
  · rw [layout]
    exact h.layout
  · rw [rx c, rx c']
    exact h.wire
  · rw [data c, data c']
    exact taken
  · rw [layout, data c, data c']
    exact behind

/-- A pass on twins that observe nothing. -/
theorem rest (h : Twins alike n hidden c c') (unseen : c.edge? = none) (unseen' : c'.edge? = none)
    (veil : c.poll.2.veil hidden = c'.poll.2.veil hidden) :
    Twins alike n hidden c.poll.2 c'.poll.2 := by
  obtain ⟨data, rx⟩ := rest_poll unseen
  obtain ⟨data', rx'⟩ := rest_poll unseen'
  refine ⟨veil, ?_, ?_, ?_, ?_⟩
  · rw [data]
    exact h.layout
  · rw [rx, rx']
    exact h.wire
  · rw [data, data']
    exact h.taken
  · rw [data, data']
    exact h.behind

/-- **A pass on twins.** -/
theorem poll (h : Twins alike n hidden c c') (enough : Enough alike n hidden c.data.layout) :
    Twins alike n hidden c.poll.2 c'.poll.2 ∧ c.poll.1 = c'.poll.1 ∧
      c.passHooks = c'.passHooks := by
  have timing : c.board.timing = c'.board.timing := by
    have erased := congrArg (fun c : Controller SimBoard => c.board.timing) h.veil
    exact erased
  have edges : c.board.edges = c'.board.edges := by
    have erased := congrArg (fun c : Controller SimBoard => c.board.edges) h.veil
    exact erased
  by_cases alive : c.board.Alive
  · have alive' : c'.board.Alive := by
      show c'.board.timing.Alive
      rw [← timing]
      exact alive
    cases queue : c.board.edges with
    | nil =>
        have queue' : c'.board.edges = [] := edges.symm.trans queue
        have unseen := (edge?_of_alive alive).trans (congrArg List.head? queue)
        have unseen' := (edge?_of_alive alive').trans (congrArg List.head? queue')
        rw [passHooks_of_unsynced unseen, passHooks_of_unsynced unseen']
        refine ⟨h.rest unseen unseen' ?_, ?_, rfl⟩
        · rw [poll_of_empty alive queue, poll_of_empty alive' queue']
          exact (veil_waits hidden c).trans ((congrArg waits h.veil).trans (veil_waits hidden c').symm)
        · rw [poll_of_empty alive queue, poll_of_empty alive' queue']
    | cons edge rest =>
        have queue' : c'.board.edges = edge :: rest := edges.symm.trans queue
        have taken : Twins alike n hidden { c with board := { c.board with edges := rest } }
            { c' with board := { c'.board with edges := rest } } := by
          refine ⟨?_, h.layout, h.wire, h.taken, h.behind⟩
          have carried := congrArg (fun c : Controller SimBoard =>
            { c with board := { c.board with edges := rest } }) h.veil
          exact carried
        obtain ⟨twins, hooks⟩ := taken.syncCycle enough edge
        rw [poll_of_edge alive queue, poll_of_edge alive' queue', passHooks_of_edge alive queue,
          passHooks_of_edge alive' queue']
        dsimp only
        refine ⟨twins, ?_, hooks⟩
        exact congrArg₂ (fun before after : Machine =>
            Except.ok (Outcome.synced ⟨before.state, after.state⟩))
          (machine_of_veil h.veil) (machine_of_veil twins.veil)
  · have spent' : ¬c'.board.Alive := by
      show ¬c'.board.timing.Alive
      rw [← timing]
      exact alive
    have unseen := edge?_of_spent alive
    have unseen' := edge?_of_spent spent'
    rw [passHooks_of_unsynced unseen, passHooks_of_unsynced unseen']
    refine ⟨h.rest unseen unseen' ?_, ?_, rfl⟩
    · rw [poll_of_spent alive, poll_of_spent spent']
      exact (veil_lapses hidden c).trans ((congrArg lapses h.veil).trans (veil_lapses hidden c').symm)
    · rw [poll_of_spent alive, poll_of_spent spent']
      have expiry := congrArg (fun c : Controller SimBoard =>
        (⟨c.machine.state, c.statistics.cycleCount⟩ : Expiry)) h.veil
      exact congrArg Except.error expiry

end Controller.Twins

/-! ### Moves -/

namespace Simulation

/-- Whether an action is one of the master, and not of the world around the board. -/
def Action.ofMaster : Action → Bool
  | .command _ | .freeze _ | .setInbound .. | .step => true
  | _ => false

/-- What the world does to a board has nothing to do with the inbound record or the current. -/
theorem Rig.veil_act (hidden : Bool) (b : SimBoard) (m m' : Master) {action : Action}
    (outside : action.ofMaster = false) :
    (Rig.act ⟨b, m⟩ action).board.veil hidden = (Rig.act ⟨b.veil hidden, m'⟩ action).board ∧
      (Rig.act ⟨b, m⟩ action).board.rx = b.rx ∧ (Rig.act ⟨b, m⟩ action).master = m := by
  cases action with
  | command | freeze | setInbound | step => nomatch outside
  | advance nanos =>
      exact ⟨b.veil_advance hidden nanos, congrArg Backlog.inbound (b.backlog_advance nanos), rfl⟩
  | _ => exact ⟨rfl, rfl, rfl⟩

/-- Two rigs that differ in nothing but what their masters write, up to a current that may be
hidden. -/
structure Rig.Twins (alike : UInt8 → UInt8 → Prop) (n : Nat) (hidden : Bool) (rig rig' : Rig) :
    Prop where
  veil : rig.board.veil hidden = rig'.board.veil hidden
  wire : rig.board.rx.Agrees alike n rig'.board.rx
  master : rig.master.Twins alike n rig'.master

/-- A value that only one of two masters writes: it has its place in the record, and nothing in
front of an offset is written but the header, which every step of the master writes again. -/
structure Aside (n : Nat) (f : Field) (t : ValueType) : Prop where
  inside : f.stop ≤ recordCapacity
  wide : t.width ≤ f.width
  behind : n ≤ max Inbound.headerEnd f.offset

theorem Aside.act {f : Field} {t : ValueType} (aside : Aside n f t) (rig : Rig) (value : Int) :
    rig.act (.setInbound f t value) =
    { rig with master.rx := rig.master.rx.put f.offset (t.encode value) } := by
  rw [Rig.act, rig.master.rx.write?_of_inside aside.inside aside.wide]

theorem Aside.getByte {f : Field} {t : ValueType} (aside : Aside n f t) (value : Int) (r : Record)
    {i : Nat} (above : Inbound.headerEnd ≤ i) (below : i < n) :
    (r.put f.offset (t.encode value)).getByte i = r.getByte i := by
  have before : i < f.offset := by
    have := aside.behind
    omega
  rw [Record.getByte_put, if_neg (Nat.not_le_of_lt before ·.1)]

namespace Rig.Twins

variable {rig rig' : Rig} {f : Field} {t : ValueType}

theorem step (h : rig.Twins alike n hidden rig') :
    (rig.act .step).Twins alike n hidden (rig'.act .step) := by
  have prepared := h.master.prepared
  have stepped (rig : Rig) : (rig.act .step).board.veil hidden =
      ((rig.board.veil hidden).advance rig.master.period).pushEdge := by
    show (SimBoard.pushEdge (SimBoard.advance _ _)).veil hidden = _
    rw [SimBoard.veil_pushEdge, SimBoard.veil_advance]
    rfl
  refine ⟨?_, ?_, ?_⟩
  · rw [stepped, stepped, h.veil, h.master.period]
  · rw [rig.inbound_step, rig'.inbound_step]
    exact prepared
  · have master (rig : Rig) : (rig.act .step).master =
        { rig.master.prepared with cycles := rig.master.cycles + 1 } := rfl
    rw [master, master]
    exact ⟨h.master.period, h.master.command, h.master.counter_prepared, h.master.frozen,
      fun i above below => prepared.rest i (Nat.le_trans (by decide) above) below⟩

/-- Two rigs to which the same happens. -/
theorem act (h : rig.Twins alike n hidden rig') (reflexive : ∀ raw, alike raw raw)
    (action : Action) : (rig.act action).Twins alike n hidden (rig'.act action) := by
  cases ours : action.ofMaster with
  | false =>
      obtain ⟨veil, rx, master⟩ := Rig.veil_act hidden rig.board rig.master rig'.master ours
      obtain ⟨veil', rx', master'⟩ := Rig.veil_act hidden rig'.board rig'.master rig'.master ours
      refine ⟨veil.trans (by rw [h.veil, veil']), ?_, ?_⟩
      · rw [rx, rx']
        exact h.wire
      · rw [master, master']
        exact h.master
  | true =>
      cases action with
      | command raw =>
          exact ⟨h.veil, h.wire, { h.master with command := reflexive raw }⟩
      | freeze on => exact ⟨h.veil, h.wire, { h.master with frozen := rfl }⟩
      | step => exact h.step
      | setInbound f t value =>
          by_cases broken : recordCapacity < f.stop ∨ f.width < t.width
          · have refused (r : Record) : r.write? f t value = .error .sliceBounds := if_pos broken
            simp only [Rig.act, refused]
            exact ⟨congrArg (Journal.trap .sliceBounds) h.veil, h.wire, h.master⟩
          · have written (r : Record) :
                r.write? f t value = .ok (r.put f.offset (t.encode value)) := if_neg broken
            simp only [Rig.act, written]
            have values (i : Nat) (above : Inbound.headerEnd ≤ i) (below : i < n) :
                (rig.master.rx.put f.offset (t.encode value)).getByte i =
                  (rig'.master.rx.put f.offset (t.encode value)).getByte i :=
              Record.getByte_put_congr _ _ fun _ => h.master.values i above below
            exact ⟨h.veil, h.wire, { h.master with values }⟩
      | _ => cases ours

theorem command (h : rig.Twins alike n hidden rig') {raw raw' : UInt8} (same : alike raw raw') :
    (rig.act (.command raw)).Twins alike n hidden (rig'.act (.command raw')) :=
  ⟨h.veil, h.wire, { h.master with command := same }⟩

theorem left (h : rig.Twins alike n hidden rig') (aside : Aside n f t) (value : Int) :
    (rig.act (.setInbound f t value)).Twins alike n hidden rig' := by
  rw [aside.act]
  refine ⟨h.veil, h.wire, { h.master with values := fun i above below => ?_ }⟩
  exact (aside.getByte value _ above below).trans (h.master.values i above below)

theorem right (h : rig.Twins alike n hidden rig') (aside : Aside n f t) (value : Int) :
    rig.Twins alike n hidden (rig'.act (.setInbound f t value)) := by
  rw [aside.act]
  refine ⟨h.veil, h.wire, { h.master with values := fun i above below => ?_ }⟩
  exact (h.master.values i above below).trans (aside.getByte value _ above below).symm

end Rig.Twins

/-! ### Runs -/

/-- Two runs that are move for move the same, but for commands that are alike and for values that
only one of the masters writes, aside. -/
inductive Shadows (alike : UInt8 → UInt8 → Prop) (n : Nat) : List Move → List Move → Prop
  | done : Shadows alike n [] []
  | same (move : Move) {run run' : List Move} (rest : Shadows alike n run run') :
      Shadows alike n (move :: run) (move :: run')
  | command {raw raw' : UInt8} (orders : alike raw raw') {run run' : List Move}
      (rest : Shadows alike n run run') :
      Shadows alike n (.act (.command raw) :: run) (.act (.command raw') :: run')
  | left {f : Field} {t : ValueType} (aside : Aside n f t) (value : Int) {run run' : List Move}
      (rest : Shadows alike n run run') :
      Shadows alike n (.act (.setInbound f t value) :: run) run'
  | right {f : Field} {t : ValueType} (aside : Aside n f t) (value : Int) {run run' : List Move}
      (rest : Shadows alike n run run') :
      Shadows alike n run (.act (.setInbound f t value) :: run')

namespace Station

/-- Two stations that differ in nothing but what their masters write. -/
structure Twins (alike : UInt8 → UInt8 → Prop) (n : Nat) (hidden : Bool) (s s' : Station) :
    Prop where
  controller : s.controller.Twins alike n hidden s'.controller
  master : s.master.Twins alike n s'.master

namespace Twins

variable {s s' : Station}

theorem refl (reflexive : ∀ raw, alike raw raw) (layout : s.controller.data.layout.Valid) :
    s.Twins alike n hidden s :=
  ⟨⟨rfl, layout, ⟨reflexive _, fun _ _ _ => rfl⟩, ⟨reflexive _, fun _ _ _ => rfl⟩,
    fun _ _ => rfl⟩, ⟨rfl, reflexive _, rfl, rfl, fun _ _ _ => rfl⟩⟩

theorem rigs (h : s.Twins alike n hidden s') :
    Rig.Twins alike n hidden ⟨s.board, s.master⟩ ⟨s'.board, s'.master⟩ :=
  ⟨congrArg Controller.board h.controller.veil, h.controller.wire, h.master⟩

/-- Twins on other rigs. -/
theorem onRigs (h : s.Twins alike n hidden s') {rig rig' : Rig}
    (rigs : rig.Twins alike n hidden rig') :
    Twins alike n hidden ⟨{ s.controller with board := rig.board }, rig.master⟩
      ⟨{ s'.controller with board := rig'.board }, rig'.master⟩ := by
  obtain ⟨⟨veil, layout, -, taken, behind⟩, -⟩ := h
  refine ⟨⟨?_, layout, rigs.wire, taken, behind⟩, rigs.master⟩
  have left : ({ s.controller with board := rig.board } : Controller SimBoard).veil hidden =
      { s.controller.veil hidden with board := rig.board.veil hidden } := rfl
  rw [left, veil, rigs.veil]
  rfl

/-- **Along two such runs each pass of the one is like the pass of the other.** -/
theorem gather {α : Type} {yield : Controller SimBoard → Option α} {layout : Layout}
    (enough : Enough alike n hidden layout)
    (agree : ∀ c c', Controller.Twins alike n hidden c c' → c.data.layout = layout →
      yield c = yield c')
    (h : s.Twins alike n hidden s') (kept : s.controller.data.layout = layout)
    {run run' : List Move} (shadows : Shadows alike n run run') :
    s.gather yield run = s'.gather yield run' := by
  induction shadows generalizing s s' with
  | done => rfl
  | same move rest ih =>
      cases move with
      | act action => exact ih (h.onRigs (h.rigs.act enough.reflexive action)) kept
      | poll =>
          rw [← kept] at enough
          obtain ⟨twins, -, -⟩ := h.controller.poll enough
          have behind : Twins alike n hidden s.poll.2 s'.poll.2 := ⟨twins, h.master⟩
          have later := ih behind (s.controller.poll_pass.layout.trans kept)
          rw [Station.gather, Station.gather, later, agree _ _ h.controller kept]
  | command orders rest ih => exact ih (h.onRigs (h.rigs.command orders)) kept
  | left aside value rest ih => exact ih (h.onRigs (h.rigs.left aside value)) kept
  | right aside value rest ih => exact ih (h.onRigs (h.rigs.right aside value)) kept

end Twins
end Station
end Simulation
end FieldbusNode
