/-
Fields of process data read over writes.

Fields that are laid out one behind another tile the record: in their order they cover
every byte up to their total width once (`Field.places_chain`).  Bytes and values of a
type are in bijection (`ValueType.decode?_encode`, `ValueType.exists_decode?`), so a
field as wide as the type holds every value, and what it holds is some value.

Both directions are accessed alike, but the outbound check guards the write and the
inbound one the read.  `ProcessData.get?` and `set?` are the two accessors of a
`Direction`, and what holds of them is proved once.

Between the node and its master a record is copied by its beginning.  A field that ends
within the layout is copied whole, and the header, which each step of the master writes
again, lies in front of every other inbound field.
-/
import FieldbusNode.Proofs.Readback
import FieldbusNode.Proofs.Twins
import Mathlib.Algebra.Ring.Nat
namespace FieldbusNode

open Simulation (SimBoard Rig Action Master)

/-! ### Fields one behind another -/

namespace Field

/-- The indices of the bytes of a field. -/
def places (f : Field) : List Nat := List.range' f.offset f.width

theorem go_cons (offset width : Nat) (widths : List Nat) :
    chain.go offset (width :: widths) = widths.scanl followedBy ⟨offset, width⟩ := by
  induction widths generalizing offset width with
  | nil => rfl
  | cons next rest ih =>
      rw [List.scanl_cons]
      exact congrArg (_ :: ·) (ih (offset + width) next)

/-- A chain is laid out with `first` and `followedBy`. -/
theorem chain_cons (width : Nat) (widths : List Nat) :
    chain (width :: widths) = widths.scanl followedBy (first width) :=
  go_cons 0 width widths

theorem places_go (offset : Nat) (widths : List Nat) :
    (chain.go offset widths).flatMap places = List.range' offset widths.sum := by
  induction widths generalizing offset with
  | nil => rfl
  | cons width rest ih =>
      show List.range' offset width ++ (chain.go (offset + width) rest).flatMap places = _
      rw [ih, List.sum_cons, List.range'_append_1]

/-- **The fields of a chain cover the bytes up to their total width, in order and once.** -/
theorem places_chain (widths : List Nat) :
    (chain widths).flatMap places = List.range widths.sum :=
  (places_go 0 widths).trans List.range_eq_range'.symm

theorem bounds_go {offset : Nat} {widths : List Nat} {f : Field}
    (mem : f ∈ chain.go offset widths) : offset ≤ f.offset ∧ f.stop ≤ offset + widths.sum := by
  induction widths generalizing offset with
  | nil => nomatch mem
  | cons width rest ih =>
      rw [List.sum_cons]
      rcases List.mem_cons.mp mem with rfl | mem
      · exact ⟨Nat.le_refl _, by simp [stop]⟩
      · obtain ⟨behind, inside⟩ := ih mem
        omega

theorem stop_le_of_mem_chain {widths : List Nat} {f : Field} (mem : f ∈ chain widths) :
    f.stop ≤ widths.sum := by
  have inside := (bounds_go mem).2
  rwa [Nat.zero_add] at inside

theorem apart_go (offset : Nat) (widths : List Nat) :
    (chain.go offset widths).Pairwise Apart := by
  induction widths generalizing offset with
  | nil => exact .nil
  | cons width rest ih =>
      exact .cons (fun f mem => .inl (bounds_go mem).1) (ih (offset + width))

theorem Apart.symm {f g : Field} (h : f.Apart g) : g.Apart f := Or.symm h

/-- Two fields of a chain share no byte. -/
theorem apart_of_chain {widths : List Nat} {i j : Nat} {f g : Field} (other : i ≠ j)
    (first : (chain widths)[i]? = some f) (second : (chain widths)[j]? = some g) : f.Apart g := by
  obtain ⟨ibound, rfl⟩ := List.getElem?_eq_some_iff.mp first
  obtain ⟨jbound, rfl⟩ := List.getElem?_eq_some_iff.mp second
  have ordered := List.pairwise_iff_getElem.mp (apart_go 0 widths)
  rcases Nat.lt_or_gt_of_ne other with before | behind
  · exact ordered i j ibound jbound before
  · exact (ordered j i jbound ibound behind).symm

end Field

/-! ### Values and their bytes -/

/-- Bytes as many as a type has are those of some value of the type. -/
theorem ValueType.exists_decode? (t : ValueType) {bytes : List UInt8}
    (whole : bytes.length = t.width) :
    ∃ value, t.decode? bytes = some value ∧ t.Holds value ∧ t.encode value = bytes := by
  have small : Bytes.toNat bytes < t.modulus := by
    have bound := Bytes.toNat_lt bytes
    rwa [whole] at bound
  have even : (t.modulus : Int) = 2 * (t.modulus / 2 : Int) := by cases t <;> decide
  have back : Bytes.ofNat t.width (Bytes.toNat bytes) = bytes := by
    rw [← whole]
    exact Bytes.ofNat_toNat bytes
  have taken : bytes.take t.width = bytes := List.take_of_length_le (Nat.le_of_eq whole)
  unfold decode?
  rw [if_neg (by omega), taken]
  dsimp only
  by_cases negative : t.signed = true ∧ t.modulus ≤ 2 * Bytes.toNat bytes
  · refine ⟨_, if_pos negative, ?_, ?_⟩
    · rw [Holds, if_pos negative.1]
      omega
    · have wrapped : ((Bytes.toNat bytes : Int) - t.modulus) % t.modulus = Bytes.toNat bytes := by
        rw [Int.sub_emod_right, Int.emod_eq_of_lt (by omega) (by omega)]
      rw [encode, wrapped, Int.toNat_natCast, back]
  · refine ⟨_, if_neg negative, ?_, ?_⟩
    · unfold Holds
      split
      · rename_i signed
        have low : ¬t.modulus ≤ 2 * Bytes.toNat bytes := fun high => negative ⟨signed, high⟩
        omega
      · omega
    · rw [encode, Int.emod_eq_of_lt (by omega) (by omega), Int.toNat_natCast, back]

/-! ### Fields of a record -/

namespace Record

variable (r : Record) {f g : Field} {t : ValueType} {value : Int}

/-- Writing back the bytes that are there changes nothing. -/
theorem put_slice (offset width : Nat) : r.put offset (r.slice offset width) = r := by
  apply eq_of_getByte
  intro i
  rw [getByte_put]
  split
  · rename_i here
    by_cases within : i - offset < width
    · simp [slice, within, Nat.add_sub_cancel' here.1]
    · rw [List.getElem?_eq_none (by rw [length_slice]; omega)]
      rfl
  · rfl

theorem read?_congr {r r' : Record}
    (same : r.slice f.offset f.width = r'.slice f.offset f.width) (t : ValueType) :
    r.read? f t = r'.read? f t := by
  unfold read?
  rw [same]

/-- **What was written into a field of its width is read.** -/
theorem read?_put (inside : f.stop ≤ recordCapacity) (wide : t.width = f.width)
    (holds : t.Holds value) : (r.put f.offset (t.encode value)).read? f t = .ok value := by
  have written := r.slice_put f.offset (t.encode value)
    (by rw [ValueType.length_encode, wide]; exact inside)
  rw [ValueType.length_encode, wide] at written
  have decoded := t.decode?_encode value holds []
  rw [List.append_nil] at decoded
  rw [read?, if_neg (Nat.not_lt.mpr inside), written, decoded]

/-- **A field is a value of a type of its width, and to write it changes nothing.** -/
theorem exists_read? (inside : f.stop ≤ recordCapacity) (wide : t.width = f.width) :
    ∃ value, t.Holds value ∧ r.read? f t = .ok value ∧
      r.put f.offset (t.encode value) = r := by
  obtain ⟨value, decoded, holds, encoded⟩ :=
    t.exists_decode? ((r.length_slice f.offset f.width).trans wide.symm)
  refine ⟨value, holds, ?_, ?_⟩
  · rw [read?, if_neg (Nat.not_lt.mpr inside), decoded]
  · rw [encoded]
    exact r.put_slice f.offset f.width

theorem slice_put_of_apart (apart : f.Apart g) (narrow : t.width ≤ f.width) (value : Int) :
    (r.put f.offset (t.encode value)).slice g.offset g.width = r.slice g.offset g.width := by
  refine r.slice_put_of_disjoint _ _ _ _ ?_
  rw [ValueType.length_encode]
  rcases apart with before | behind
  · exact .inr (Nat.le_trans (Nat.add_le_add_left narrow _) before)
  · exact .inl behind

theorem getByte_put_of_outside (narrow : t.width ≤ f.width) (value : Int) {i : Nat}
    (outside : i < f.offset ∨ f.stop ≤ i) :
    (r.put f.offset (t.encode value)).getByte i = r.getByte i := by
  rw [getByte_put]
  split
  · have none : (t.encode value)[i - f.offset]? = none := by
      apply List.getElem?_eq_none
      rw [ValueType.length_encode]
      have stop : f.stop = f.offset + f.width := rfl
      omega
    rw [none]
    rfl
  · rfl

end Record

/-! ### Both directions -/

/-- A direction of the process data. -/
inductive Direction
  | inbound
  | outbound

/-- How many bytes of a direction are exchanged. -/
def Direction.size (l : Layout) : Direction → Nat
  | .inbound => l.rxSize
  | .outbound => l.txSize

/-- A value of a type, and the field it is for. -/
structure Assignment where
  field : Field
  type : ValueType
  value : Int

/-- The field of an assignment ends within a size, and is wide enough. -/
structure Assignment.Fits (size : Nat) (a : Assignment) : Prop where
  inside : a.field.stop ≤ size
  narrow : a.type.width ≤ a.field.width

namespace ProcessData

def record (p : ProcessData) : Direction → Record
  | .inbound => p.inbound
  | .outbound => p.outbound

def withRecord (p : ProcessData) (d : Direction) (r : Record) : ProcessData :=
  match d with
  | .inbound => { p with inbound := r }
  | .outbound => { p with outbound := r }

/-- Reads a field. -/
def get? (p : ProcessData) : Direction → Field → ValueType → Except Trap Int
  | .inbound => p.readInbound?
  | .outbound => p.readOutbound?

/-- Writes a field. -/
def set? (p : ProcessData) : Direction → Field → ValueType → Int → Except Trap ProcessData
  | .inbound => p.loadInbound?
  | .outbound => p.writeOutbound?

/-- Makes assignments one after another. -/
def setAll? (p : ProcessData) (d : Direction) (assignments : List Assignment) :
    Except Trap ProcessData :=
  assignments.foldlM (fun p a => p.set? d a.field a.type a.value) p

/-- In the second nothing has changed but bytes of a field. -/
structure Beside (d : Direction) (f : Field) (p p' : ProcessData) : Prop where
  other : p' = p.withRecord d (p'.record d)
  bytes : ∀ i, i < f.offset ∨ f.stop ≤ i → (p'.record d).getByte i = (p.record d).getByte i

variable (p : ProcessData) (d : Direction) {f g : Field} {t : ValueType} {value : Int}

@[simp] theorem record_withRecord (r : Record) : (p.withRecord d r).record d = r := by
  cases d <;> rfl

@[simp] theorem layout_withRecord (r : Record) : (p.withRecord d r).layout = p.layout := by
  cases d <;> rfl

@[simp] theorem withRecord_record : p.withRecord d (p.record d) = p := by
  cases d <;> rfl

theorem valid_of_accepted {p : ProcessData} (accepted : (ofLayout? p.layout).isSome) :
    p.layout.Valid := by
  by_contra broken
  rw [ofLayout?, if_neg broken] at accepted
  nomatch accepted

theorem size_le {p : ProcessData} (valid : p.layout.Valid) (d : Direction) :
    d.size p.layout ≤ recordCapacity := by
  obtain ⟨-, -, rx, tx⟩ := valid
  cases d
  · exact rx
  · exact tx

/-! ### One write -/

section Checks

variable {p d} (valid : p.layout.Valid) (inside : f.stop ≤ d.size p.layout)
include valid inside

theorem within_capacity : f.stop ≤ recordCapacity :=
  Nat.le_trans inside (size_le valid d)

omit valid in
theorem get?_of_inside (t : ValueType) : p.get? d f t = (p.record d).read? f t := by
  cases d with
  | inbound => exact if_neg (Nat.not_lt.mpr inside)
  | outbound => rfl

/-- A write within the layout succeeds. -/
theorem set?_of_inside (narrow : t.width ≤ f.width) (value : Int) : p.set? d f t value =
    .ok (p.withRecord d ((p.record d).put f.offset (t.encode value))) := by
  have written := (p.record d).write?_of_inside (within_capacity valid inside) narrow value
  cases d with
  | inbound =>
      show (p.inbound.write? f t value >>= _) = _
      rw [show p.inbound.write? f t value = _ from written]
      rfl
  | outbound =>
      have inside : f.stop ≤ p.layout.txSize := inside
      show p.writeOutbound? f t value = _
      rw [writeOutbound?, if_neg (Nat.not_lt.mpr inside),
        show p.outbound.write? f t value = _ from written]
      rfl

/-- **A value that was written is read, and nothing else has changed.** -/
theorem exists_set? (wide : t.width = f.width) (holds : t.Holds value) :
    ∃ p', p.set? d f t value = .ok p' ∧ p'.get? d f t = .ok value ∧ Beside d f p p' := by
  have narrow := Nat.le_of_eq wide
  refine ⟨_, set?_of_inside valid inside narrow value, ?_, ?_, ?_⟩
  · rw [get?_of_inside (by rwa [layout_withRecord]), record_withRecord]
    exact (p.record d).read?_put (within_capacity valid inside) wide holds
  · rw [record_withRecord]
  · intro i outside
    rw [record_withRecord]
    exact (p.record d).getByte_put_of_outside narrow value outside

/-- **Writing back what was read changes nothing.** -/
theorem exists_get? (wide : t.width = f.width) :
    ∃ value, t.Holds value ∧ p.get? d f t = .ok value ∧ p.set? d f t value = .ok p := by
  obtain ⟨value, holds, read, same⟩ :=
    (p.record d).exists_read? (within_capacity valid inside) wide
  refine ⟨value, holds, (get?_of_inside inside t).trans read, ?_⟩
  rw [set?_of_inside valid inside (Nat.le_of_eq wide), same, withRecord_record]

end Checks

/-- A field that shares no byte with the one that was written is read as before. -/
theorem Beside.get?_of_apart {p p' : ProcessData} {d : Direction} (beside : Beside d f p p')
    (apart : f.Apart g) (t : ValueType) : p'.get? d g t = p.get? d g t := by
  have same : (p'.record d).slice g.offset g.width = (p.record d).slice g.offset g.width := by
    apply Record.slice_congr
    intro i above below
    have stop : g.stop = g.offset + g.width := rfl
    rcases apart with before | behind
    · exact beside.bytes i (.inr (Nat.le_trans before above))
    · exact beside.bytes i (.inl (by omega))
  have layout : p'.layout = p.layout := by
    rw [beside.other, layout_withRecord]
  have read := Record.read?_congr same t
  cases d with
  | inbound =>
      show p'.readInbound? g t = p.readInbound? g t
      rw [readInbound?, readInbound?, layout]
      exact congrArg (ite _ _) read
  | outbound => exact read

/-! ### Many writes -/

theorem setAll?_cons {p q : ProcessData} {d : Direction} {a : Assignment}
    (written : p.set? d a.field a.type a.value = .ok q) (rest : List Assignment) :
    p.setAll? d (a :: rest) = q.setAll? d rest := by
  rw [setAll?, List.foldlM_cons, written]
  rfl

/-- Writes within the layout succeed, and leave the fields beside them. -/
theorem exists_setAll? {p : ProcessData} (valid : p.layout.Valid) {d : Direction}
    {assignments : List Assignment} (fits : ∀ a ∈ assignments, a.Fits (d.size p.layout))
    (apart : ∀ a ∈ assignments, a.field.Apart f) :
    ∃ p', p.setAll? d assignments = .ok p' ∧ p'.layout = p.layout ∧
      (p'.record d).slice f.offset f.width = (p.record d).slice f.offset f.width := by
  induction assignments generalizing p with
  | nil => exact ⟨p, rfl, rfl, rfl⟩
  | cons a rest ih =>
      obtain ⟨⟨inside, narrow⟩, others⟩ := List.forall_mem_cons.mp fits
      obtain ⟨beside, behind⟩ := List.forall_mem_cons.mp apart
      have written := set?_of_inside valid inside narrow a.value
      have layout := p.layout_withRecord d ((p.record d).put a.field.offset (a.type.encode a.value))
      obtain ⟨p', set, kept, same⟩ := ih (layout ▸ valid) (layout ▸ others) behind
      refine ⟨p', (setAll?_cons written rest).trans set, kept.trans layout, same.trans ?_⟩
      rw [record_withRecord]
      exact (p.record d).slice_put_of_apart beside narrow a.value

/-- **The last value that was written into a field is the one that is read.** -/
theorem read?_setAll? {p : ProcessData} (valid : p.layout.Valid) {d : Direction}
    (inside : f.stop ≤ d.size p.layout) (wide : t.width = f.width) (holds : t.Holds value)
    {others : List Assignment} (fits : ∀ a ∈ others, a.Fits (d.size p.layout))
    (apart : ∀ a ∈ others, a.field.Apart f) :
    ∃ p', p.setAll? d (⟨f, t, value⟩ :: others) = .ok p' ∧ p'.layout = p.layout ∧
      (p'.record d).read? f t = .ok value := by
  have written := set?_of_inside valid inside (Nat.le_of_eq wide) value
  have layout := p.layout_withRecord d ((p.record d).put f.offset (t.encode value))
  obtain ⟨p', set, kept, same⟩ := exists_setAll? (layout ▸ valid) (layout ▸ fits) apart
  have read := (p.record d).read?_put (within_capacity valid inside) wide holds
  rw [record_withRecord] at same
  exact ⟨p', (setAll?_cons (a := ⟨f, t, value⟩) written others).trans set, kept.trans layout,
    (Record.read?_congr same t).trans read⟩

/-! ### Across the wire -/

/-- The master reads a field of the published record as the node does. -/
theorem read?_send {p : ProcessData} (valid : p.layout.Valid) (inside : f.stop ≤ p.layout.txSize)
    (t : ValueType) (b : SimBoard) :
    (Board.send p.wireBytes b).tx.read? f t = p.outbound.read? f t :=
  Record.read?_congr (b.tx.slice_put_leading p.outbound inside valid.2.2.2) t

/-- The node reads a field of the record that it has taken over as it is on the board. -/
theorem readInbound?_ingest {p : ProcessData} (valid : p.layout.Valid)
    (inside : f.stop ≤ p.layout.rxSize) (t : ValueType) (b : SimBoard) :
    (p.ingest (Board.receive p.layout.rxSize b).1).readInbound? f t = b.rx.read? f t := by
  have fits : p.layout.rxSize ≤ recordCapacity := valid.2.2.1
  refine (if_neg (Nat.not_lt.mpr inside)).trans ?_
  rw [p.inbound_ingest fits]
  exact Record.read?_congr (p.inbound.slice_put_leading b.rx inside fits) t

end ProcessData

namespace Simulation

/-- A step of the master writes its header and nothing behind it. -/
theorem Master.slice_prepared (m : Master) {offset width : Nat}
    (behind : Inbound.headerEnd ≤ offset) :
    m.prepared.rx.slice offset width = m.rx.slice offset width := by
  apply Record.slice_congr
  intro i above _
  have counter : Inbound.headerEnd ≤ i := Nat.le_trans behind above
  have command : Inbound.command.offset ≠ i :=
    Nat.ne_of_lt (Nat.lt_of_lt_of_le (by decide) counter)
  have kept : (m.rx.setByte Inbound.command.offset m.command).getByte i = m.rx.getByte i := by
    rw [Record.getByte_setByte, if_neg (command ·.1)]
  have none : (Bytes.ofNat Inbound.masterCounter.width m.prepared.counter.toNat)[
      i - Inbound.masterCounter.offset]? = none := by
    apply List.getElem?_eq_none
    rw [Bytes.length_ofNat]
    exact Nat.le_sub_of_add_le' counter
  show ((m.rx.setByte _ _).put _ (Bytes.ofNat _ m.prepared.counter.toNat)).getByte i = _
  rw [Record.getByte_put, none]
  exact (ite_self _).trans kept

namespace Rig

variable {f : Field} {t : ValueType} {value : Int}

theorem setInbound_of_inside (rig : Rig) (inside : f.stop ≤ recordCapacity)
    (narrow : t.width ≤ f.width) (value : Int) : rig.act (.setInbound f t value) =
      { rig with master.rx := rig.master.rx.put f.offset (t.encode value) } := by
  rw [act, rig.master.rx.write?_of_inside inside narrow]

/-- The actions write no value into bytes of a field. -/
def Spares (f : Field) (actions : List Action) : Prop :=
  ∀ g t value, .setInbound g t value ∈ actions → g.Apart f

/-- What the master will send in a field is changed by nothing but values written into it. -/
theorem slice_act (rig : Rig) (behind : Inbound.headerEnd ≤ f.offset) {action : Action}
    (apart : ∀ g t value, action = .setInbound g t value → g.Apart f) :
    (rig.act action).master.rx.slice f.offset f.width =
      rig.master.rx.slice f.offset f.width := by
  cases action with
  | step => exact rig.master.slice_prepared behind
  | setInbound g t value =>
      by_cases broken : recordCapacity < g.stop ∨ g.width < t.width
      · have refused : rig.master.rx.write? g t value = .error .sliceBounds := if_pos broken
        rw [act, refused]
      · obtain ⟨inside, narrow⟩ := not_or.mp broken
        rw [rig.setInbound_of_inside (Nat.not_lt.mp inside) (Nat.not_lt.mp narrow)]
        exact rig.master.rx.slice_put_of_apart (apart g t value rfl) (Nat.not_lt.mp narrow) value
  | _ => rfl

theorem slice_run (rig : Rig) (behind : Inbound.headerEnd ≤ f.offset) {actions : List Action}
    (spares : Spares f actions) :
    (rig.run actions).master.rx.slice f.offset f.width = rig.master.rx.slice f.offset f.width := by
  induction actions generalizing rig with
  | nil => rfl
  | cons action rest ih =>
      have later := ih (rig.act action) fun g t value mem => spares g t value (.tail _ mem)
      exact later.trans (rig.slice_act behind fun g t value same =>
        spares g t value (same ▸ .head _))

/-- **A value that the master was given for a field is on the board after its next step.** -/
theorem read?_step (rig : Rig) (behind : Inbound.headerEnd ≤ f.offset)
    (inside : f.stop ≤ recordCapacity) (wide : t.width = f.width) (holds : t.Holds value)
    {others : List Action} (spares : Spares f others) :
    (((rig.act (.setInbound f t value)).run others).act .step).board.rx.read? f t =
      .ok value := by
  have set := rig.setInbound_of_inside inside (Nat.le_of_eq wide) value
  have kept := (rig.act (.setInbound f t value)).slice_run behind spares
  rw [set] at kept
  rw [inbound_step, Record.read?_congr (Master.slice_prepared _ behind), set,
    Record.read?_congr kept]
  exact rig.master.rx.read?_put inside wide holds

end Rig
end Simulation

open Simulation in
/--
**Fields of process data read over writes, in the records and across the wire.**

The process data have a layout that is accepted; what they hold does not matter.
* Fields that are laid out with `first` and `followedBy`, and whose widths add up to no more than a
  direction has, cover each byte up to there once, and no two of them share one.  A value of a type
  as wide as such a field can be written, and is then read; every other field is read as before, and
  nothing has changed but bytes of the field.  What is read is some value of the type, and to write
  it back changes nothing.
* A value that was written into a field that ends within the layout is read by the master once the
  record is published, whatever was written into other fields since.
* A value that the master was given for a field behind the header is read by the node once the
  master has stepped and the record is taken over, whatever has happened to the master and the board
  in between, if no other value was written across that field.
-/
theorem ProcessData.fields_read_over_write (p : ProcessData)
    (accepted : (ofLayout? p.layout).isSome) :
    (∀ (d : Direction) (width : Nat) (widths : List Nat),
      (width :: widths).sum ≤ d.size p.layout →
        let fields := widths.scanl Field.followedBy (.first width)
        fields.flatMap Field.places = List.range (width :: widths).sum ∧
          (∀ (i j : Nat) (f g : Field), i ≠ j → fields[i]? = some f → fields[j]? = some g → f.Apart g) ∧
          ∀ (k : Nat) (f : Field) (t : ValueType), fields[k]? = some f → t.width = f.width →
            (∀ value, t.Holds value → ∃ p', p.set? d f t value = .ok p' ∧
              p'.get? d f t = .ok value ∧
              (∀ (j : Nat) (g : Field) u, k ≠ j → fields[j]? = some g → p'.get? d g u = p.get? d g u) ∧
              Beside d f p p') ∧
            ∃ value, t.Holds value ∧ p.get? d f t = .ok value ∧ p.set? d f t value = .ok p) ∧
      (∀ (f : Field) (t : ValueType) (value : Int) (others : List Assignment) (b : SimBoard),
        f.stop ≤ p.layout.txSize → t.width = f.width → t.Holds value →
          (∀ a ∈ others, a.Fits p.layout.txSize ∧ a.field.Apart f) →
            ∃ p', p.setAll? .outbound (⟨f, t, value⟩ :: others) = .ok p' ∧
              (Board.send p'.wireBytes b).tx.read? f t = .ok value) ∧
      ∀ (f : Field) (t : ValueType) (value : Int) (others : List Action) (rig : Rig),
        Inbound.headerEnd ≤ f.offset → f.stop ≤ p.layout.rxSize → t.width = f.width →
          t.Holds value → Rig.Spares f others →
            let set := rig.act (.setInbound f t value)
            set.board = rig.board ∧
              (p.ingest (Board.receive p.layout.rxSize
                ((set.run others).act .step).board).1).readInbound? f t = .ok value := by
  have valid := valid_of_accepted accepted
  refine ⟨?_, ?_, ?_⟩
  · intro d width widths fits fields
    have laid : fields = Field.chain (width :: widths) := (Field.chain_cons width widths).symm
    rw [laid]
    refine ⟨Field.places_chain _, fun i j f g other => Field.apart_of_chain other, ?_⟩
    intro k f t place wide
    have inside : f.stop ≤ d.size p.layout :=
      Nat.le_trans (Field.stop_le_of_mem_chain (List.mem_of_getElem? place)) fits
    refine ⟨fun value holds => ?_, exists_get? valid inside wide⟩
    obtain ⟨p', set, read, beside⟩ := exists_set? valid inside wide holds
    refine ⟨p', set, read, fun j g u other found => ?_, beside⟩
    exact beside.get?_of_apart (Field.apart_of_chain other place found) u
  · intro f t value others b inside wide holds apart
    obtain ⟨p', set, layout, read⟩ := read?_setAll? (d := .outbound) valid inside wide holds
      (fun a mem => (apart a mem).1) (fun a mem => (apart a mem).2)
    have sent := read?_send (p := p') (layout ▸ valid) (by rw [layout]; exact inside) t b
    exact ⟨p', set, sent.trans read⟩
  · intro f t value others rig behind inside wide holds spares set
    have within : f.stop ≤ recordCapacity := Nat.le_trans inside valid.2.2.1
    refine ⟨?_, ?_⟩
    · show (rig.act _).board = _
      rw [rig.setInbound_of_inside within (Nat.le_of_eq wide)]
    · rw [readInbound?_ingest valid inside]
      exact rig.read?_step behind within wide holds spares

/-- Seven bytes in and eight out: a current behind the inbound header, a position behind the outbound
one. -/
def pairLayout : Layout := ⟨"pair", 7, 8⟩

/-- A position among five fields, sent after another field was written; and a current that is set
before a step and another value, and is taken over. -/
theorem ProcessData.fields_read_over_write_pair :
    let p := ofLayout pairLayout
    (ofLayout? pairLayout).isSome ∧
      (∃ p', p.set? .outbound ⟨4, 4⟩ .i32 (-70000) = .ok p' ∧
        p'.get? .outbound ⟨4, 4⟩ .i32 = .ok (-70000) ∧
        p'.get? .outbound ⟨3, 1⟩ .u8 = p.get? .outbound ⟨3, 1⟩ .u8) ∧
      (∃ p', p.setAll? .outbound [⟨⟨4, 4⟩, .i32, -70000⟩, ⟨⟨1, 1⟩, .u8, 9⟩] = .ok p' ∧
        (Board.send p'.wireBytes (SimBoard.fresh 8)).tx.read? ⟨4, 4⟩ .i32 = .ok (-70000)) ∧
      (p.ingest (Board.receive 7 (((((Simulation.Rig.mk (.fresh 8) (.ofPeriod 1)).act
        (.setInbound ⟨3, 4⟩ .i32 (-5))).run [.step, .setInbound ⟨7, 1⟩ .u8 3]).act
          .step).board)).1).readInbound? ⟨3, 4⟩ .i32 = .ok (-5) := by
  intro p
  have accepted : (ofLayout? p.layout).isSome := rfl
  obtain ⟨row, sent, taken⟩ := p.fields_read_over_write accepted
  refine ⟨accepted, ?_, ?_, ?_⟩
  · obtain ⟨-, -, access⟩ := row .outbound 1 [1, 1, 1, 4] (by decide)
    obtain ⟨p', set, read, others, -⟩ := (access 4 ⟨4, 4⟩ .i32 rfl rfl).1 (-70000) (by decide)
    exact ⟨p', set, read, others 3 ⟨3, 1⟩ .u8 (by decide) rfl⟩
  · refine sent ⟨4, 4⟩ .i32 (-70000) [⟨⟨1, 1⟩, .u8, 9⟩] _ (by decide) rfl (by decide) ?_
    intro a mem
    obtain rfl := List.mem_singleton.mp mem
    exact ⟨⟨by decide, by decide⟩, by decide⟩
  · refine (taken ⟨3, 4⟩ .i32 (-5) [.step, .setInbound ⟨7, 1⟩ .u8 3] _ (by decide) (by decide) rfl
      (by decide) ?_).2
    intro g t value mem
    simp only [List.mem_cons, reduceCtorEq, Action.setInbound.injEq, List.not_mem_nil, or_false,
      false_or] at mem
    obtain ⟨rfl, -, -⟩ := mem
    decide

end FieldbusNode
