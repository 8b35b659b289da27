/-
What the master reads in a field.

The telemetry of a cycle is a list of numbers, each written into a field of its own.  The fields
of a kind share no byte (`Kind.fields_apart`), so none of these writes disturbs another, and the
header, which is written behind them, lies in front of them all.  What leaves the node is the
record up to the end of the layout, and every field ends there.  So a field that is read from the
published record gives the number that the device wrote (`Controller.getNat_syncCycle`).
-/
import FieldbusNode.Proofs.Header
import FieldbusNode.Proofs.Telemetry
namespace FieldbusNode

open Simulation (SimBoard)

/-- Two fields share no byte. -/
def Field.Apart (f g : Field) : Prop := f.stop ≤ g.offset ∨ g.stop ≤ f.offset

instance (f g : Field) : Decidable (f.Apart g) := inferInstanceAs (Decidable (_ ∨ _))

theorem Kind.fields_apart (kind : Kind) : kind.fields.Pairwise Field.Apart := by
  cases kind <;> decide

namespace Record

variable (r : Record)

/-- A field beside the bytes that are written. -/
theorem getNat_put_of_disjoint {offset : Nat} {bytes : List UInt8} {f : Field}
    (beside : f.stop ≤ offset ∨ offset + bytes.length ≤ f.offset) :
    (r.put offset bytes).getNat f = r.getNat f := by
  rw [getNat, slice_put_of_disjoint r offset bytes f.offset f.width beside, getNat]

theorem getNat_putNat_of_apart {f g : Field} (apart : f.Apart g) (n : Nat) :
    (r.putNat f n).getNat g = r.getNat g := by
  refine r.getNat_put_of_disjoint ?_
  rw [Bytes.length_ofNat]
  exact apart.symm

/-- The master finds a field as it was when its record left the node. -/
theorem getNat_put_wireBytes {p : ProcessData} {f : Field} (inside : f.stop ≤ p.layout.txSize)
    (fits : p.layout.txSize ≤ recordCapacity) :
    (r.put 0 p.wireBytes).getNat f = p.outbound.getNat f := by
  have same : (r.put 0 p.wireBytes).slice f.offset f.width = p.outbound.slice f.offset f.width :=
    r.slice_put_leading p.outbound inside fits
  rw [getNat, same, getNat]

/-! ### Fields of their own -/

variable {values : List (Field × Nat)}

theorem getNat_fill_of_apart {g : Field} (apart : ∀ v ∈ values, v.1.Apart g) :
    (r.fill values).getNat g = r.getNat g := by
  induction values generalizing r with
  | nil => rfl
  | cons v values ih =>
      obtain ⟨first, rest⟩ := List.forall_mem_cons.mp apart
      exact (ih (r.putNat v.1 v.2) rest).trans (r.getNat_putNat_of_apart first v.2)

/-- **A number that was written into a field of its own is read from it.** -/
theorem getNat_fill (apart : (values.map Prod.fst).Pairwise Field.Apart)
    (fits : ∀ f ∈ values.map Prod.fst, f.stop ≤ recordCapacity) {v : Field × Nat}
    (mem : v ∈ values) : (r.fill values).getNat v.1 = v.2 % Bytes.modulus v.1.width := by
  induction values generalizing r with
  | nil => nomatch mem
  | cons first values ih =>
      obtain ⟨behind, apart⟩ := List.pairwise_cons.mp apart
      obtain ⟨inside, fits⟩ := List.forall_mem_cons.mp fits
      rcases List.mem_cons.mp mem with rfl | mem
      · have kept : ((r.putNat v.1 v.2).fill values).getNat v.1 = (r.putNat v.1 v.2).getNat v.1 :=
          getNat_fill_of_apart _ fun w later => (behind w.1 (List.mem_map_of_mem later)).symm
        exact kept.trans (r.getNat_putNat v.1 v.2 inside)
      · exact ih (r.putNat first.1 first.2) apart fits mem

end Record

namespace ProcessData

variable (p : ProcessData)

theorem getNat_writeHeader (id : Identity) (state : State) (counter : UInt8) (flags : Flags)
    {f : Field} (behind : Outbound.headerEnd ≤ f.offset) :
    (p.writeHeader id state counter flags).outbound.getNat f = p.outbound.getNat f :=
  p.outbound.getNat_put_of_disjoint (Or.inr behind)

/-- A field of a kind in a record that a node of that kind has sent under a header. -/
theorem getNat_sent {kind : Kind} (layout : p.layout = kind.layout) {f : Field}
    (mem : f ∈ kind.fields) (r : Record) (id : Identity) (state : State) (counter : UInt8)
    (flags : Flags) :
    (r.put 0 (p.writeHeader id state counter flags).wireBytes).getNat f = p.outbound.getNat f := by
  obtain ⟨behind, inside⟩ := kind.fields_fit mem
  obtain ⟨-, -, -, fits⟩ := kind.layout_valid
  rw [← layout] at inside fits
  have sent := r.getNat_put_wireBytes (p := p.writeHeader id state counter flags) inside fits
  exact sent.trans (p.getNat_writeHeader id state counter flags behind)

end ProcessData

namespace Controller

/-- **After a cycle the master reads in every field what the device has written into it.** -/
theorem getNat_syncCycle {c : Controller SimBoard} {kind : Kind}
    (layout : c.data.layout = kind.layout) (edge : Edge) {f : Field} (mem : f ∈ kind.fields) :
    (c.syncCycle edge).board.tx.getNat f = (c.inputsSampled edge).data.outbound.getNat f := by
  have layout' : (c.inputsSampled edge).data.layout = kind.layout :=
    ((c.accountEdge edge).layout_sampleInputs _).trans layout
  rw [tx_syncCycle]
  exact ProcessData.getNat_sent _ layout' mem _ _ _ _ _

/-- Before the first cycle the master reads what the device has written when it was set up. -/
theorem getNat_assembled {config : Config} {kind : Kind} {data : ProcessData} {b : SimBoard}
    (layout : data.layout = kind.layout) (e : Event) {f : Field} (mem : f ∈ kind.fields) :
    ((assembled config kind data b).publish.note e).board.tx.getNat f = data.outbound.getNat f :=
  ProcessData.getNat_sent _ layout mem _ _ _ _ _

end Controller
end FieldbusNode
