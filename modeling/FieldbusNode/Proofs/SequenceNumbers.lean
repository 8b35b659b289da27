/-
What sequence numbers tell.

A master sees the number that a cycle publishes, and the unit itself keeps the number it expects.

The number published is the one the accepted frame carries, or the invalid one in place of a
rejected frame.  A frame can carry any byte, so one that carries the invalid number and is otherwise
intact is published like a rejected one (`invalid_shown_iff`).  Sensors count to 127, and a number
up to that is never in doubt.

The number expected is compared modulo 128.  As long as no more than 127 frames in a row are lost,
what the comparisons make of the gaps is what was lost (`Tracking.foldl_take`): the numbers of two
frames accepted one behind the other tell how far apart they were sent.
-/
import Mathlib.Order.Interval.Finset.Defs
import Mathlib.Data.Int.Interval
import FieldbusNode.Proofs.InertialUnit
namespace FieldbusNode

open Inertial (invalidSequence frameLength)
open Simulation.Station (turned)

namespace Imu

/-! ### Numbers -/

/-- The sequence number of the frame that is sent at an index: the sensor counts to 127. -/
def numberOf (index : ℤ) : UInt8 := UInt8.ofNat (index % 128).toNat

theorem toNat_numberOf (index : ℤ) : (numberOf index).toNat = (index % 128).toNat := by
  rw [numberOf, UInt8.toNat_ofNat']
  omega

/-- The low seven bits are what remains modulo 128. -/
theorem toNat_and_127 (n : UInt8) : (n &&& 0x7F).toNat = n.toNat % 128 := by
  rw [UInt8.toNat_and]
  exact Nat.and_two_pow_sub_one_eq_mod n.toNat 7

theorem nextSequence_numberOf (index : ℤ) :
    nextSequence (numberOf index) = numberOf (index + 1) := by
  apply UInt8.toNat_inj.mp
  rw [nextSequence, toNat_and_127, UInt8.toNat_add, toNat_numberOf, toNat_numberOf]
  show ((index % 128).toNat + 1) % 2 ^ 8 % 128 = _
  omega

theorem toNat_skipped_numberOf (expected index : ℤ) :
    (skipped (numberOf expected) (numberOf index)).toNat = ((index - expected) % 128).toNat := by
  rw [skipped, toNat_and_127, UInt8.toNat_sub, toNat_numberOf, toNat_numberOf]
  omega

/-! ### Tracking -/

/-- What a unit keeps of the numbers it has accepted. -/
structure Tracking where
  expected : Option UInt8
  gaps : Nat

namespace Tracking

/-- How many frames are missing in front of a number. -/
def missing (t : Tracking) (number : UInt8) : Nat :=
  match t.expected with
  | some expected => (skipped expected number).toNat
  | none => 0

/-- One more number. -/
def take (t : Tracking) (number : UInt8) : Tracking :=
  ⟨some (nextSequence number), t.gaps + t.missing number⟩

/-- Without an expected number. -/
def forget (t : Tracking) : Tracking := { t with expected := none }

theorem missing_of_none {t : Tracking} (unexpecting : t.expected = none) (number : UInt8) :
    t.missing number = 0 := by
  rw [missing, unexpecting]

/-- Consecutive indices of accepted frames: later each time, and by 128 at most. -/
def Sent (indices : List ℤ) : Prop := indices.IsChain fun s t => s < t ∧ t ≤ s + 128

/-- **The gaps are the frames that were lost.**  The index moves on by one for every number, and by
one for every frame that is missing. -/
theorem foldl_take {t : Tracking} {first : ℤ} {rest : List ℤ}
    (expected : t.expected = some (numberOf (first + 1))) (sent : Sent (first :: rest)) :
    (((rest.map numberOf).foldl take t).gaps : ℤ) =
      t.gaps + (rest.getLastD first - first - rest.length) := by
  induction rest generalizing t first with
  | nil => simp
  | cons next rest ih =>
      obtain ⟨⟨later, near⟩, sent⟩ := List.isChain_cons_cons.mp sent
      have missing : t.missing (numberOf next) = (next - first - 1).toNat := by
        rw [Tracking.missing, expected]
        show (skipped _ _).toNat = _
        rw [toNat_skipped_numberOf]
        omega
      have taken : (t.take (numberOf next)).expected = some (numberOf (next + 1)) :=
        congrArg some (nextSequence_numberOf next)
      have gaps : (t.take (numberOf next)).gaps = t.gaps + (next - first - 1).toNat :=
        congrArg (t.gaps + ·) missing
      rw [List.map_cons, List.foldl_cons, ih taken sent, gaps, List.getLastD_cons,
        List.length_cons]
      omega

theorem Sent.bounds {first : ℤ} {rest : List ℤ} (sent : Sent (first :: rest)) :
    first ≤ rest.getLastD first ∧ ∀ t ∈ rest, t ∈ Finset.Ioc first (rest.getLastD first) := by
  induction rest generalizing first with
  | nil => exact ⟨le_refl _, nofun⟩
  | cons next rest ih =>
      obtain ⟨⟨later, -⟩, sent⟩ := List.isChain_cons_cons.mp sent
      obtain ⟨le, inside⟩ := ih sent
      rw [List.getLastD_cons]
      refine ⟨by omega, ?_⟩
      intro t mem
      rw [Finset.mem_Ioc]
      rcases List.mem_cons.mp mem with rfl | mem
      · exact ⟨later, le⟩
      · obtain ⟨behind, before⟩ := Finset.mem_Ioc.mp (inside t mem)
        exact ⟨by omega, before⟩

theorem Sent.nodup {indices : List ℤ} (sent : Sent indices) : indices.Nodup := by
  have increasing : indices.IsChain (· < ·) := sent.imp fun _ _ h => h.1
  exact increasing.pairwise.nodup

/-- The frames sent behind the first, up to the last, that are not among the accepted ones. -/
theorem card_lost {first : ℤ} {rest : List ℤ} (sent : Sent (first :: rest)) :
    ((Finset.Ioc first (rest.getLastD first) \ rest.toFinset).card : ℤ) =
      rest.getLastD first - first - rest.length := by
  obtain ⟨le, inside⟩ := sent.bounds
  have among : rest.toFinset ⊆ Finset.Ioc first (rest.getLastD first) :=
    fun t mem => inside t (List.mem_toFinset.mp mem)
  have few := Finset.card_le_card among
  rw [List.toFinset_card_of_nodup sent.nodup.of_cons] at few
  rw [Finset.card_sdiff_of_subset among, List.toFinset_card_of_nodup sent.nodup.of_cons]
  rw [Int.card_Ioc] at few ⊢
  omega

end Tracking

/-- What the unit keeps of the numbers. -/
def tracking (unit : Imu) : Tracking := ⟨unit.expected, unit.sequenceGaps⟩

theorem tracking_accept (unit : Imu) (s : Inertial.Sample) (checksum : UInt32) :
    (unit.accept s checksum).tracking = unit.tracking.take s.sequence := by
  have missing : ((unit.gap? s.sequence).map (·.2.toNat)).getD 0 =
      unit.tracking.missing s.sequence := by
    unfold gap? Tracking.missing tracking
    cases unit.expected with
    | none => rfl
    | some expected =>
        dsimp only
        split
        · next same =>
            subst same
            simp [skipped]
        · rfl
  exact congrArg (Tracking.mk _ <| unit.sequenceGaps + ·) missing

namespace Deed

/-- What a call makes of the numbers kept. -/
def track (deed : Deed) (t : Tracking) : Tracking :=
  match deed.accepted? with
  | some telemetry => t.take telemetry.sample.sequence
  | none => if deed.isClear then t.forget else t

end Deed

/-- The numbers of the frames that were accepted, oldest first; the deeds are listed newest
first. -/
def acceptedNumbers (deeds : List Deed) : List UInt8 :=
  (deeds.reverse.filterMap Deed.accepted?).map (·.sample.sequence)

theorem acceptedNumbers_cons (deed : Deed) (deeds : List Deed) :
    acceptedNumbers (deed :: deeds) =
      acceptedNumbers deeds ++ (deed.accepted?.map (·.sample.sequence)).toList := by
  unfold acceptedNumbers
  rw [List.reverse_cons, List.filterMap_append, List.map_append]
  cases accepted : deed.accepted? <;> simp [accepted]

theorem acceptedNumbers_append (newer older : List Deed) :
    acceptedNumbers (newer ++ older) = acceptedNumbers older ++ acceptedNumbers newer := by
  simp [acceptedNumbers]

/-- Without a reset it is the accepted frames alone that count. -/
theorem foldr_track (deeds : List Deed) (unreset : ∀ deed ∈ deeds, deed.isClear = false)
    (t : Tracking) : deeds.foldr Deed.track t = (acceptedNumbers deeds).foldl Tracking.take t := by
  induction deeds with
  | nil => rfl
  | cons deed deeds ih =>
      have kept : deed.isClear = false := unreset deed List.mem_cons_self
      rw [List.foldr_cons, ih fun d mem => unreset d (List.mem_cons_of_mem _ mem),
        acceptedNumbers_cons, List.foldl_append, Deed.track]
      cases deed.accepted? with
      | none => simp [kept]
      | some telemetry => rfl

/-- Without an accepted frame no number is expected, and one alone is not compared. -/
theorem foldr_track_unexpecting {t : Tracking} (unexpecting : t.expected = none)
    (deeds : List Deed) :
    (acceptedNumbers deeds = [] → (deeds.foldr Deed.track t).expected = none) ∧
      ((acceptedNumbers deeds).length ≤ 1 → (deeds.foldr Deed.track t).gaps = t.gaps) := by
  induction deeds with
  | nil => exact ⟨fun _ => unexpecting, fun _ => rfl⟩
  | cons deed deeds ih =>
      obtain ⟨none, one⟩ := ih
      rw [acceptedNumbers_cons, List.foldr_cons, Deed.track]
      cases deed.accepted? with
      | none =>
          rw [Option.map_none, Option.toList_none, List.append_nil]
          cases deed.isClear with
          | true => exact ⟨fun _ => rfl, one⟩
          | false => exact ⟨none, one⟩
      | some telemetry =>
          refine ⟨fun empty => by simp at empty, fun few => ?_⟩
          have before : acceptedNumbers deeds = [] := by simpa using few
          show _ + Tracking.missing _ _ = t.gaps
          rw [Tracking.missing_of_none (none before), one (by rw [before]; exact Nat.zero_le 1),
            Nat.add_zero]

theorem tracking_observe (unit : Imu) {reading : Except HardwareError (List UInt8)}
    (whole : ∀ bytes, reading = .ok bytes → bytes.length ≤ frameLength) :
    (unit.observe reading).1.tracking = (Deed.reads reading).track unit.tracking := by
  cases reading with
  | error e => rfl
  | ok bytes =>
      unfold observe
      simp only [List.take_of_length_le (whole bytes rfl), take_store, Deed.track, Deed.accepted?]
      cases Inertial.Sample.decode bytes with
      | ok s => exact tracking_accept (unit.store bytes) s _
      | error e => rfl

/-! ### Calls -/

namespace Duty

variable {β : Type}

/-- A unit with its records on a board, before any call. -/
def on (unit : Imu) (data : ProcessData) (b : β) : Duty β := ⟨.imu unit, data, b, []⟩

/-- From one moment to a later one: the deeds in between, newest first, and what they make of the
numbers that the unit keeps. -/
structure Leads (d : Duty β) (unit : Imu) (newer : List Deed) (d' : Duty β) (unit' : Imu) :
    Prop where
  device : d'.device = .imu unit'
  deeds : d'.deeds = newer ++ d.deeds
  tracking : unit'.tracking = newer.foldr Deed.track unit.tracking

theorem Leads.trans {d d' d'' : Duty β} {unit unit' unit'' : Imu} {newer newest : List Deed}
    (first : Leads d unit newer d' unit') (second : Leads d' unit' newest d'' unit'') :
    Leads d unit (newest ++ newer) d'' unit'' where
  device := second.device
  deeds := by rw [second.deeds, first.deeds, List.append_assoc]
  tracking := by rw [second.tracking, first.tracking, List.foldr_append]

variable [Hardware β] {d : Duty β} {unit : Imu}

/-- Every call is a deed, and only a reset is one that clears. -/
theorem leads_call (device : d.device = .imu unit)
    (bounded : ∀ bytes, (Hardware.readImu frameLength d.board).1 = .ok bytes →
      bytes.length ≤ frameLength) (c : Call) :
    ∃ unit' deed, Leads d unit [deed] (d.call c) unit' ∧
      (c ≠ .resetError → deed.isClear = false) := by
  obtain ⟨_, data, board, deeds⟩ := d
  obtain rfl : _ = Device.imu unit := device
  cases c with
  | updateInputs sinceEdge =>
      rw [call_updateInputs rfl sinceEdge rfl]
      exact ⟨_, _, ⟨rfl, rfl, unit.tracking_observe bounded⟩, fun _ => rfl⟩
  | postSync =>
      unfold Duty.call Device.postSync
      rcases Hardware.pulseImu board with ⟨⟨⟩ | ⟨⟩, behind⟩ <;>
        exact ⟨_, _, ⟨rfl, rfl, rfl⟩, fun _ => rfl⟩
  | estop => exact ⟨unit.estop, .stops, ⟨rfl, rfl, rfl⟩, fun _ => rfl⟩
  | resetError => exact ⟨unit.reset, .clears, ⟨rfl, rfl, rfl⟩, fun other => absurd rfl other⟩

theorem leads_after (bounded : ∀ (b : β) bytes, (Hardware.readImu frameLength b).1 = .ok bytes →
      bytes.length ≤ frameLength) (device : d.device = .imu unit) (turns : List (Turn β)) :
    ∃ unit' newer, Leads d unit newer (d.after turns) unit' ∧
      ((∀ t ∈ turns, t.call ≠ .resetError) → ∀ deed ∈ newer, deed.isClear = false) := by
  induction turns generalizing d unit with
  | nil => exact ⟨unit, [], ⟨device, rfl, rfl⟩, fun _ => nofun⟩
  | cons t rest ih =>
      obtain ⟨unit', deed, called, unreset⟩ :
          ∃ unit' deed, Leads d unit [deed] (d.turn t) unit' ∧
            (t.call ≠ .resetError → deed.isClear = false) := by
        obtain ⟨unit', deed, ⟨device', deeds, tracking⟩, unreset⟩ :=
          leads_call (d := { d with board := t.stir d.board }) device (bounded _) t.call
        exact ⟨unit', deed, ⟨device', deeds, tracking⟩, unreset⟩
      obtain ⟨unit'', newer, went, clear⟩ := ih called.device
      refine ⟨unit'', newer ++ [deed], called.trans went, ?_⟩
      intro kept listed mem
      rcases List.mem_append.mp mem with mem | mem
      · exact clear (fun t mem => kept t (List.mem_cons_of_mem _ mem)) listed mem
      · rw [List.mem_singleton.mp mem]
        exact unreset (kept t List.mem_cons_self)

/-! ### What is counted -/

/-- **Gaps are the frames that were lost.**  Between the acceptance of a first frame and that of a
last one, with any reads that are not accepted in between and no reset, the gaps grow by the number
of frames that were sent behind the first and not accepted, as long as each accepted frame was sent
at most 128 frames behind the one before.  The first frame of a new unit is no gap, and no more is
the first frame behind a reset. -/
theorem gaps_count_lost_frames
    (bounded : ∀ (b : β) bytes, (Hardware.readImu frameLength b).1 = .ok bytes →
      bytes.length ≤ frameLength)
    (unit : Imu) (data : ProcessData) (b : β) :
    (∀ (early late : List (Turn β)) (first : ℤ) (rest : List ℤ),
      let met := (on unit data b).after early
      let done := (on unit data b).after (early ++ late)
      (∀ t ∈ early ++ late, t.call ≠ .resetError) →
      acceptedNumbers met.deeds = [numberOf first] →
      acceptedNumbers done.deeds = (first :: rest).map numberOf → Tracking.Sent (first :: rest) →
      ∃ unit₀ unit₁, met.device = .imu unit₀ ∧ done.device = .imu unit₁ ∧
        (unit₁.sequenceGaps : ℤ) - unit₀.sequenceGaps =
          rest.getLastD first - first - rest.length ∧
        unit₁.sequenceGaps = unit₀.sequenceGaps +
          (Finset.Ioc first (rest.getLastD first) \ rest.toFinset).card ∧
        (unit.expected = none → unit₀.sequenceGaps = unit.sequenceGaps)) ∧
    ∀ turns : List (Turn β),
      let d := ((on unit data b).call .resetError).after turns
      (acceptedNumbers d.deeds).length ≤ 1 →
        ∃ unit', d.device = .imu unit' ∧ unit'.sequenceGaps = unit.sequenceGaps := by
  refine ⟨?_, ?_⟩
  · intro early late first rest met done kept one all sent
    obtain ⟨unit₀, older, ⟨device₀, deeds₀, tracking₀⟩, clear₀⟩ :=
      leads_after (d := on unit data b) bounded rfl early
    obtain ⟨unit₁, newer, ⟨device₁, deeds₁, tracking₁⟩, clear₁⟩ := leads_after bounded device₀ late
    have clear₀ := clear₀ fun t mem => kept t (List.mem_append_left _ mem)
    have clear₁ := clear₁ fun t mem => kept t (List.mem_append_right _ mem)
    have split : done = met.after late := List.foldl_append
    rw [← split] at device₁ deeds₁
    have others : acceptedNumbers newer = rest.map numberOf := by
      rw [deeds₁, acceptedNumbers_append, one] at all
      exact (List.cons.inj all).2
    have alone : acceptedNumbers older = [numberOf first] := by
      rw [← one, deeds₀]
      exact congrArg acceptedNumbers (List.append_nil _).symm
    rw [foldr_track older clear₀, alone] at tracking₀
    rw [foldr_track newer clear₁, others] at tracking₁
    have expecting : unit₀.tracking.expected = some (numberOf (first + 1)) := by
      rw [tracking₀]
      exact congrArg some (nextSequence_numberOf first)
    have grown : (unit₁.sequenceGaps : ℤ) =
        unit₀.sequenceGaps + (rest.getLastD first - first - rest.length) := by
      have moved := Tracking.foldl_take expecting sent
      rwa [← tracking₁] at moved
    have lost := Tracking.card_lost sent
    refine ⟨unit₀, unit₁, device₀, device₁, by omega, by omega, ?_⟩
    intro unexpecting
    have taken : unit₀.sequenceGaps = unit.sequenceGaps + unit.tracking.missing (numberOf first) :=
      congrArg Tracking.gaps tracking₀
    rw [taken, Tracking.missing_of_none unexpecting, Nat.add_zero]
  · intro turns d few
    have cleared : ((on unit data b).call .resetError).device = .imu unit.reset := rfl
    obtain ⟨unit', newer, ⟨device, deeds, tracking⟩, -⟩ := leads_after bounded cleared turns
    have few : (acceptedNumbers newer).length ≤ 1 := by
      have listed : acceptedNumbers d.deeds = acceptedNumbers newer := by
        rw [deeds, acceptedNumbers_append]
        rfl
      rwa [listed] at few
    obtain ⟨-, same⟩ := foldr_track_unexpecting (t := unit.reset.tracking) rfl newer
    exact ⟨unit', device, (congrArg Tracking.gaps tracking).trans (same few)⟩

/-! ### What is shown -/

/-- A read shows the number of the frame it accepts, or else the invalid one and one frame more that
was rejected. -/
theorem Lawful.shown (lawful : d.Lawful unit)
    (bounded : ∀ (b : β) bytes, (Hardware.readImu frameLength b).1 = .ok bytes →
      bytes.length ≤ frameLength) (stir : β → β) (sinceEdge : Nat) :
    let read := Deed.reads (Hardware.readImu frameLength (stir d.board)).1
    let d' := d.turn ⟨stir, .updateInputs sinceEdge⟩
    ∃ unit', d'.device = .imu unit' ∧
      d'.data.outbound.imuTelemetry.sample.sequence =
        (read.accepted?.map (·.sample.sequence)).getD invalidSequence ∧
      unit'.framesRejected = unit.framesRejected + read.rejected.toNat := by
  intro read d'
  have stirred : Lawful { d with board := stir d.board } unit :=
    ⟨lawful.device, lawful.layout, lawful.kept, lawful.telemetry, lawful.rejected, lawful.sensor⟩
  have behind := stirred.updateInputs (bounded _) sinceEdge
  refine ⟨_, behind.device, ?_, ?_⟩
  · have told := congrArg (·.sample.sequence) behind.telemetry
    exact told.trans (lastNumber_cons d.deeds read)
  · rw [behind.rejected, lawful.rejected]
    exact countP_rejected_cons d.deeds read

/-- **The invalid number is shown for a rejected frame, and for one that carries it.**  Whatever has
happened to a unit, a read that is rejected shows the invalid number and one that is accepted shows
the number of its frame.  So the number alone tells the two apart unless a frame carries the
invalid one. -/
theorem invalid_shown_iff {limits : Limits} {b b' : β} {data : ProcessData}
    (bounded : ∀ (b : β) bytes, (Hardware.readImu frameLength b).1 = .ok bytes →
      bytes.length ≤ frameLength)
    (setUp : (Device.ofKind .imu limits).setUp (.ofLayout Kind.imu.layout) b = (.ok data, b'))
    (turns : List (Turn β)) (stir : β → β) (sinceEdge : Nat) :
    let d := (begin data b').after turns
    let d' := d.turn ⟨stir, .updateInputs sinceEdge⟩
    let read := Deed.reads (Hardware.readImu frameLength (stir d.board)).1
    let shown := d'.data.outbound.imuTelemetry.sample.sequence
    ∃ unit unit', d.device = .imu unit ∧ d'.device = .imu unit' ∧
      (read.rejected = true →
        shown = invalidSequence ∧ unit'.framesRejected = unit.framesRejected + 1) ∧
      (∀ told, read.accepted? = some told →
        shown = told.sample.sequence ∧ unit'.framesRejected = unit.framesRejected) ∧
      (shown = invalidSequence ↔ read.rejected = true ∨
        ∃ told, read.accepted? = some told ∧ told.sample.sequence = invalidSequence) := by
  intro d d' read shown
  obtain ⟨unit, before⟩ := (lawful_begin setUp).after bounded turns
  obtain ⟨unit', device, number, counted⟩ := before.shown bounded stir sinceEdge
  have number : shown = (read.accepted?.map (·.sample.sequence)).getD invalidSequence := number
  have counted : unit'.framesRejected = unit.framesRejected + read.accepted?.isNone.toNat := counted
  have refused : read.rejected = read.accepted?.isNone := rfl
  refine ⟨unit, unit', before.device, device, ?_⟩
  rw [refused]
  cases accepted : read.accepted? with
  | none =>
      rw [accepted] at number counted
      exact ⟨fun _ => ⟨number, counted⟩, nofun, iff_of_true number (Or.inl rfl)⟩
  | some told =>
      rw [accepted] at number counted
      have number : shown = told.sample.sequence := number
      refine ⟨nofun, ?_, ?_⟩
      · rintro _ ⟨⟩
        exact ⟨number, counted⟩
      · rw [number]
        constructor
        · exact fun invalid => Or.inr ⟨told, rfl, invalid⟩
        · rintro (none | ⟨_, ⟨⟩, invalid⟩)
          · nomatch none
          · exact invalid

/-! ### On a bench -/

/-- A bench hands over no more than it was asked for. -/
theorem bench_bounded (b : Bench.Sensors) (bytes : List UInt8)
    (read : (Hardware.readImu frameLength b).1 = .ok bytes) : bytes.length ≤ frameLength := by
  change Bench.Sensors.reading (b.frame.map (·.take frameLength)) _ = .ok bytes at read
  cases filled : b.frame with
  | none =>
      rw [filled] at read
      nomatch read
  | some frame =>
      rw [filled] at read
      obtain rfl : frame.take frameLength = bytes := Except.ok.inj read
      exact List.length_take_le _ _

/-- A bench that hands over these bytes. -/
def supply (bytes : List UInt8) (s : Bench.Sensors) : Bench.Sensors :=
  { s with frame := some bytes }

/-- Bytes arrive and are read. -/
def arrival (bytes : List UInt8) : Turn Bench.Sensors := ⟨supply bytes, .updateInputs 0⟩

/-- The frame that is sent at an index. -/
def frameAt (index : ℤ) : List UInt8 :=
  Inertial.Sample.encode { turned with sequence := numberOf index }

/-- Behind the frame of index 126 the next one is accepted, of the three after it only the last, a
part of the one after that arrives, and then all is lost for as long as the numbers go around. -/
def lossy : List (Turn Bench.Sensors) :=
  [arrival (frameAt 127), arrival (frameAt 130), arrival ((frameAt 131).take 20), ⟨id, .postSync⟩,
    arrival (frameAt 258)]

/-- From 126 to 258 there are 132 frames, of which three are accepted; and a number that is far from
the expected one is no gap behind a reset. -/
theorem gaps_count_lost_frames_lossy :
    (∃ unit₀ unit₁,
      ((on .fresh (.ofLayout Kind.imu.layout) ({} : Bench.Sensors)).after
        [arrival (frameAt 126)]).device = .imu unit₀ ∧ unit₀.sequenceGaps = 0 ∧
      ((on .fresh (.ofLayout Kind.imu.layout) ({} : Bench.Sensors)).after
        (arrival (frameAt 126) :: lossy)).device = .imu unit₁ ∧ unit₁.sequenceGaps = 129) ∧
    ∃ unit, (((on { fresh with expected := some 3, sequenceGaps := 7 }
        (.ofLayout Kind.imu.layout) ({} : Bench.Sensors)).call .resetError).after
          [arrival (frameAt 100)]).device = .imu unit ∧ unit.sequenceGaps = 7 := by
  obtain ⟨counts, -⟩ := gaps_count_lost_frames bench_bounded .fresh (.ofLayout Kind.imu.layout)
    ({} : Bench.Sensors)
  obtain ⟨-, restarts⟩ := gaps_count_lost_frames bench_bounded
    { fresh with expected := some 3, sequenceGaps := 7 } (.ofLayout Kind.imu.layout)
    ({} : Bench.Sensors)
  have unreset : ∀ t ∈ arrival (frameAt 126) :: lossy, t.call ≠ .resetError := by
    simp [lossy, arrival]
  have sent : Tracking.Sent [126, 127, 130, 258] := by
    unfold Tracking.Sent
    decide
  obtain ⟨unit₀, unit₁, device₀, device₁, grown, -, begun⟩ :=
    counts [arrival (frameAt 126)] lossy 126 [127, 130, 258] unreset (by decide +kernel)
      (by decide +kernel) sent
  have none : unit₀.sequenceGaps = 0 := begun rfl
  rw [none] at grown
  exact ⟨⟨unit₀, unit₁, device₀, none, device₁, Int.ofNat_inj.mp grown⟩,
    restarts [arrival (frameAt 100)] (by decide +kernel)⟩

/-- A frame that carries the invalid number. -/
def marked : Inertial.Sample := { turned with sequence := invalidSequence }

/-- That frame is accepted, and shows like a frame behind it that is rejected. -/
theorem fresh_frame_shown_invalid :
    ∃ data b' unit unit',
      (Device.ofKind .imu {}).setUp (.ofLayout Kind.imu.layout) ({} : Bench.Sensors) =
        (.ok data, b') ∧
      let d := (begin data b').after [arrival marked.encode]
      let d' := d.after [arrival (marked.encode.take 20)]
      d.device = .imu unit ∧ unit.framesRejected = 0 ∧ unit.flags.sensor = false ∧
        d.data.outbound.imuTelemetry.sample.sequence = invalidSequence ∧
        d'.device = .imu unit' ∧ unit'.framesRejected = 1 ∧
        d'.data.outbound.imuTelemetry = d.data.outbound.imuTelemetry := by
  obtain ⟨data, b', setUp, number, none, healthy, same, number', one⟩ :
      ∃ data b', (Device.ofKind .imu {}).setUp (.ofLayout Kind.imu.layout) ({} : Bench.Sensors) =
          (.ok data, b') ∧
        let d := (begin data b').after [arrival marked.encode]
        let d' := d.after [arrival (marked.encode.take 20)]
        lastNumber d.deeds = invalidSequence ∧ d.deeds.countP Deed.rejected = 0 ∧
          (sinceClear d.deeds).any Deed.faulty = false ∧
          lastAccepted d'.deeds = lastAccepted d.deeds ∧ lastNumber d'.deeds = invalidSequence ∧
          d'.deeds.countP Deed.rejected = 1 := by
    refine ⟨_, _, rfl, ?_⟩
    decide +kernel
  obtain ⟨unit, fresh⟩ := (lawful_begin setUp).after bench_bounded [arrival marked.encode]
  obtain ⟨unit', stale⟩ := fresh.after bench_bounded [arrival (marked.encode.take 20)]
  refine ⟨data, b', unit, unit', setUp, fresh.device, fresh.rejected.trans none,
    fresh.sensor.trans healthy, ?_, stale.device, stale.rejected.trans one, ?_⟩
  · rw [fresh.telemetry, Telemetry.numbered, number]
  · rw [stale.telemetry, fresh.telemetry, same, number', number]

/-- A frame that is cut short shows the invalid number, and one that arrives shows its own. -/
theorem invalid_shown_iff_cutShort :
    ∃ data b', (Device.ofKind .imu {}).setUp (.ofLayout Kind.imu.layout) ({} : Bench.Sensors) =
        (.ok data, b') ∧
      let d := (begin data b').after cutShort
      let shown (bytes : List UInt8) :=
        (d.turn ⟨supply bytes, .updateInputs 0⟩).data.outbound.imuTelemetry.sample.sequence
      shown (turned.encode.take 20) = invalidSequence ∧ shown turned.encode = 0 := by
  obtain ⟨data, b', setUp, cut, whole⟩ :
      ∃ data b', (Device.ofKind .imu {}).setUp (.ofLayout Kind.imu.layout) ({} : Bench.Sensors) =
          (.ok data, b') ∧
        let d := (begin data b').after cutShort
        let read (bytes : List UInt8) :=
          Deed.reads (Hardware.readImu frameLength (supply bytes d.board)).1
        (read (turned.encode.take 20)).rejected = true ∧
          (read turned.encode).accepted?.map (·.sample.sequence) = some 0 := by
    refine ⟨_, _, rfl, ?_⟩
    decide +kernel
  obtain ⟨told, accepted, sequence⟩ := Option.map_eq_some_iff.mp whole
  obtain ⟨_, _, _, _, rejects, -⟩ :=
    invalid_shown_iff bench_bounded setUp cutShort (supply (turned.encode.take 20)) 0
  obtain ⟨_, _, _, _, -, accepts, -⟩ :=
    invalid_shown_iff bench_bounded setUp cutShort (supply turned.encode) 0
  exact ⟨data, b', setUp, (rejects cut).1, (accepts told accepted).1.trans sequence⟩

end Duty
end Imu
end FieldbusNode
