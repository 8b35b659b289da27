/-
Bursts.

A burst is damage within one window of a frame.  The windows looked at here are four bytes long, as
long as the checksum itself, and lie within what the checksum covers or are the checksum.  A burst
of the first kind leaves the carried checksum and changes the computed one, one of the second kind
does it the other way round.  So the two never agree (`mismatch_of_burst`), no such frame is
accepted, and what it is refused for depends on the header alone.
-/
import FieldbusNode.Proofs.Checksum
import FieldbusNode.Proofs.FrameCodec
namespace FieldbusNode.Inertial.Sample

/-! ### Windows -/

theorem take_eq_iff_getElem? {α : Type} {xs ys : List α} {n : Nat} :
    xs.take n = ys.take n ↔ ∀ i < n, xs[i]? = ys[i]? := by
  constructor
  · intro same i inside
    rw [← List.getElem?_take_of_lt inside, same, List.getElem?_take_of_lt inside]
  · intro alike
    apply List.ext_getElem?
    intro i
    rw [List.getElem?_take, List.getElem?_take]
    split
    · next inside => exact alike i inside
    · rfl

/-- A frame is what was sent, but for a window of four bytes. -/
structure DamagedWithin (sent frame : List UInt8) (start : Nat) : Prop where
  front : frame.take start = sent.take start
  rest : frame.drop (start + 4) = sent.drop (start + 4)

/-- What is in front of some place behind a window, in three parts. -/
theorem take_eq_window (bytes : List UInt8) {start n : Nat} (behind : start + 4 ≤ n) :
    bytes.take n = bytes.take start ++
      ((bytes.drop start).take 4 ++ (bytes.drop (start + 4)).take (n - (start + 4))) := by
  rw [← List.append_assoc, ← List.take_add, ← List.take_add, Nat.add_sub_cancel' behind]

variable {s : Sample} {sent frame : List UInt8} {start : Nat}

theorem damagedWithin_of_alike (sized : frame.length = sent.length)
    (alike : ∀ i < sent.length, i < start ∨ start + 4 ≤ i → frame[i]? = sent[i]?) :
    DamagedWithin sent frame start := by
  have alike (i : Nat) (outside : i < start ∨ start + 4 ≤ i) : frame[i]? = sent[i]? := by
    by_cases inside : i < sent.length
    · exact alike i inside outside
    · rw [List.getElem?_eq_none (by omega), List.getElem?_eq_none (by omega)]
  refine ⟨take_eq_iff_getElem?.mpr fun i front => alike i (Or.inl front), ?_⟩
  apply List.ext_getElem?
  intro i
  rw [List.getElem?_drop, List.getElem?_drop]
  exact alike _ (Or.inr (Nat.le_add_right _ _))

/-- Damage within a window changes the window. -/
theorem DamagedWithin.window_ne (damaged : DamagedWithin sent frame start) (other : frame ≠ sent) :
    (sent.drop start).take 4 ≠ (frame.drop start).take 4 := by
  have whole (bytes : List UInt8) :
      bytes = bytes.take start ++ ((bytes.drop start).take 4 ++ bytes.drop (start + 4)) := by
    rw [← List.append_assoc, ← List.take_add, List.take_append_drop]
  intro same
  apply other
  rw [whole frame, whole sent, same, damaged.front, damaged.rest]

/-- Damage in front of the checksum leaves the checksum. -/
theorem DamagedWithin.carried (damaged : DamagedWithin sent frame start)
    (covered : start + 4 ≤ checksumSpan) :
    wordAt frame checksumSpan = wordAt sent checksumSpan := by
  have behind (bytes : List UInt8) : bytes.drop checksumSpan =
      (bytes.drop (start + 4)).drop (checksumSpan - (start + 4)) := by
    rw [List.drop_drop, Nat.add_sub_cancel' covered]
  rw [wordAt, behind, damaged.rest, ← behind, wordAt]

/-! ### Two checksums -/

/-- What an encoding carries is the checksum of what it covers. -/
theorem intact_encode (s : Sample) :
    wordAt s.encode checksumSpan = checksum (s.encode.take checksumSpan) :=
  (intact_of_decode (decode_encode s)).2.2.1

/-- **A burst leaves a frame whose two checksums differ.** -/
theorem mismatch_of_burst (sized : frame.length = frameLength)
    (window : start + 4 ≤ checksumSpan ∨ start = checksumSpan)
    (damaged : DamagedWithin s.encode frame start) (other : frame ≠ s.encode) :
    wordAt frame checksumSpan ≠ checksum (frame.take checksumSpan) := by
  have changed := damaged.window_ne other
  rcases window with covered | rfl
  · have four {bytes : List UInt8} (sized : bytes.length = frameLength) :
        ((bytes.drop start).take 4).length = 4 := by
      rw [List.length_take, List.length_drop, sized]
      unfold frameLength checksumSpan at *
      omega
    have alike := (four s.length_encode).trans (four sized).symm
    rw [damaged.carried covered, intact_encode, take_eq_window s.encode covered,
      take_eq_window frame covered, damaged.front, damaged.rest]
    exact checksum_ne_of_burst _ _ alike (Nat.le_of_eq (four s.length_encode)) changed
  · have written {bytes : List UInt8} (sized : bytes.length = frameLength) :
        wordBytes (wordAt bytes checksumSpan) = (bytes.drop checksumSpan).take 4 :=
      wordBytes_wordAt (by rw [sized]; decide)
    rw [damaged.front, ← intact_encode]
    intro same
    apply changed
    rw [← written s.length_encode, ← written sized, same]

/--
**A burst is refused.**

This is about any encoding and any frame of its length that differs from it, with all the
differences in one window of four bytes, within what the checksum covers or right behind it.  It is
refused for its header if the burst has reached the header, and for its checksum otherwise.
-/
theorem burst_refused (s : Sample) {frame : List UInt8} (sized : frame.length = frameLength)
    {start : Nat} (window : start + 4 ≤ checksumSpan ∨ start = checksumSpan)
    (alike : ∀ i < frameLength, i < start ∨ start + 4 ≤ i → frame[i]? = s.encode[i]?)
    (other : frame ≠ s.encode) :
    ((∃ i < 4, frame[i]? ≠ s.encode[i]?) → decode frame = .error .badHeader) ∧
      ((∀ i < 4, frame[i]? = s.encode[i]?) → decode frame =
        .error (.checksum (wordAt frame checksumSpan) (checksum (frame.take checksumSpan)))) := by
  have long : frameLength ≤ frame.length := Nat.le_of_eq sized.symm
  have header : frame.take 4 = frameHeader ↔ ∀ i < 4, frame[i]? = s.encode[i]? := by
    have sent : s.encode.take 4 = frameHeader := rfl
    rw [← sent, take_eq_iff_getElem?]
  constructor
  · rintro ⟨i, inside, changed⟩
    exact decode_badHeader long fun intact => changed (header.mp intact i inside)
  · intro intact
    have damaged := damagedWithin_of_alike (sized.trans s.length_encode.symm) alike
    rw [decode_of_header long (header.mpr intact),
      if_pos (mismatch_of_burst sized window damaged other)]

/-- A frame of zeros with two bytes behind the header changed. -/
def scratched : List UInt8 :=
  (zero.encode.set 4 0x55).set 5 0xAA

/-- The window reaches back into the header, and the header is intact. -/
theorem burst_refused_scratched : scratched.length = frameLength ∧ scratched ≠ zero.encode ∧
    (∀ i < frameLength, i < 2 ∨ 2 + 4 ≤ i → scratched[i]? = zero.encode[i]?) ∧
    (∀ i < 4, scratched[i]? = zero.encode[i]?) ∧
    decode scratched = .error
      (.checksum (wordAt scratched checksumSpan) (checksum (scratched.take checksumSpan))) := by
  have sized : scratched.length = frameLength := rfl
  have other : scratched ≠ zero.encode := by decide +kernel
  have alike : ∀ i < frameLength, i < 2 ∨ 2 + 4 ≤ i → scratched[i]? = zero.encode[i]? := by
    decide +kernel
  have intact : ∀ i < 4, scratched[i]? = zero.encode[i]? := by decide +kernel
  exact ⟨sized, other, alike, intact,
    (burst_refused zero sized (Or.inl (by decide)) alike other).2 intact⟩

end FieldbusNode.Inertial.Sample
