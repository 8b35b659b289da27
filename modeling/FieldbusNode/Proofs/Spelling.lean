/-
How an identity can be spelled.

Reading goes from left to right, character by character, and gives up at the first thing wrong.
What it accepts can be said without that order: behind the white space stands a hexadecimal number
under `0x` or `0X`, or a decimal number, either with a plus sign in front if one likes, and the
number fits a byte (`Identity.Spells`).  A number is the value of its digits in its radix, so zeros
in front do not count, however many there are.

A number only grows with every further digit.  That is why the bound can be tested after each digit
instead of after the last one (`Text.readDigits_eq_ok_iff`).
-/
import Mathlib.Data.List.DropRight
import Mathlib.Data.Nat.Digits.Defs
import FieldbusNode.Identity
namespace FieldbusNode

namespace Text

/-! ### White space around a text -/

def Blank (cs : List Char) : Prop := ∀ c ∈ cs, isBlank c = true

instance (cs : List Char) : Decidable (Blank cs) := List.decidableBAll _ cs

/-- What is left of a text without the white space around it. -/
structure Trimmed (text core : List Char) : Prop where
  around : ∃ before behind, Blank before ∧ Blank behind ∧ text = before ++ core ++ behind
  head : ∀ c ∈ core.head?, isBlank c = false
  last : ∀ c ∈ core.getLast?, isBlank c = false

theorem trim_eq (text : List Char) : trim text = (text.dropWhile isBlank).rdropWhile isBlank := rfl

theorem trimmed_trim (text : List Char) : Trimmed text (trim text) := by
  refine ⟨⟨text.takeWhile isBlank, (text.dropWhile isBlank).rtakeWhile isBlank, ?_, ?_, ?_⟩, ?_, ?_⟩
  · exact fun c mem => List.mem_takeWhile_imp mem
  · exact fun c mem => List.mem_rtakeWhile_imp mem
  · rw [List.append_assoc, trim_eq, List.rdropWhile_append_rtakeWhile,
      List.takeWhile_append_dropWhile]
  · intro c first
    obtain ⟨rest, split⟩ := List.rdropWhile_prefix isBlank (text.dropWhile isBlank)
    have leads : (text.dropWhile isBlank).head? = some c := by
      rw [← split, List.head?_append, ← trim_eq, Option.mem_def.mp first]
      rfl
    have clear := List.head?_dropWhile_not isBlank text
    rw [leads] at clear
    exact clear
  · intro c last
    obtain ⟨filled, rfl⟩ := List.mem_getLast?_eq_getLast last
    exact Bool.eq_false_iff.mpr (List.rdropWhile_last_not isBlank _ filled)

/-- White space behind a text does not survive. -/
theorem rdropWhile_append_blank (core : List Char) {behind : List Char} (blank : Blank behind) :
    (core ++ behind).rdropWhile isBlank = core.rdropWhile isBlank := by
  have turned : ∀ c ∈ behind.reverse, isBlank c = true :=
    fun c mem => blank c (List.mem_reverse.mp mem)
  unfold List.rdropWhile
  rw [List.reverse_append, List.dropWhile_append_of_pos turned]

theorem trim_of_trimmed {text core : List Char} (trimmed : Trimmed text core) :
    trim text = core := by
  obtain ⟨⟨before, behind, blank, blank', rfl⟩, head, last⟩ := trimmed
  rw [trim_eq, List.append_assoc, List.dropWhile_append_of_pos blank]
  cases core with
  | nil =>
      rw [List.nil_append, List.dropWhile_eq_nil_iff.mpr blank']
      rfl
  | cons c rest =>
      have kept : (c :: rest ++ behind).dropWhile isBlank = c :: rest ++ behind :=
        List.dropWhile_cons_of_neg (by simp [head c rfl])
      rw [kept, rdropWhile_append_blank _ blank', List.rdropWhile_eq_self_iff]
      intro filled
      rw [last _ (List.getLast?_eq_some_getLast filled)]
      exact Bool.false_ne_true

theorem trimmed_iff {text core : List Char} : Trimmed text core ↔ trim text = core :=
  ⟨trim_of_trimmed, fun same => same ▸ trimmed_trim text⟩

/-! ### Digits -/

/-- The sixteen digits, in lower and in upper case. -/
def digitChars : List (List Char) := ["0123456789abcdef".toList, "0123456789ABCDEF".toList]

/-- A character is a digit of a radix, and this is its value. -/
def IsDigit (radix : Nat) (c : Char) (digit : Nat) : Prop :=
  digit < radix ∧ ∃ row ∈ digitChars, row[digit]? = some c

instance (radix : Nat) (c : Char) (digit : Nat) : Decidable (IsDigit radix c digit) :=
  inferInstanceAs (Decidable (_ ∧ _))

theorem digitValue_eq_filter {radix : Nat} (few : radix ≤ 16) (c : Char) :
    digitValue radix c = (digitValue 16 c).filter (· < radix) := by
  unfold digitValue
  dsimp only
  rw [Option.filter_filter]
  congr 1
  funext digit
  rw [eq_comm, Bool.and_eq_right_iff_imp]
  simp only [decide_eq_true_iff]
  omega

theorem digitValue_digitChars : ∀ row ∈ digitChars, ∀ digit < 16,
    row[digit]?.bind (digitValue 16) = some digit := by
  decide

/-- A character with a value below sixteen is in one of the rows. -/
theorem digitChars_of_digitValue {c : Char} {digit : Nat} (value : digitValue 16 c = some digit) :
    ∃ row ∈ digitChars, row[digit]? = some c := by
  have figures : ∀ d < 10, digitChars[0][d]? = some (Char.ofNat (48 + d)) := by decide
  have upper : ∀ d < 16, 10 ≤ d → digitChars[1][d]? = some (Char.ofNat (55 + d)) := by decide
  have lower : ∀ d < 16, 10 ≤ d → digitChars[0][d]? = some (Char.ofNat (87 + d)) := by decide
  obtain ⟨place, small⟩ := Option.filter_eq_some_iff.mp value
  have small : digit < 16 := of_decide_eq_true small
  split at place
  · obtain rfl := Option.some.inj place
    have listed := figures (c.toNat - 48) (by omega)
    rw [Nat.add_sub_cancel' (by omega), Char.ofNat_toNat] at listed
    exact ⟨_, List.getElem_mem _, listed⟩
  split at place
  · obtain rfl := Option.some.inj place
    have listed := upper (c.toNat - 55) small (by omega)
    rw [Nat.add_sub_cancel' (by omega), Char.ofNat_toNat] at listed
    exact ⟨_, List.getElem_mem _, listed⟩
  split at place
  · obtain rfl := Option.some.inj place
    have listed := lower (c.toNat - 87) small (by omega)
    rw [Nat.add_sub_cancel' (by omega), Char.ofNat_toNat] at listed
    exact ⟨_, List.getElem_mem _, listed⟩
  · nomatch place

theorem isDigit_iff {radix : Nat} (few : radix ≤ 16) {c : Char} {digit : Nat} :
    IsDigit radix c digit ↔ digitValue radix c = some digit := by
  rw [digitValue_eq_filter few, Option.filter_eq_some_iff, decide_eq_true_iff, and_comm, IsDigit]
  refine and_congr_right fun small => ⟨?_, digitChars_of_digitValue⟩
  rintro ⟨row, mem, listed⟩
  have value := digitValue_digitChars row mem digit (by omega)
  rwa [listed] at value

/-! ### Numbers -/

/-- A number in digits of a radix, the most significant digit first. -/
def Denotes (radix : Nat) (cs : List Char) (n : Nat) : Prop :=
  cs ≠ [] ∧ ∃ digits, List.Forall₂ (IsDigit radix) cs digits ∧ Nat.ofDigits radix digits.reverse = n

/-- A number with a plus sign in front, or without one. -/
def DenotesSigned (radix : Nat) (cs : List Char) (n : Nat) : Prop :=
  Denotes radix cs n ∨ ∃ digits, cs = '+' :: digits ∧ Denotes radix digits n

/-- What digits make of a number that stands in front of them. -/
def extend (radix : Nat) (digits : List Nat) (n : Nat) : Nat :=
  digits.foldl (fun n digit => n * radix + digit) n

theorem extend_zero (radix : Nat) (digits : List Nat) :
    extend radix digits 0 = Nat.ofDigits radix digits.reverse := by
  rw [Nat.ofDigits_eq_foldr, List.foldr_reverse]
  unfold extend
  congr 1
  funext n digit
  rw [Nat.cast_id, Nat.add_comm, Nat.mul_comm]

/-- A number only grows with every further digit. -/
theorem le_extend {radix : Nat} (pos : 0 < radix) (digits : List Nat) (n : Nat) :
    n ≤ extend radix digits n := by
  induction digits generalizing n with
  | nil => exact Nat.le_refl n
  | cons digit rest ih =>
      calc n ≤ n * radix := Nat.le_mul_of_pos_right n pos
        _ ≤ n * radix + digit := Nat.le_add_right _ _
        _ ≤ extend radix rest (n * radix + digit) := ih _

section Reading

variable {radix bound : Nat}

/-- **Testing the bound after each digit is testing it after the last one.** -/
theorem readDigits_eq_ok_iff (pos : 0 < radix) (few : radix ≤ 16) {cs : List Char} {value n : Nat}
    (within : value ≤ bound) :
    readDigits radix bound value cs = .ok n ↔
      ∃ digits, List.Forall₂ (IsDigit radix) cs digits ∧ extend radix digits value = n ∧
        n ≤ bound := by
  induction cs generalizing value with
  | nil =>
      rw [readDigits]
      constructor
      · intro read
        obtain rfl := Except.ok.inj read
        exact ⟨[], .nil, rfl, within⟩
      · rintro ⟨digits, all, rfl, -⟩
        cases all
        rfl
  | cons c cs ih =>
      rw [readDigits]
      cases first : digitValue radix c with
      | none =>
          constructor
          · intro read
            nomatch read
          · rintro ⟨digits, all, -⟩
            cases all with
            | cons head rest =>
                rw [isDigit_iff few, first] at head
                nomatch head
      | some digit =>
          have is := (isDigit_iff few).mpr first
          by_cases next : value * radix + digit ≤ bound
          · dsimp only
            rw [if_pos next, ih next]
            constructor
            · rintro ⟨digits, all, rest⟩
              exact ⟨digit :: digits, .cons is all, rest⟩
            · rintro ⟨digits, all, rest⟩
              cases all with
              | cons head all =>
                  rw [isDigit_iff few, first] at head
                  obtain rfl := Option.some.inj head
                  exact ⟨_, all, rest⟩
          · dsimp only
            rw [if_neg next]
            constructor
            · intro read
              nomatch read
            · rintro ⟨digits, all, rfl, fits⟩
              cases all with
              | @cons _ other _ digits head all =>
                  rw [isDigit_iff few, first] at head
                  obtain rfl := Option.some.inj head
                  exact absurd ((le_extend pos digits _).trans fits) next

theorem readDigits_zero (pos : 0 < radix) (few : radix ≤ 16) {cs : List Char} (some : cs ≠ [])
    {n : Nat} : readDigits radix bound 0 cs = .ok n ↔ Denotes radix cs n ∧ n ≤ bound := by
  rw [readDigits_eq_ok_iff pos few (Nat.zero_le bound), Denotes]
  simp only [extend_zero, and_iff_right some, ← and_assoc, exists_and_right]

theorem not_denotes_nil (n : Nat) : ¬Denotes radix [] n := fun denotes => denotes.1 rfl

theorem not_denotes_plus (few : radix ≤ 16) (cs : List Char) (n : Nat) :
    ¬Denotes radix ('+' :: cs) n := by
  rintro ⟨-, digits, all, -⟩
  cases all with
  | cons head rest =>
      rw [isDigit_iff few] at head
      nomatch head

theorem denotesSigned_plus (few : radix ≤ 16) (cs : List Char) (n : Nat) :
    DenotesSigned radix ('+' :: cs) n ↔ Denotes radix cs n := by
  constructor
  · rintro (plain | ⟨digits, split, denotes⟩)
    · exact absurd plain (not_denotes_plus few cs n)
    · obtain rfl := (List.cons.inj split).2
      exact denotes
  · exact fun denotes => Or.inr ⟨cs, rfl, denotes⟩

theorem denotesSigned_of_plain {cs : List Char} (plain : ∀ digits, cs ≠ '+' :: digits) (n : Nat) :
    DenotesSigned radix cs n ↔ Denotes radix cs n :=
  or_iff_left fun ⟨digits, signed, _⟩ => plain digits signed

/-- **A numeral is read exactly if it is a number within the bound, and as that number.** -/
theorem readNumeral_eq_ok_iff (pos : 0 < radix) (few : radix ≤ 16) {cs : List Char} {n : Nat} :
    readNumeral radix bound cs = .ok n ↔ DenotesSigned radix cs n ∧ n ≤ bound := by
  have refused {cause : NumeralError} {P : Prop} (never : ¬P) :
      (Except.error cause : Except NumeralError Nat) = .ok n ↔ P ∧ n ≤ bound :=
    ⟨nofun, fun h => absurd h.1 never⟩
  unfold readNumeral
  split
  · rw [denotesSigned_of_plain fun _ => (List.cons_ne_nil _ _).symm]
    exact refused (not_denotes_nil n)
  · rw [denotesSigned_plus few]
    exact refused (not_denotes_nil n)
  · rename_i digits filled
    rw [denotesSigned_plus few]
    exact readDigits_zero pos few filled
  · rename_i filled _ unsigned
    rw [denotesSigned_of_plain unsigned]
    exact readDigits_zero pos few filled

end Reading
end Text

/-! ### Identities -/

namespace Identity

open Text (Blank Trimmed DenotesSigned)

/-- A text without white space around it spells a number: in hexadecimal digits behind `0x` or
`0X`, or in decimal digits, with a plus sign in front of them if one likes. -/
def Spells (cs : List Char) (n : Nat) : Prop :=
  (∃ x digits, (x = 'x' ∨ x = 'X') ∧ cs = '0' :: x :: digits ∧ DenotesSigned 16 digits n) ∨
    DenotesSigned 10 cs n

/-- What a prefix introduces is no decimal number. -/
theorem not_decimal_of_marked {x : Char} (mark : x = 'x' ∨ x = 'X') (digits : List Char) (n : Nat) :
    ¬DenotesSigned 10 ('0' :: x :: digits) n := by
  rw [Text.denotesSigned_of_plain fun _ same => absurd (List.cons.inj same).1 (by decide)]
  rintro ⟨-, values, all, -⟩
  cases all with
  | cons _ all =>
      cases all with
      | cons second _ =>
          rw [Text.isDigit_iff (by decide)] at second
          rcases mark with rfl | rfl <;> nomatch second

theorem spells_prefixed {x : Char} (mark : x = 'x' ∨ x = 'X') (digits : List Char) (n : Nat) :
    Spells ('0' :: x :: digits) n ↔ DenotesSigned 16 digits n := by
  constructor
  · rintro (⟨_, _, -, same, denotes⟩ | decimal)
    · obtain ⟨-, rfl⟩ := List.cons.inj (List.cons.inj same).2
      exact denotes
    · exact absurd decimal (not_decimal_of_marked mark digits n)
  · exact fun denotes => Or.inl ⟨x, digits, mark, rfl, denotes⟩

theorem readValue_eq_ok_iff {cs : List Char} {n : Nat} :
    readValue cs = .ok n ↔ Spells cs n ∧ n ≤ 255 := by
  unfold readValue
  split
  · rw [Text.readNumeral_eq_ok_iff (by decide) (by decide), spells_prefixed (Or.inl rfl)]
  · rw [Text.readNumeral_eq_ok_iff (by decide) (by decide), spells_prefixed (Or.inr rfl)]
  · rename_i small large
    rw [Text.readNumeral_eq_ok_iff (by decide) (by decide), Spells, or_iff_right]
    rintro ⟨x, digits, rfl | rfl, same, -⟩
    · exact small digits same
    · exact large digits same

theorem toList_render (id : Identity) :
    id.render.toList = ['0', 'x', Text.hexDigit (id.byte.toNat / 16 % 16),
      Text.hexDigit (id.byte.toNat % 16)] := by
  rw [render, Text.hex, String.toList_ofList]
  rfl

/-- What is written for an identity spells it. -/
theorem spells_render (id : Identity) : Spells id.render.toList id.byte.toNat := by
  have few := id.byte.toNat_lt
  have high := Text.digitValue_hexDigit (id.byte.toNat / 16 % 16) (by omega)
  have low := Text.digitValue_hexDigit (id.byte.toNat % 16) (by omega)
  rw [← Text.isDigit_iff (by decide)] at high low
  rw [id.toList_render, spells_prefixed (Or.inl rfl)]
  refine Or.inl ⟨List.cons_ne_nil _ _, _, .cons high (.cons low .nil), ?_⟩
  simp only [List.reverse_cons, List.reverse_nil, List.nil_append, List.cons_append,
    Nat.ofDigits_cons, Nat.ofDigits_nil, Nat.mul_zero, Nat.add_zero]
  omega

/-- What is written for an identity has no white space at its ends. -/
theorem trimmed_render (id : Identity) {before behind : List Char} (blank : Blank before)
    (blank' : Blank behind) : Trimmed (before ++ id.render.toList ++ behind) id.render.toList := by
  have solid : ∀ d < 16, Text.isBlank (Text.hexDigit d) = false := by decide
  refine ⟨⟨before, behind, blank, blank', rfl⟩, ?_, ?_⟩
  · rw [id.toList_render]
    rintro c ⟨⟩
    rfl
  · rw [id.toList_render]
    rintro c ⟨⟩
    exact solid _ (Nat.mod_lt _ (by decide))

variable {text : String} {core : List Char}

theorem read_of_value (trimmed : Trimmed text.toList core) {n : Nat}
    (value : readValue core = .ok n) : read text = .ok ⟨UInt8.ofNat n⟩ := by
  simp only [read, Text.trim_of_trimmed trimmed, value]

theorem read_of_refused (trimmed : Trimmed text.toList core) {cause : Text.NumeralError}
    (refused : readValue core = .error cause) :
    read text = .error ⟨String.ofList core, cause⟩ := by
  simp only [read, Text.trim_of_trimmed trimmed, refused]

theorem read_of_spells (trimmed : Trimmed text.toList core) {id : Identity}
    (spells : Spells core id.byte.toNat) : read text = .ok id := by
  have fits : id.byte.toNat ≤ 255 := Nat.le_of_lt_succ id.byte.toNat_lt
  rw [read_of_value trimmed (readValue_eq_ok_iff.mpr ⟨spells, fits⟩), UInt8.ofNat_toNat]

theorem spells_of_read (trimmed : Trimmed text.toList core) {id : Identity}
    (names : read text = .ok id) : Spells core id.byte.toNat := by
  cases value : readValue core with
  | error cause =>
      rw [read_of_refused trimmed value] at names
      nomatch names
  | ok n =>
      obtain ⟨spells, fits⟩ := readValue_eq_ok_iff.mp value
      rw [read_of_value trimmed value] at names
      obtain rfl := Except.ok.inj names
      rwa [UInt8.toNat_ofNat', Nat.mod_eq_of_lt (by omega)]

/--
**A text names an identity exactly if it spells a number that fits a byte.**

What counts is the text without the white space around it, which there is exactly one of.  A text
that spells no such number is refused, and the refusal quotes what counts.  What is written for an
identity names it, in any white space.
-/
theorem names_spelled (text : String) :
    ∃ core, (∀ other, Trimmed text.toList other ↔ other = core) ∧
      (∀ id, read text = .ok id ↔ Spells core id.byte.toNat) ∧
      ((∀ n ≤ 255, ¬Spells core n) → ∃ cause,
        read text = .error ⟨String.ofList core, cause⟩ ∧
          ReadError.message ⟨String.ofList core, cause⟩ =
            "invalid device id '" ++ String.ofList core ++ "': " ++ cause.message) ∧
      ∀ id before behind, Blank before → Blank behind →
        text.toList = before ++ id.render.toList ++ behind → read text = .ok id := by
  have trimmed := Text.trimmed_trim text.toList
  refine ⟨Text.trim text.toList, fun other => ?_, fun id => ?_, fun unspelled => ?_, ?_⟩
  · rw [Text.trimmed_iff, eq_comm]
  · exact ⟨spells_of_read trimmed, read_of_spells trimmed⟩
  · cases value : readValue (Text.trim text.toList) with
    | error cause => exact ⟨cause, read_of_refused trimmed value, rfl⟩
    | ok n =>
        obtain ⟨spells, fits⟩ := readValue_eq_ok_iff.mp value
        exact absurd spells (unspelled n fits)
  · intro id before behind blank blank' written
    have inside := trimmed_render id blank blank'
    rw [← written] at inside
    exact read_of_spells inside (spells_render id)

/-- A wide space, a capital mark, a plus sign and zeros in front do not matter, a value does. -/
theorem names_spelled_padded : read "\u3000 0X+0004f\n" = .ok ⟨79⟩ ∧
    ∃ cause, read " 0x100\t" = .error ⟨"0x100", cause⟩ := by
  constructor
  · obtain ⟨core, only, names, -, -⟩ := names_spelled "\u3000 0X+0004f\n"
    have found : ['0', 'X', '+', '0', '0', '0', '4', 'f'] = core := by
      rw [← only]
      exact ⟨⟨['\u3000', ' '], ['\n'], by decide, by decide, by decide⟩,
        by rintro _ ⟨⟩; decide, by rintro _ ⟨⟩; decide⟩
    have digits : Text.Denotes 16 ['0', '0', '0', '4', 'f'] 79 :=
      ⟨by decide, [0, 0, 0, 4, 15], by decide, by decide⟩
    rw [names, ← found]
    exact Or.inl ⟨'X', _, Or.inr rfl, rfl, Or.inr ⟨_, rfl, digits⟩⟩
  · obtain ⟨core, only, -, refuses, -⟩ := names_spelled " 0x100\t"
    obtain rfl : ['0', 'x', '1', '0', '0'] = core := by
      rw [← only]
      exact ⟨⟨[' '], ['\t'], by decide, by decide, by decide⟩,
        by rintro _ ⟨⟩; decide, by rintro _ ⟨⟩; decide⟩
    have large : readValue ['0', 'x', '1', '0', '0'] = .error .tooLarge := rfl
    obtain ⟨cause, refused, -⟩ := refuses fun n fits spells => by
      rw [readValue_eq_ok_iff.mpr ⟨spells, fits⟩] at large
      nomatch large
    exact ⟨cause, refused⟩

end Identity
end FieldbusNode
