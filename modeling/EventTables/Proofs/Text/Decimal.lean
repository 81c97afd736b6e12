import EventTables.Text.Digits
import Mathlib.Data.Nat.Digits.Defs

/-!
# Numbers as Texts

A number of 64 bits that is printed is read as the same number.

The digits of a number are the core library's, which also knows how to go back. What is
left to say is that the reader gets to them: there is at least one, none of them is a plus
sign, and the number they stand for has room in 64 bits because it had before.

What is printed is not all that is read. A number has numerals with any number of zeros in
front, and with a plus sign or without (`IsNumeral`). The reader takes digits in from the
front, where a digit's weight is not known yet, and `digitsValue_eq_ofDigits` says that this
comes to giving every digit the weight of its place. A text that is read is a numeral, and
a numeral that is not read stands for a number that has no room.

## Main definitions

* `IsNumeral`: The text is a numeral of the number.

## Theorems

* `digitsValue_decimal`: Digits stand for the number that they were made from.
* `digitsValue_eq_ofDigits`: Digits stand for the sum of their weights.
* `readUInt64_eq_some_iff`, `readUInt64_eq_none_iff`: Which texts are read, and as what.
* `readUInt64_decimal`: What is printed is read back.
-/

namespace EventTables

namespace Text

theorem digitsValue_decimal (n : Nat) : digitsValue (decimal n) = n := by
  have hback := Nat.ofDigitChars_toDigits (b := 10) (n := n) (by decide) (by decide)
  rwa [Nat.ofDigitChars_eq_foldl] at hback

/-! ### Numerals -/

/-- The text is a numeral of the number: decimal digits, one or more of them, the last of which
    counts ones, the one in front of it tens, and so on, with a plus sign or without. -/
def IsNumeral (s : String) (n : Nat) : Prop :=
  ∃ digits : List Char, digits ≠ [] ∧ (∀ c ∈ digits, '0' ≤ c ∧ c ≤ '9') ∧
    (s.toList = digits ∨ s.toList = '+' :: digits) ∧
    n = Nat.ofDigits 10 (digits.reverse.map digitValue)

theorem digitsValue_eq_ofDigits (digits : List Char) :
    digitsValue digits = Nat.ofDigits 10 (digits.reverse.map digitValue) := by
  rw [digitsValue, List.foldl_eq_foldr_reverse, Nat.ofDigits_eq_foldr, List.foldr_map]
  simp only [Nat.cast_id, Nat.add_comm]

theorem isDigit_iff (c : Char) : c.isDigit = true ↔ '0' ≤ c ∧ c ≤ '9' := by
  rw [Char.isDigit, Bool.and_eq_true, decide_eq_true_eq, decide_eq_true_eq]
  exact Iff.rfl

/-- A text is read as a number exactly if it is a numeral of it. -/
theorem readUInt64_eq_some_iff (s : String) (n : UInt64) :
    readUInt64 s = some n ↔ IsNumeral s n.toNat := by
  have hread : ∀ digits : List Char,
      (if digits ≠ [] ∧ digits.all Char.isDigit = true ∧ digitsValue digits < UInt64.size then
        some (UInt64.ofNat (digitsValue digits)) else none) = some n ↔
      digits ≠ [] ∧ (∀ c ∈ digits, '0' ≤ c ∧ c ≤ '9') ∧
        n.toNat = Nat.ofDigits 10 (digits.reverse.map digitValue) := by
    intro digits
    rw [Option.ite_none_right_eq_some, ← digitsValue_eq_ofDigits]
    simp only [List.all_eq_true, isDigit_iff, Option.some.injEq]
    constructor
    · rintro ⟨⟨hne, hdigits, hroom⟩, rfl⟩
      exact ⟨hne, hdigits, UInt64.toNat_ofNat_of_lt' hroom⟩
    · rintro ⟨hne, hdigits, hvalue⟩
      rw [← hvalue]
      exact ⟨⟨hne, hdigits, n.toNat_lt⟩, UInt64.ofNat_toNat⟩
  rw [readUInt64, IsNumeral]
  split
  · next rest hplus =>
    rw [hread]
    constructor
    · rintro ⟨hne, hdigits, hvalue⟩
      exact ⟨rest, hne, hdigits, Or.inr hplus, hvalue⟩
    · rintro ⟨digits, hne, hdigits, hs | hs, hvalue⟩
      · -- A plus sign is no digit.
        rw [← hs, hplus] at hdigits
        exact absurd (hdigits '+' List.mem_cons_self) (by decide)
      · rw [(List.cons.inj (hplus.symm.trans hs)).2]
        exact ⟨hne, hdigits, hvalue⟩
  · next hunsigned =>
    rw [hread]
    constructor
    · rintro ⟨hne, hdigits, hvalue⟩
      exact ⟨s.toList, hne, hdigits, Or.inl rfl, hvalue⟩
    · rintro ⟨digits, hne, hdigits, hs | hs, hvalue⟩
      · rw [hs]
        exact ⟨hne, hdigits, hvalue⟩
      · exact absurd hs (hunsigned digits)

/-- A number that is printed is read back: its digits are a numeral of it. -/
theorem readUInt64_decimal (n : UInt64) :
    readUInt64 (String.ofList (decimal n.toNat)) = some n := by
  refine (readUInt64_eq_some_iff _ n).mpr
    ⟨decimal n.toNat, Nat.toDigits_ne_nil, fun c hc => ?_, Or.inl String.toList_ofList, ?_⟩
  · exact (isDigit_iff c).mp (Nat.isDigit_of_mem_toDigits (by decide) (by decide) hc)
  · rw [← digitsValue_eq_ofDigits, digitsValue_decimal]

/-- A text is not read exactly if it is no numeral of a number that has room in 64 bits. -/
theorem readUInt64_eq_none_iff (s : String) :
    readUInt64 s = none ↔ ∀ n < 2 ^ 64, ¬ IsNumeral s n := by
  rw [Option.eq_none_iff_forall_ne_some]
  constructor
  · intro h n hn hnumeral
    rw [← UInt64.toNat_ofNat_of_lt' hn] at hnumeral
    exact h _ ((readUInt64_eq_some_iff s _).mpr hnumeral)
  · intro h n hread
    exact h n.toNat n.toNat_lt ((readUInt64_eq_some_iff s n).mp hread)

end Text

end EventTables
