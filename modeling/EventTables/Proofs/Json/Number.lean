import EventTables.Json.Token

/-!
# Numbers in Text

A whole number that is written is read as the same number.

A number goes on for as long as there are digits, so where it ends depends on what
follows it. Behind a value in a document stands a comma, a bracket or a brace, or
nothing at all (`Token.Follows`), and none of these prolongs a number. The digits
of a number have no needless zero in front, and taking them in one after another
gives the number again as long as it has room in 64 bits.

## Main definitions

* `Token.Follows`: What may stand behind a value.

## Theorems

* `takeDigits_append`: Digits are taken up to what is no digit.
* `numeral_decimal`: The digits of a number make a numeral.
* `value?_natural`, `value?_negative`: The numeral stands for the number.
* `tokens_natural`, `tokens_negative`: The text is a token.
-/

namespace EventTables

namespace Json

/-! ### Digits -/

theorem digitValue_digitChar {d : Nat} (h : d < 10) : Text.digitValue d.digitChar = d :=
  Nat.toNat_digitChar_sub_48_of_lt_ten h

theorem decimal_of_lt {n : Nat} (h : n < 10) : Text.decimal n = [n.digitChar] :=
  Nat.toDigits_of_lt_base h

theorem decimal_of_le {n : Nat} (h : 10 ≤ n) :
    Text.decimal n = Text.decimal (n / 10) ++ [(n % 10).digitChar] :=
  Nat.toDigits_of_base_le (by decide) h

theorem isDigit_decimal (n : Nat) (c : Char) (hc : c ∈ Text.decimal n) : c.isDigit = true :=
  Nat.isDigit_of_mem_toDigits (by decide) (by decide) hc

theorem decimal_ne_nil (n : Nat) : Text.decimal n ≠ [] :=
  Nat.toDigits_ne_nil

-- The first digit of a number is that of its tenth part.
theorem head?_decimal_ne (n : Nat) (h : 0 < n) : (Text.decimal n).head? ≠ some '0' := by
  induction n using Nat.strongRecOn with
  | ind n ih =>
      by_cases hn : n < 10
      · rw [decimal_of_lt hn, List.head?_cons, ne_eq, Option.some.injEq, Nat.digitChar_eq_zero]
        omega
      · have htenth := ih (n / 10) (by omega) (by omega)
        rw [decimal_of_le (by omega), List.head?_append]
        rcases hhead : (Text.decimal (n / 10)).head? with _ | c
        · exact absurd (List.head?_eq_none_iff.mp hhead) (decimal_ne_nil _)
        · rwa [hhead] at htenth

theorem decimal_eq_cons_zero {n : Nat} {d : Char} {ds : List Char} :
    Text.decimal n ≠ '0' :: d :: ds := by
  intro h
  rcases Nat.eq_zero_or_pos n with rfl | hpos
  · rw [decimal_of_lt (by decide)] at h
    exact nomatch h
  · exact head?_decimal_ne n hpos (congrArg List.head? h)

/-! ### Numerals -/

namespace Token

/-- What may stand behind a value: a comma, a bracket or brace that closes, or
    nothing. -/
def Follows (rest : List Glyph) : Prop :=
  ∀ g, rest.head? = some g → g = some ',' ∨ g = some ']' ∨ g = some '\x7d'

theorem takeDigits_of_follows (rest : List Glyph) (h : Follows rest) :
    takeDigits rest = ([], rest) := by
  rcases rest with _ | ⟨g, rest⟩
  · rfl
  · rcases h g rfl with rfl | rfl | rfl <;> rfl

theorem takeDigits_append (ds : List Char) (rest : List Glyph)
    (hds : ∀ c ∈ ds, c.isDigit = true) (hrest : Follows rest) :
    takeDigits (ds.map some ++ rest) = (ds, rest) := by
  induction ds with
  | nil => exact takeDigits_of_follows rest hrest
  | cons d ds ih =>
      rcases List.forall_mem_cons.mp hds with ⟨hd, hds⟩
      rw [List.map_cons, List.cons_append, takeDigits, if_pos hd, ih hds]

theorem wholeDigits_decimal (n : Nat) (rest : List Glyph) (hrest : Follows rest) :
    wholeDigits ((Text.decimal n).map some ++ rest) = .ok (Text.decimal n, rest) := by
  rw [wholeDigits, takeDigits_append _ rest (isDigit_decimal n) hrest]
  split
  · next h => exact absurd (congrArg Prod.fst h) (decimal_ne_nil n)
  · next h => exact absurd (congrArg Prod.fst h) decimal_eq_cons_zero
  · next h => rw [h]

/-- The digits of a number make a numeral without point and exponent. -/
theorem numeral_decimal (minus : Bool) (n : Nat) (rest : List Glyph) (hrest : Follows rest) :
    numeral minus ((Text.decimal n).map some ++ rest) =
      .ok (⟨minus, Text.decimal n, none, none⟩, rest) := by
  have hfraction : fractionDigits rest = .ok (none, rest) := by
    rcases rest with _ | ⟨g, rest⟩
    · rfl
    · rcases hrest g rfl with rfl | rfl | rfl <;> rfl
  have hexponent : exponentDigits rest = .ok (none, rest) := by
    rcases rest with _ | ⟨g, rest⟩
    · rfl
    · rcases hrest g rfl with rfl | rfl | rfl <;> rfl
  simp only [numeral, wholeDigits_decimal n rest hrest, hfraction, hexponent, bind, Except.bind,
    pure, Except.pure]

end Token

namespace Numeral

/-- The digits of a number of 64 bits all find room, and give the number. -/
theorem foldl_add_decimal (n : Nat) (h : n < UInt64.size) :
    (Text.decimal n).foldl Gathered.add ⟨0, 0, 0⟩ = ⟨n, (Text.decimal n).length, 0⟩ := by
  induction n using Nat.strongRecOn with
  | ind n ih =>
      by_cases hn : n < 10
      · simp only [decimal_of_lt hn, List.foldl_cons, List.foldl_nil, Gathered.add,
          digitValue_digitChar hn, Nat.mul_zero, Nat.zero_add, h, and_self, if_true,
          List.length_singleton]
      · have hdigit : n % 10 < 10 := Nat.mod_lt n (by decide)
        have hsum : 10 * (n / 10) + n % 10 = n := Nat.div_add_mod n 10
        rw [decimal_of_le (by omega), List.foldl_append, ih (n / 10) (by omega) (by omega),
          List.foldl_cons, List.foldl_nil, Gathered.add, digitValue_digitChar hdigit,
          List.length_append]
        simp only [hsum, h, and_self, if_true, List.length_singleton]

theorem value?_natural (n : UInt64) :
    (⟨false, Text.decimal n.toNat, none, none⟩ : Numeral).value? = some (.natural n) := by
  simp only [value?, foldl_add_decimal n.toNat n.toNat_lt, Option.isSome_none, Bool.false_eq_true,
    ne_eq, not_true_eq_false, or_self, if_false, if_true, UInt64.ofNat_toNat]

theorem value?_negative (m : Fin negativeCount) :
    (⟨true, Text.decimal (m.val + 1), none, none⟩ : Numeral).value? = some (.negative m) := by
  have hsize : m.val + 1 < UInt64.size := Nat.lt_trans (Nat.succ_lt_succ m.isLt) (by decide)
  simp only [value?, foldl_add_decimal _ hsize, Option.isSome_none, Bool.false_eq_true, ne_eq,
    not_true_eq_false, or_self, if_false, reduceCtorEq, Nat.add_one_sub_one, m.isLt,
    Nat.add_one_ne_zero, not_false_eq_true, and_self, dif_pos]

end Numeral

/-! ### Tokens -/

theorem tokens_cons {g : Glyph} {gs rest : List Glyph} {t : Token} (hblank : isBlank g = false)
    (hnext : Token.next g gs = (t, rest)) : tokens (g :: gs) = t :: tokens rest := by
  rw [tokens, if_neg (by rw [hblank]; exact Bool.false_ne_true), hnext]

theorem ne_of_isDigit {c d : Char} (h : c.isDigit = true) (hd : d.isDigit = false) : c ≠ d :=
  fun heq => by
    rw [heq, hd] at h
    exact nomatch h

theorem isBlank_of_isDigit {c : Char} (h : c.isDigit = true) : isBlank (some c) = false := by
  have hspace : c ≠ ' ' := ne_of_isDigit h rfl
  have hline : c ≠ '\n' := ne_of_isDigit h rfl
  have htab : c ≠ '\t' := ne_of_isDigit h rfl
  have hreturn : c ≠ '\r' := ne_of_isDigit h rfl
  simp only [isBlank, hspace, hline, htab, hreturn, decide_false, Bool.or_self]

-- A digit is none of the marks and letters that begin other tokens.
theorem next_of_isDigit {c : Char} (h : c.isDigit = true) (gs : List Glyph) :
    Token.next (some c) gs = Token.numberToken false (some c :: gs) := by
  unfold Token.next
  split
  case h_12 heq =>
    rw [if_pos (Option.some.inj heq ▸ h)]
  case h_13 heq => exact nomatch heq
  all_goals exact absurd (Option.some.inj ‹some c = some _›) (ne_of_isDigit h rfl)

theorem tokens_natural (n : UInt64) (rest : List Glyph) (hrest : Token.Follows rest) :
    tokens ((Number.natural n).digits.map some ++ rest) =
      .number (some (.natural n)) :: tokens rest := by
  have hnumeral := Token.numeral_decimal false n.toNat rest hrest
  have hdigits := isDigit_decimal n.toNat
  have hvalue := Numeral.value?_natural n
  rw [Number.digits]
  rcases hdecimal : Text.decimal n.toNat with _ | ⟨d, ds⟩
  · exact absurd hdecimal (decimal_ne_nil _)
  · rw [hdecimal] at hnumeral hdigits hvalue
    have hd := hdigits d List.mem_cons_self
    rw [List.map_cons, List.cons_append] at hnumeral ⊢
    refine tokens_cons (isBlank_of_isDigit hd) ?_
    rw [next_of_isDigit hd, Token.numberToken, hnumeral]
    exact congrArg (fun n => (Token.number n, rest)) hvalue

theorem tokens_negative (m : Fin negativeCount) (rest : List Glyph)
    (hrest : Token.Follows rest) :
    tokens ((Number.negative m).digits.map some ++ rest) =
      .number (some (.negative m)) :: tokens rest := by
  refine tokens_cons rfl ?_
  change Token.numberToken true ((Text.decimal (m.val + 1)).map some ++ rest) = _
  rw [Token.numberToken, Token.numeral_decimal true (m.val + 1) rest hrest]
  exact congrArg (fun n => (Token.number n, rest)) (Numeral.value?_negative m)

end Json

end EventTables
