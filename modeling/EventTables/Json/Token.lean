import EventTables.Json.Quoted

/-!
# JSON Tokens

The words, numbers, strings and marks of a JSON text.

A text is cut into tokens from the left until it ends or breaks off. What does
not make a token is a token as well, of its own kind, and always the last one:
wherever it stands in the document it is a fault there, but which fault depends
on what was due at that place.

The same break may be reported in two ways, according to whether the part of
the document it lies in is kept or passed over. A `Breach` holds both.

## Main definitions

* `Breach`: The fault of a break, for a reader that keeps and one that skips.
* `Token`: A word, number, string or mark, or a break.
* `Token.next`: The first token of a text that does not begin with a blank.
* `tokens`: The tokens of a text.

## Theorems

* `Token.length_next_le`: What follows a token is shorter than what began with
  it.
-/

namespace EventTables

namespace Json

/-- What is reported of a place where the text stops being JSON. -/
structure Breach where
  /-- The fault in a part that is kept. -/
  reading : Fault
  /-- The fault in a part that is passed over. -/
  skipping : Fault
deriving DecidableEq

/-- The breach that is the same fault in all parts. -/
def Fault.anywhere (f : Fault) : Breach := ⟨f, f⟩

/-- A word, number, string or mark. -/
inductive Token where
  | openArray
  | closeArray
  | openObject
  | closeObject
  | colon
  | comma
  | null
  | boolean (b : Bool)
  /-- A number, or a double beyond the largest. -/
  | number (n : Option Number)
  /-- A string up to its closing quote: its text, or why it cannot be kept. -/
  | string (s : Except Fault String)
  /-- A string that breaks off. -/
  | brokenString (b : Breach)
  /-- Anything else that makes no token. -/
  | broken (b : Breach)

namespace Token

/-- The digits that a text begins with, and what follows them. -/
def takeDigits : List Glyph → List Char × List Glyph
  | some c :: rest =>
    if c.isDigit then
      let (digits, rest) := takeDigits rest
      (c :: digits, rest)
    else ([], some c :: rest)
  | gs => ([], gs)

/-- The breach of a numeral that lacks a digit before the text given. -/
def noDigit : List Glyph → Breach
  | [] => ⟨.endInValue, .badNumber⟩
  | _ => ⟨.badNumber, .badNumber⟩

/-- The digits before the point. A zero stands alone. -/
def wholeDigits (gs : List Glyph) : Except Breach (List Char × List Glyph) :=
  match takeDigits gs with
  | ([], rest) => .error (noDigit rest)
  | ('0' :: _ :: _, _) => .error ⟨.badNumber, .badNumber⟩
  | (digits, rest) => .ok (digits, rest)

/-- The point and the digits after it, if there is a point. -/
def fractionDigits : List Glyph → Except Breach (Option (List Char) × List Glyph)
  | some '.' :: gs =>
    match takeDigits gs with
    | ([], rest) => .error (noDigit rest)
    | (digits, rest) => .ok (some digits, rest)
  | gs => .ok (none, gs)

/-- A sign, and whether it is a minus. -/
def exponentSign : List Glyph → Bool × List Glyph
  | some '-' :: gs => (true, gs)
  | some '+' :: gs => (false, gs)
  | gs => (false, gs)

/-- The exponent, if there is one. -/
def exponentDigits (gs : List Glyph) : Except Breach (Option (Bool × List Char) × List Glyph) :=
  match gs with
  | some 'e' :: more | some 'E' :: more =>
    let (minus, more) := exponentSign more
    match takeDigits more with
    | ([], rest) => .error (noDigit rest)
    | (digits, rest) => .ok (some (minus, digits), rest)
  | gs => .ok (none, gs)

/-- A number that begins after the minus sign, if it has one. -/
def numeral (minus : Bool) (gs : List Glyph) : Except Breach (Numeral × List Glyph) := do
  let (whole, gs) ← wholeDigits gs
  let (fraction, gs) ← fractionDigits gs
  let (exponent, gs) ← exponentDigits gs
  return (⟨minus, whole, fraction, exponent⟩, gs)

/-- The token of a number that begins after the minus sign. -/
def numberToken (minus : Bool) (gs : List Glyph) : Token × List Glyph :=
  match numeral minus gs with
  | .ok (n, rest) => (.number n.value?, rest)
  | .error b => (.broken b, [])

/-- The token of a word whose other letters are due. -/
def wordToken (t : Token) : List Char → List Glyph → Token × List Glyph
  | [], gs => (t, gs)
  | _ :: _, [] => (.broken Fault.endInValue.anywhere, [])
  | c :: cs, g :: gs =>
    if g = some c then wordToken t cs gs else (.broken Fault.wordExpected.anywhere, [])

/-- The token of a string that begins after its opening quote. -/
def stringToken (gs : List Glyph) : Token × List Glyph :=
  let s := Quoted.scan gs
  match s.ending.fault?, s.text with
  | none, text => (.string text, s.rest)
  | some f, .error e => (.brokenString ⟨e, f⟩, [])
  | some f, .ok _ => (.brokenString f.anywhere, [])

/-- The token that begins with the glyph, and what follows it. -/
def next (g : Glyph) (rest : List Glyph) : Token × List Glyph :=
  match g with
  | some '[' => (.openArray, rest)
  | some ']' => (.closeArray, rest)
  | some '\x7b' => (.openObject, rest)
  | some '\x7d' => (.closeObject, rest)
  | some ':' => (.colon, rest)
  | some ',' => (.comma, rest)
  | some 'n' => wordToken .null ['u', 'l', 'l'] rest
  | some 't' => wordToken (.boolean true) ['r', 'u', 'e'] rest
  | some 'f' => wordToken (.boolean false) ['a', 'l', 's', 'e'] rest
  | some '\"' => stringToken rest
  | some '-' => numberToken true rest
  | some c =>
    if c.isDigit then numberToken false (g :: rest)
    else (.broken Fault.valueExpected.anywhere, [])
  | none => (.broken Fault.valueExpected.anywhere, [])

/-! ### What follows a token -/

theorem length_takeDigits (gs : List Glyph) :
    (takeDigits gs).1.length + (takeDigits gs).2.length = gs.length := by
  induction gs with
  | nil => rfl
  | cons g gs ih =>
    cases g with
    | none => simp only [takeDigits, List.length_nil, Nat.zero_add]
    | some c =>
      simp only [takeDigits]
      split
      · simp only [List.length_cons]
        omega
      · simp only [List.length_nil, Nat.zero_add]

theorem length_wholeDigits_lt {gs rest : List Glyph} {digits : List Char}
    (h : wholeDigits gs = .ok (digits, rest)) : rest.length < gs.length := by
  have hlen := length_takeDigits gs
  unfold wholeDigits at h
  split at h
  · exact absurd h (by simp only [reduceCtorEq, not_false_eq_true])
  · exact absurd h (by simp only [reduceCtorEq, not_false_eq_true])
  · next digits' rest' hne _ heq =>
    simp only [Except.ok.injEq, Prod.mk.injEq] at h
    rw [heq, h.1, h.2] at hlen
    have hpos : digits ≠ [] := fun hd => hne (h.1.trans hd)
    have := List.length_pos_iff.mpr hpos
    simp only at hlen
    omega

theorem length_fractionDigits_le {gs rest : List Glyph} {digits : Option (List Char)}
    (h : fractionDigits gs = .ok (digits, rest)) : rest.length ≤ gs.length := by
  unfold fractionDigits at h
  split at h
  · next more =>
    have hlen := length_takeDigits more
    split at h
    · exact absurd h (by simp only [reduceCtorEq, not_false_eq_true])
    · next heq =>
      simp only [Except.ok.injEq, Prod.mk.injEq] at h
      rw [heq, h.2] at hlen
      simp only [List.length_cons] at hlen ⊢
      omega
  · simp only [Except.ok.injEq, Prod.mk.injEq] at h
    exact Nat.le_of_eq (by rw [h.2])

theorem length_exponentSign_le (gs : List Glyph) : (exponentSign gs).2.length ≤ gs.length := by
  unfold exponentSign
  split <;> simp only [List.length_cons, Nat.le_succ, Nat.le_refl]

theorem length_exponentDigits_le {gs rest : List Glyph} {e : Option (Bool × List Char)}
    (h : exponentDigits gs = .ok (e, rest)) : rest.length ≤ gs.length := by
  unfold exponentDigits at h
  split at h
  all_goals
    try
      simp only [Except.ok.injEq, Prod.mk.injEq] at h
      exact Nat.le_of_eq (by rw [h.2])
  all_goals
    next more =>
      have hsign := length_exponentSign_le more
      have hlen := length_takeDigits (exponentSign more).2
      simp only at h
      split at h
      · exact absurd h (by simp only [reduceCtorEq, not_false_eq_true])
      · next heq =>
        simp only [Except.ok.injEq, Prod.mk.injEq] at h
        rw [heq, h.2] at hlen
        simp only [List.length_cons] at hlen ⊢
        omega

theorem length_numberToken_lt {minus : Bool} {gs : List Glyph} (hne : gs ≠ []) :
    (numberToken minus gs).2.length < gs.length := by
  have hpos := List.length_pos_iff.mpr hne
  unfold numberToken numeral
  cases hw : wholeDigits gs with
  | error b => exact hpos
  | ok w =>
    have h₁ := length_wholeDigits_lt hw
    cases hf : fractionDigits w.2 with
    | error b => simp only [hf, bind, Except.bind]; exact hpos
    | ok f =>
      have h₂ := length_fractionDigits_le hf
      cases he : exponentDigits f.2 with
      | error b => simp only [hf, he, bind, Except.bind]; exact hpos
      | ok e =>
        have h₃ := length_exponentDigits_le he
        simp only [hf, he, bind, Except.bind, pure, Except.pure]
        omega

theorem length_wordToken_le (t : Token) (cs : List Char) (gs : List Glyph) :
    (wordToken t cs gs).2.length ≤ gs.length := by
  induction cs generalizing gs with
  | nil => simp only [wordToken, Nat.le_refl]
  | cons c cs ih =>
    cases gs with
    | nil => simp only [wordToken, Nat.le_refl]
    | cons g gs =>
      simp only [wordToken]
      split
      · exact Nat.le_succ_of_le (ih gs)
      · exact Nat.zero_le _

theorem length_scan_le (gs : List Glyph) : (Quoted.scan gs).rest.length ≤ gs.length := by
  fun_induction Quoted.scan gs <;>
    simp only [Quoted.Scanned.push, List.length_cons, List.length_nil] at * <;> omega

theorem length_stringToken_le (gs : List Glyph) : (stringToken gs).2.length ≤ gs.length := by
  unfold stringToken
  simp only
  split
  · exact length_scan_le gs
  · exact Nat.zero_le _
  · exact Nat.zero_le _

/-- What follows a token is shorter than the text the token began. -/
theorem length_next_le (g : Glyph) (rest : List Glyph) : (next g rest).2.length ≤ rest.length := by
  unfold next
  split
  all_goals
    first
    | exact Nat.le_refl _
    | exact length_wordToken_le _ _ rest
    | exact length_stringToken_le rest
    | skip
  · rcases rest with _ | ⟨a, more⟩
    · exact Nat.le_refl _
    · exact Nat.le_of_lt (length_numberToken_lt (by simp only [ne_eq, reduceCtorEq,
        not_false_eq_true]))
  · next c _ _ _ _ _ _ _ _ _ _ _ =>
    split
    · exact Nat.lt_succ_iff.mp (length_numberToken_lt (by simp only [ne_eq, reduceCtorEq,
        not_false_eq_true]))
    · exact Nat.zero_le _
  · exact Nat.zero_le _

end Token

/-- The glyph is one of the four blanks that may stand between tokens. -/
def isBlank : Glyph → Bool
  | some c => c = ' ' || c = '\n' || c = '\t' || c = '\r'
  | none => false

/-- The tokens of a text. -/
def tokens : List Glyph → List Token
  | [] => []
  | g :: rest =>
    if isBlank g then tokens rest
    else (Token.next g rest).1 :: tokens (Token.next g rest).2
termination_by gs => gs.length
decreasing_by
  · simp only [List.length_cons, Nat.lt_add_one]
  · exact Nat.lt_succ_of_le (Token.length_next_le g rest)

end Json

end EventTables
