import EventTables.Proofs.Json.Number
import Mathlib.Data.List.Forall2

/-!
# Strings in Text

A text that is written between quotes is read as the same text.

Every character is written as one piece: as itself, by the letter of an escape, or
by its number in hexadecimal digits. So the string is cut into as many pieces as
there are characters, and each of them spells the character it was written for
(`Piece.Spells`). Only control characters are written by numbers, and these are no
halves of a surrogate pair, so no two pieces are ever read together.

## Main definitions

* `Piece.Spells`: The piece that a character is written as.

## Theorems

* `scan_encodeChar`: A character becomes one piece.
* `scan_encode`: A text becomes its pieces.
* `glyphs_of_spells`: The pieces stand for the characters.
* `tokens_encode`: A text between quotes is a token.
-/

namespace EventTables

/-- Characters spell the text that is made of them. -/
theorem Glyph.text?_map_some (cs : List Char) :
    Glyph.text? (cs.map some) = some (String.ofList cs) := by
  have hall : (cs.map some).mapM id = some cs := by
    induction cs with
    | nil => rfl
    | cons c cs ih =>
        rw [List.map_cons, List.mapM_cons, ih]
        rfl
  rw [Glyph.text?, hall]
  rfl

namespace Json

namespace Quoted

/-- The piece as which a character is written. -/
def Piece.Spells (p : Piece) (c : Char) : Prop :=
  p = .glyph (some c) ∨ p = .unit c.toNat ∧ c.toNat < 32

theorem hexDigit?_digitChar (d : Fin 16) :
    hexDigit? (some (Nat.digitChar d.val)) = some d.val := by
  revert d
  decide

-- A control character has two digits of its own behind two zeros.
theorem unit?_digitChar (n : Nat) (h : n < 32) :
    unit? (some '0') (some '0') (some (Nat.digitChar (n / 16))) (some (Nat.digitChar (n % 16))) =
      some n := by
  have hzero : hexDigit? (some '0') = some 0 := rfl
  have hhigh := hexDigit?_digitChar ⟨n / 16, by omega⟩
  have hlow := hexDigit?_digitChar ⟨n % 16, by omega⟩
  simp only [unit?, hzero, hhigh, hlow, bind, Option.bind, pure, Option.some.injEq]
  omega

theorem scan_encodeChar (c : Char) (rest : List Glyph) :
    ∃ p : Piece, p.Spells c ∧
      scan ((encodeChar c).map some ++ rest) = (scan rest).push p := by
  unfold encodeChar
  split
  case h_8 hquote hslash _ _ _ _ _ =>
    split
    · next hcontrol =>
      refine ⟨.unit c.toNat, Or.inr ⟨rfl, hcontrol⟩, ?_⟩
      simp only [List.map_cons, List.map_nil, List.cons_append, List.nil_append, scan,
        unit?_digitChar c.toNat hcontrol]
    · next hcontrol =>
      refine ⟨.glyph (some c), Or.inl rfl, ?_⟩
      simp only [List.map_cons, List.map_nil, List.cons_append, List.nil_append]
      rw [scan]
      · exact if_neg hcontrol
      · exact hquote
      -- Only a backslash makes something of what follows it.
      all_goals
        intros
        exact hslash ‹_›
  all_goals exact ⟨_, Or.inl rfl, rfl⟩

/-- The string of a text ends at its quote and has one piece a character. -/
theorem scan_encode (cs : List Char) (rest : List Glyph) :
    ∃ ps : List Piece, List.Forall₂ Piece.Spells ps cs ∧
      scan ((cs.flatMap encodeChar).map some ++ some '\"' :: rest) = ⟨ps, .closed, rest⟩ := by
  induction cs with
  | nil => exact ⟨[], .nil, rfl⟩
  | cons c cs ih =>
      rcases ih with ⟨ps, hps, hscan⟩
      rcases scan_encodeChar c ((cs.flatMap encodeChar).map some ++ some '\"' :: rest) with
        ⟨p, hp, hchar⟩
      refine ⟨p :: ps, .cons hp hps, ?_⟩
      rw [List.flatMap_cons, List.map_append, List.append_assoc, hchar, hscan]
      rfl

-- The number of a control character is no half of a pair, so the piece after it is
-- read by itself.
theorem glyphs_unit (u : Nat) (hu : u < 32) (ps : List Piece) :
    glyphs .closed (.unit u :: ps) = (glyphs .closed ps).map (some (Char.ofNat u) :: ·) := by
  have htrailing : isTrailing u = false := by
    rw [isTrailing, decide_eq_false (by omega), Bool.false_and]
  have hleading : isLeading u = false := by
    rw [isLeading, decide_eq_false (by omega), Bool.false_and]
  rcases ps with _ | ⟨g | v, ps⟩ <;>
    simp only [glyphs, htrailing, hleading, Bool.false_eq_true, if_false]

theorem glyphs_of_spells (ps : List Piece) (cs : List Char)
    (h : List.Forall₂ Piece.Spells ps cs) : glyphs .closed ps = .ok (cs.map some) := by
  induction h with
  | nil => rfl
  | @cons p c ps cs hp _ ih =>
      rcases hp with rfl | ⟨rfl, hcontrol⟩
      · rw [glyphs, ih]
        rfl
      · rw [glyphs_unit _ hcontrol, ih, Char.ofNat_toNat]
        rfl

end Quoted

/-- A text between quotes is the token of that text. -/
theorem tokens_encode (s : String) (rest : List Glyph) :
    tokens ((Quoted.encode s).map some ++ rest) = .string (.ok s) :: tokens rest := by
  rcases Quoted.scan_encode s.toList rest with ⟨ps, hps, hscan⟩
  have htext : Quoted.Scanned.text ⟨ps, .closed, rest⟩ = .ok s := by
    rw [Quoted.Scanned.text, Quoted.glyphs_of_spells ps s.toList hps]
    simp only [bind, Except.bind, Glyph.text?_map_some, String.ofList_toList]
  have hstring : Token.stringToken
      ((s.toList.flatMap Quoted.encodeChar).map some ++ some '\"' :: rest) =
        (.string (.ok s), rest) := by
    simp only [Token.stringToken, hscan, Quoted.Ending.fault?, htext]
  have hcons : (Quoted.encode s).map some ++ rest =
      some '\"' :: ((s.toList.flatMap Quoted.encodeChar).map some ++ some '\"' :: rest) := by
    simp only [Quoted.encode, List.map_append, List.map_cons, List.map_nil, List.cons_append,
      List.append_assoc, List.nil_append]
  rw [hcons]
  exact tokens_cons rfl hstring

end Json

end EventTables
