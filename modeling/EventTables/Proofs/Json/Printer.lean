import EventTables.Json.Printer
import EventTables.Proofs.Json.Codec
import EventTables.Proofs.Json.Quoted
import EventTables.Proofs.Text.Glyph

/-!
# Reading What Was Printed

The text of a value is a document whose tree is that of the value.

A document is read token by token, with the arrays and objects that are open kept
in a list. What the text of one value does to such a reader can be told without
what comes before or after it: a reader that awaits a value comes out as if it had
got the whole tree at once (`Value.IsLegible`). The text of an array or object is
made of such texts, and each of them is followed by a comma or by what closes it.

This holds of values whose numbers are exact. The digits of a double are not read
back digit by digit, and are not looked at here.

## Main definitions

* `Reader.run`: A reader after some text.
* `Reader.Awaits`: The reader takes a value next.
* `Value.IsLegible`: The text of a value is read as its tree.

## Theorems

* `isLegible_of_isExact`: The text of an exact value is read as its tree.
* `Document.ofGlyphs_text`, `Document.ofGlyphs_bytes`: The document that the text
  of a value is.
* `Codec.ofText_encode`, `Codec.ofBytes_encode`: What is written is read back.
* `Codec.any_ofBytes_text`: A value comes back in key order.
-/

namespace EventTables

namespace Json

namespace Reader

/-- The reader after the tokens of a text. -/
def run (r : Reader) (gs : List Glyph) : Reader :=
  (tokens gs).foldl step r

-- The text begins with a token, and goes on behind it.
theorem run_of_tokens (r : Reader) {gs rest : List Glyph} {t : Token}
    (h : tokens gs = t :: tokens rest) : r.run gs = (r.step t).run rest := by
  rw [run, h, List.foldl_cons, run]

theorem run_mark (r : Reader) {g : Glyph} {rest : List Glyph} {t : Token}
    (hblank : isBlank g = false) (hnext : Token.next g rest = (t, rest)) :
    r.run (g :: rest) = (r.step t).run rest :=
  r.run_of_tokens (tokens_cons hblank hnext)

theorem run_comma (r : Reader) (rest : List Glyph) :
    r.run (some ',' :: rest) = (r.step .comma).run rest :=
  r.run_mark rfl rfl

theorem run_colon (r : Reader) (rest : List Glyph) :
    r.run (some ':' :: rest) = (r.step .colon).run rest :=
  r.run_mark rfl rfl

theorem run_closeArray (r : Reader) (rest : List Glyph) :
    r.run (some ']' :: rest) = (r.step .closeArray).run rest :=
  r.run_mark rfl rfl

theorem run_closeObject (r : Reader) (rest : List Glyph) :
    r.run (some '\x7d' :: rest) = (r.step .closeObject).run rest :=
  r.run_mark rfl rfl

theorem run_string (r : Reader) (s : String) (rest : List Glyph) :
    r.run ((Quoted.encode s).map some ++ rest) = (r.step (.string (.ok s))).run rest :=
  r.run_of_tokens (tokens_encode s rest)

/-- Any token but a bracket that closes begins a value inside the open frames. -/
def Awaits (r : Reader) (outer : List Frame) : Prop :=
  ∀ t, t ≠ .closeArray → r.step t = beginValue outer t

theorem Awaits.run_openArray {r : Reader} {outer : List Frame} (h : r.Awaits outer)
    (rest : List Glyph) : r.run (some '[' :: rest) = (arrayStart outer).run rest := by
  rw [r.run_mark rfl rfl (t := .openArray), h _ (fun h => Token.noConfusion h), beginValue]

theorem Awaits.run_openObject {r : Reader} {outer : List Frame} (h : r.Awaits outer)
    (rest : List Glyph) : r.run (some '\x7b' :: rest) = (objectStart outer).run rest := by
  rw [r.run_mark rfl rfl (t := .openObject), h _ (fun h => Token.noConfusion h), beginValue]

theorem awaits_value (outer : List Frame) : (value outer).Awaits outer := by
  intro t ht
  rcases outer with _ | ⟨_ | _, _⟩ <;> cases t <;> first | rfl | exact absurd rfl ht

theorem awaits_arrayStart (outer : List Frame) :
    (arrayStart outer).Awaits (.array [] :: outer) := by
  intro t ht
  cases t <;> first | rfl | exact absurd rfl ht

end Reader

namespace Value

/-- A reader that awaits a value reads the text of this one as its tree, if what
    follows may stand behind a value. -/
def IsLegible (v : Value) : Prop :=
  ∀ (r : Reader) (outer : List Frame) (rest : List Glyph), r.Awaits outer → Token.Follows rest →
    r.run (v.compact.map some ++ rest) = (Reader.finish v.tree outer).run rest

/-- The text of a value that is one token. -/
theorem isLegible_of_token (v : Value) (t : Token) (ht : t ≠ .closeArray)
    (hbegin : ∀ outer, Reader.beginValue outer t = Reader.finish v.tree outer)
    (htokens : ∀ rest, Token.Follows rest →
      tokens (v.compact.map some ++ rest) = t :: tokens rest) :
    v.IsLegible := by
  intro r outer rest hr hrest
  rw [r.run_of_tokens (htokens rest hrest), hr t ht, hbegin]

theorem follows_compactItems (vs : List Value) (rest : List Glyph) :
    Token.Follows ((compactItems vs).map some ++ rest) := by
  intro g hg
  cases vs with
  | nil => exact Or.inr (Or.inl (Option.some.inj hg).symm)
  | cons v vs => exact Or.inl (Option.some.inj hg).symm

theorem follows_compactMembers (ms : List (String × Value)) (rest : List Glyph) :
    Token.Follows ((compactMembers ms).map some ++ rest) := by
  intro g hg
  cases ms with
  | nil => exact Or.inr (Or.inr (Option.some.inj hg).symm)
  | cons m ms => exact Or.inl (Option.some.inj hg).symm

/-- The items after some others, up to the closing bracket. -/
theorem run_compactItems (vs : List Value) (h : ∀ v ∈ vs, v.IsLegible) (done : List Tree)
    (outer : List Frame) (rest : List Glyph) :
    (Reader.afterItem done outer).run ((compactItems vs).map some ++ rest) =
      (Reader.finish (.array (done.reverse ++ vs.map tree) none) outer).run rest := by
  induction vs generalizing done with
  | nil =>
      rw [List.map_nil, List.append_nil]
      exact Reader.run_closeArray _ rest
  | cons v vs ih =>
      rcases List.forall_mem_cons.mp h with ⟨hv, hvs⟩
      have hcomma : (Reader.afterItem done outer).run ((compactItems (v :: vs)).map some ++ rest) =
          (Reader.value (.array done :: outer)).run
            (v.compact.map some ++ ((compactItems vs).map some ++ rest)) := by
        rw [compactItems, List.cons_append, List.map_cons, List.map_append, List.cons_append,
          List.append_assoc]
        exact Reader.run_comma _ _
      rw [hcomma, hv _ _ _ (Reader.awaits_value _) (follows_compactItems vs rest)]
      refine (ih hvs (v.tree :: done)).trans ?_
      rw [List.reverse_cons, List.append_assoc, List.singleton_append, List.map_cons]

/-- The members after some others, up to the closing brace. -/
theorem run_compactMembers (ms : List (String × Value)) (h : ∀ m ∈ ms, m.2.IsLegible)
    (done : OpenMembers) (outer : List Frame) (rest : List Glyph) :
    (Reader.afterMember done outer).run ((compactMembers ms).map some ++ rest) =
      (Reader.finish (.object (done.reverse ++ ms.map fun m => (.ok m.1, m.2.tree)) none)
        outer).run rest := by
  induction ms generalizing done with
  | nil =>
      rw [List.map_nil, List.append_nil]
      exact Reader.run_closeObject _ rest
  | cons m ms ih =>
      rcases m with ⟨k, v⟩
      rcases List.forall_mem_cons.mp h with ⟨hv, hms⟩
      have hcomma : (Reader.afterMember done outer).run
          ((compactMembers ((k, v) :: ms)).map some ++ rest) =
            (Reader.keyDue done outer).run ((Quoted.encode k).map some ++
              some ':' :: (v.compact.map some ++ ((compactMembers ms).map some ++ rest))) := by
        simp only [compactMembers, List.cons_append, List.map_cons, List.map_append,
          List.append_assoc]
        exact Reader.run_comma _ _
      rw [hcomma, Reader.run_string, Reader.run_colon]
      refine (hv _ _ _ (Reader.awaits_value _) (follows_compactMembers ms rest)).trans ?_
      refine (ih hms ((.ok k, v.tree) :: done)).trans ?_
      rw [List.reverse_cons, List.append_assoc, List.singleton_append, List.map_cons]

theorem isLegible_array (vs : List Value) (h : ∀ v ∈ vs, v.IsLegible) :
    (Value.array vs).IsLegible := by
  intro r outer rest hr hrest
  cases vs with
  | nil =>
      rw [compact, tree, trees]
      exact (hr.run_openArray _).trans (Reader.run_closeArray _ rest)
  | cons v vs =>
      rcases List.forall_mem_cons.mp h with ⟨hv, hvs⟩
      have hopen : r.run ((compact (.array (v :: vs))).map some ++ rest) =
          (Reader.arrayStart outer).run
            (v.compact.map some ++ ((compactItems vs).map some ++ rest)) := by
        rw [compact, List.cons_append, List.map_cons, List.map_append, List.cons_append,
          List.append_assoc]
        exact hr.run_openArray _
      rw [hopen, hv _ _ _ (Reader.awaits_arrayStart outer) (follows_compactItems vs rest), tree,
        trees_eq_map]
      exact run_compactItems vs hvs [v.tree] outer rest

theorem isLegible_object (ms : List (String × Value)) (h : ∀ m ∈ ms, m.2.IsLegible) :
    (Value.object ms).IsLegible := by
  intro r outer rest hr hrest
  cases ms with
  | nil =>
      rw [compact, tree, memberTrees]
      exact (hr.run_openObject _).trans (Reader.run_closeObject _ rest)
  | cons m ms =>
      rcases m with ⟨k, v⟩
      rcases List.forall_mem_cons.mp h with ⟨hv, hms⟩
      have hopen : r.run ((compact (.object ((k, v) :: ms))).map some ++ rest) =
          (Reader.objectStart outer).run ((Quoted.encode k).map some ++
            some ':' :: (v.compact.map some ++ ((compactMembers ms).map some ++ rest))) := by
        simp only [compact, List.cons_append, List.map_cons, List.map_append, List.append_assoc]
        exact hr.run_openObject _
      rw [hopen, Reader.run_string, Reader.run_colon, tree, memberTrees_eq_map]
      refine (hv _ _ _ (Reader.awaits_value _) (follows_compactMembers ms rest)).trans ?_
      exact run_compactMembers ms hms [(.ok k, v.tree)] outer rest

/-- The text of an exact value is read as its tree. That a member is repeated or that the
    value is too deep to be read back shows only in what is made of the tree. -/
theorem isLegible_of_isExact {v : Value} (h : v.IsExact) : v.IsLegible := by
  induction h with
  | null =>
      exact isLegible_of_token _ .null (fun h => nomatch h) (fun _ => rfl) fun rest _ =>
        tokens_cons rfl rfl
  | boolean b =>
      refine isLegible_of_token _ (.boolean b) (fun h => nomatch h) (fun _ => rfl) fun rest _ => ?_
      cases b <;> exact tokens_cons rfl rfl
  | natural n =>
      exact isLegible_of_token _ (.number (some (.natural n))) (fun h => nomatch h) (fun _ => rfl)
        (tokens_natural n)
  | negative m =>
      exact isLegible_of_token _ (.number (some (.negative m))) (fun h => nomatch h) (fun _ => rfl)
        (tokens_negative m)
  | string s =>
      exact isLegible_of_token _ (.string (.ok s)) (fun h => nomatch h) (fun _ => rfl)
        fun rest _ => tokens_encode s rest
  | array _ ih => exact isLegible_array _ ih
  | object _ ih => exact isLegible_object _ ih

end Value

/-- The document that the text of a value is. -/
theorem Document.ofGlyphs_text {v : Value} (h : v.IsExact) :
    Document.ofGlyphs (Glyph.ofText v.text) = ⟨v.tree, false⟩ := by
  have hlegible := Value.isLegible_of_isExact h (.value []) [] [] (Reader.awaits_value [])
    fun g hg => nomatch hg
  have hend : tokens [] = [] := by rw [tokens]
  rw [List.append_nil, Reader.run, Reader.run, hend] at hlegible
  rw [Document.ofGlyphs, Document.ofTokens, Glyph.ofText, Value.text, String.toList_ofList,
    hlegible]
  rfl

/-- The bytes of the text are the same document. -/
theorem Document.ofGlyphs_bytes {room : Nat} {v : Value} (h : v.Fits room) :
    Document.ofGlyphs (Glyph.ofBytes (Text.bytes v.text)) = ⟨v.tree, false⟩ := by
  rw [Glyph.ofBytes_bytes, Document.ofGlyphs_text h.isExact]

namespace Codec

/-- What is written for a thing that can be carried is read back from its text. -/
theorem ofText_encode {α : Type} (c : Codec α) (a : α) (h : c.Carries depthLimit a) :
    c.ofText (c.encode a).text = .ok a := by
  rw [ofText, ofGlyphs, Document.ofGlyphs_text h.fits.isExact, ofDocument_eq_ok_iff]
  exact ⟨h.reads, rfl⟩

theorem ofBytes_encode {α : Type} (c : Codec α) (a : α) (h : c.Carries depthLimit a) :
    c.ofBytes (Text.bytes (c.encode a).text) = .ok a := by
  rw [ofBytes, ofGlyphs, Document.ofGlyphs_bytes h.fits, ofDocument_eq_ok_iff]
  exact ⟨h.reads, rfl⟩

/-- A value comes back in key order. -/
theorem any_ofBytes_text (v : Value) (h : v.Fits depthLimit) :
    any.ofBytes (Text.bytes v.text) = .ok v.sorted := by
  rw [ofBytes, ofGlyphs, Document.ofGlyphs_bytes h, ofDocument_eq_ok_iff]
  exact ⟨Value.value_tree_of_fits h, rfl⟩

end Codec

end Json

end EventTables
