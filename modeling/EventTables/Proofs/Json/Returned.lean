import EventTables.Proofs.Json.Reading
import EventTables.Proofs.Json.Unordered

/-!
# Records That Were Read

What is read from a document is written again.

The document and what is written for what was read from it agree, but for what the
record type changes: it fills in members that are missing, and leaves out some that say
nothing. The law `Codec.Returns` says which change it is, and each codec has its own.
The way back through `Codec.Carries` starts from a thing that is written, and asks
something of it; here the thing is only what a document led to, so there is nothing to
ask.

A record that keeps other members is told name by name. Under a described name there is
what the member's kind makes of what was given, under any other name what was given
itself.

## Main definitions

* `Value.onMembers`, `Value.onItems`: A change of parts as a change of the whole.
* `Codec.Returns`: What is read is written again, changed in one way.
* `Member.Returns`: What is written for a member, told by what was given for it.
* `Shape.IsCompletedBy`: What a record type changes in the members of an object.

## Theorems

* `Codec.returns_string`, `Codec.returns_boolean`, `Codec.returns_listOf`: Scalars and
  lists.
* `Member.returns_needed`, `Member.returns_withDefault`, `Member.returns_optional`: The
  three kinds of members.
* `Shape.returns_opened`: A record with other members.
-/

namespace EventTables

namespace Json

variable {α β : Type}

namespace Value

/-- The members of an object are changed. -/
def onMembers (change : Keyed String Value → Keyed String Value) : Value → Value
  | .object ms => .object (change ms)
  | v => v

/-- Each item of an array is changed. -/
def onItems (change : Value → Value) : Value → Value
  | .array vs => .array (vs.map change)
  | v => v

/-- The value is null. -/
def isNull : Value → Bool
  | .null => true
  | _ => false

end Value

namespace Codec

/-- What is read from a document is written again, changed in one way and for the rest
    the same but for the order of members. -/
def Returns (c : Codec α) (change : Value → Value) : Prop :=
  ∀ o t a, c.decode o t = .ok a → t.NoRepeat →
    ∃ v, t.value o = .ok v ∧ (c.encode a).Agrees (change v)

theorem returns_string : string.Returns id := by
  intro o t s h _
  cases t with
  | string s' =>
      cases s' with
      | error f => exact nomatch h
      | ok s' =>
          cases h
          exact ⟨.string s, rfl, Value.agrees_string s⟩
  | _ => exact nomatch h

theorem returns_boolean : boolean.Returns id := by
  intro o t b h _
  cases t with
  | boolean b' =>
      cases h
      exact ⟨.boolean b, rfl, Value.agrees_boolean b⟩
  | _ => exact nomatch h

-- Items that were read one by one are written again one by one.
theorem exists_values_of_returns (c : Codec α) (change : Value → Value) (hc : c.Returns change)
    (o : Origin) (ts : List Tree) (xs : List α)
    (h : List.Forall₂ (fun t a => c.decode o t = .ok a) ts xs) (hrepeat : ∀ t ∈ ts, t.NoRepeat) :
    ∃ vs, List.Forall₂ (fun t v => t.value o = .ok v) ts vs ∧
      List.Forall₂ Value.Agrees (xs.map c.encode) (vs.map change) := by
  induction h with
  | nil => exact ⟨[], .nil, .nil⟩
  | cons ha _ ih =>
      rcases List.forall_mem_cons.mp hrepeat with ⟨ht, hts⟩
      rcases hc o _ _ ha ht with ⟨v, hv, hagrees⟩
      rcases ih hts with ⟨vs, hvs, hall⟩
      exact ⟨v :: vs, .cons hv hvs, .cons hagrees hall⟩

theorem returns_listOf (c : Codec α) (change : Value → Value) (hc : c.Returns change) :
    (listOf c).Returns (Value.onItems change) := by
  intro o t xs h hrepeat
  cases t with
  | array items breach =>
      rcases (bind_eq_ok_iff _ _ _).mp h with ⟨inner, hinner, h⟩
      rcases (bind_eq_ok_iff _ _ _).mp h with ⟨ys, hys, h⟩
      rcases (bind_eq_ok_iff _ _ _).mp h with ⟨⟨⟩, hbreach, h⟩
      cases h
      rcases exists_values_of_returns c change hc inner items xs
        ((mapM_eq_ok_iff _ _ _).mp hys) hrepeat.item with ⟨vs, hvs, hagrees⟩
      exact ⟨.array vs, (Tree.value_array_eq_ok_iff o items breach _).mpr
        ⟨inner, vs, hinner, hvs, (Tree.unbroken_eq_ok_iff breach).mp hbreach, rfl⟩,
        Value.agrees_array _ _ hagrees⟩
  | _ => exact nomatch h

end Codec

namespace Member

/-- What is written for the member agrees with what was given for it, changed in one
    way. Where nothing was given it is what the blank record has. -/
structure Returns (m : Member α) (blank : α) (change : Option Value → Option Value) : Prop where
  given : ∀ o t a b, m.store o t a = .ok b → t.NoRepeat →
    ∃ v, t.value o = .ok v ∧ Option.Rel Value.Agrees (m.load b) (change (some v))
  missing : m.required = false → Option.Rel Value.Agrees (m.load blank) (change none)

theorem returns_needed {name : String} {c : Codec β} {get : α → β} {set : β → α → α} {blank : α}
    {change : Value → Value} (hc : c.Returns change) (hget : ∀ v a, get (set v a) = v) :
    (needed name c get set).Returns blank (Option.map change) where
  given o t a b hb hrepeat := by
    rcases (map_eq_ok_iff _ _ _).mp hb with ⟨x, hx, rfl⟩
    rcases hc o t x hx hrepeat with ⟨v, hv, hagrees⟩
    rw [← hget x a] at hagrees
    exact ⟨v, hv, .some hagrees⟩
  missing hrequired := nomatch hrequired

theorem returns_withDefault {name : String} {c : Codec β} {get : α → β} {set : β → α → α}
    {blank : α} {change : Value → Value} {default : Value} (hc : c.Returns change)
    (hget : ∀ v a, get (set v a) = v) (hdefault : (c.encode (get blank)).Agrees default) :
    (withDefault name c get set).Returns blank fun v? => (v?.map change).or (some default) where
  given := by
    have hneeded : (needed name c get set).Returns blank (Option.map change) :=
      returns_needed hc hget
    exact hneeded.given
  missing _ := .some hdefault

-- The null that stands for nothing is not written.
theorem returns_optional {name : String} {c : Codec β} {get : α → Option β}
    {set : Option β → α → α} {blank : α} {change : Value → Value} (hc : c.Returns change)
    (hget : ∀ v a, get (set v a) = v) (hblank : get blank = none) :
    (optional name c get set).Returns blank
      fun v? => (v?.filter fun v => !v.isNull).map change where
  given o t a b hb hrepeat := by
    rw [sets_optional name c get set o t a] at hb
    rcases (map_eq_ok_iff _ _ _).mp hb with ⟨x?, hx, rfl⟩
    change ∃ v, t.value o = .ok v ∧ Option.Rel Value.Agrees ((get (set x? a)).map c.encode) _
    rw [hget]
    by_cases hnull : t = .null
    · subst hnull
      cases hx
      exact ⟨.null, rfl, .none⟩
    · have hsome : (c.decode o t).map some = .ok x? := by
        rw [← hx]
        cases t with
        | null => exact absurd rfl hnull
        | _ => rfl
      rcases (map_eq_ok_iff _ _ _).mp hsome with ⟨x, hdecode, rfl⟩
      rcases hc o t x hdecode hrepeat with ⟨v, hv, hagrees⟩
      refine ⟨v, hv, ?_⟩
      have hv' : v.isNull = false := by
        clear hagrees hrepeat
        induction t, v, hv using Tree.value_cases with
        | null => exact absurd rfl hnull
        | _ => rfl
      rw [Option.filter_some, hv', if_pos (by decide)]
      exact .some hagrees
  missing _ := by
    change Option.Rel Value.Agrees ((get blank).map c.encode) none
    rw [hblank]
    exact .none

end Member

namespace Shape

variable {s : Shape α} {add : String → Value → α → α} {extra : α → List (String × Value)}

/-- What is changed in the members of an object before they are written again: a
    described member as its kind says, and no other. -/
structure IsCompletedBy (s : Shape α) (change : Keyed String Value → Keyed String Value) :
    Prop where
  described : s.members.Forall fun m => ∃ changed, m.Returns s.blank changed ∧
    ∀ ms, (change ms).find? m.name = changed (ms.find? m.name)
  others : ∀ name, s.knows name = false → ∀ ms, (change ms).find? name = ms.find? name
  names : ∀ ms, (ms.map (·.1)).Nodup → ((change ms).map (·.1)).Nodup

/-- What is written for a described member agrees with what was given for it. -/
theorem Reading.rel_load {inner : Origin} {es : List (String × Tree)}
    {vs : List (String × Value)} {a : α} (hseparate : s.IsSeparate add extra)
    (h : s.Reading add inner es vs a) {m : Member α} (hm : m ∈ s.members)
    {change : Option Value → Option Value} (hreturns : m.Returns s.blank change) :
    Option.Rel Value.Agrees (m.load a) (change (Keyed.find? m.name vs)) := by
  rcases hfind : Keyed.find? m.name vs with _ | v
  · rcases h.load_of_absent hseparate hm hfind with ⟨hload, hrequired⟩
    rw [hload]
    exact hreturns.missing hrequired
  · rcases h.exists_store hseparate hm hfind with ⟨t, c, d, hv, hrepeat, hstore, hload⟩
    rcases hreturns.given inner t c d hstore hrepeat with ⟨w, hw, hrel⟩
    rw [hload, Except.ok.inj (hv.symm.trans hw)]
    exact hrel

-- What is written under the name of a member.
theorem find?_write (hnames : (s.members.map (·.name)).Nodup) (a : α) {m : Member α}
    (hm : m ∈ s.members) : Keyed.find? m.name (s.write a) = m.load a := by
  rcases hfind : Keyed.find? m.name (s.write a) with _ | v
  · rcases hload : m.load a with _ | v
    · rfl
    · refine absurd (List.mem_map.mpr ⟨(m.name, v), ?_, rfl⟩)
        ((Keyed.find?_eq_none_iff _ _).mp hfind)
      exact List.mem_filterMap.mpr ⟨m, hm, by rw [hload]; rfl⟩
  · rcases List.mem_filterMap.mp (Keyed.mem_of_find? _ _ _ hfind) with ⟨n, hn, hload⟩
    rcases Option.map_eq_some_iff.mp hload with ⟨w, hw, heq⟩
    rcases Prod.mk.inj heq with ⟨hname, rfl⟩
    rw [← List.inj_on_of_nodup_map hnames hn hm hname, hw]

theorem find?_write_of_not_knows (a : α) {name : String} (hname : s.knows name = false) :
    Keyed.find? name (s.write a) = none := by
  rw [Keyed.find?_eq_none_iff]
  intro hmem
  rcases List.mem_map.mp ((sublist_names_write a s.members).subset hmem) with ⟨m, hm, heq⟩
  exact List.forall_iff_forall_mem.mp (ne_of_knows_eq_false _ hname) m hm heq.symm

/-- A record that keeps other members is written again as it was read, but for what its
    described members change. -/
theorem returns_opened {change : Keyed String Value → Keyed String Value}
    (hseparate : s.IsSeparate add extra) (hcompleted : s.IsCompletedBy change) :
    (s.opened add extra).Returns (Value.onMembers change) := by
  intro o t a hdecode hrepeat
  have hdescribed := List.forall_iff_forall_mem.mp hcompleted.described
  have hvalues : ∀ m ∈ s.members, ∀ o t a b, m.store o t a = .ok b → t.NoRepeat →
      ∃ v, t.value o = .ok v := by
    intro m hm o t a b hstore hrepeat
    rcases hdescribed m hm with ⟨_, hreturns, _⟩
    rcases hreturns.given o t a b hstore hrepeat with ⟨v, hv, _⟩
    exact ⟨v, hv⟩
  rcases exists_reading hvalues o t a hdecode hrepeat with ⟨inner, es, vs, hvalue, hreading⟩
  rcases hseparate.extra_of_decode o t a hdecode with ⟨hascending, hothers⟩
  have hnames : (vs.map (·.1)).Nodup := hreading.sameNames ▸ hreading.names
  refine ⟨_, hvalue, (Value.agrees_object_iff _ _).mpr ⟨?_, ?_, fun name => ?_⟩⟩
  · exact nodup_names_write a (extra a) hseparate.names
      (Keyed.nodup_keys_of_ascending _ hascending) hothers
  · exact hcompleted.names _ (Keyed.nodup_keys_of_ascending _ (Keyed.ascending_ofList vs))
  · rw [Keyed.find?_append]
    by_cases hknown : s.knows name = true
    · -- A described member is not among those that are kept besides.
      rcases List.find?_isSome.mp hknown with ⟨m, hm, heq⟩
      rw [← beq_iff_eq.mp heq] at hknown ⊢
      have hextra : Keyed.find? m.name (extra a) = none := by
        rw [Keyed.find?_eq_none_iff]
        intro hmem
        rcases List.mem_map.mp hmem with ⟨e, he, hsame⟩
        rw [← hsame, hothers e he] at hknown
        exact nomatch hknown
      rcases hdescribed m hm with ⟨changed, hreturns, hchange⟩
      rw [find?_write hseparate.names a hm, hextra, Option.or_none, hchange,
        Keyed.find?_ofList_of_nodup vs hnames]
      exact hreading.rel_load hseparate hm hreturns
    · have hother : s.knows name = false := Bool.eq_false_iff.mpr hknown
      rw [find?_write_of_not_knows a hother, Option.none_or, hcompleted.others name hother,
        Keyed.find?_ofList_of_nodup vs hnames, hreading.find?_extra hseparate hother]
      -- What is kept besides is a value that was read.
      rcases hfind : Keyed.find? name vs with _ | v
      · exact .none
      · rcases hreading.exists_of_find? hfind with ⟨t, _, hv⟩
        exact .some (Value.agrees_self v
          (Value.noRepeat_tree_of_isRead (Value.isRead_of_value t inner v hv)))

end Shape

end Json

end EventTables
