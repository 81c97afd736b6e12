import EventTables.Proofs.Json.Value

/-!
# Laws of Codecs

What the parts of a document format have to be like, so that the format is.

Two laws are stated of every codec of a format, and a codec made of others has
each of them if those have it. The first, `ReadsValues`, is about reading only. A
tree and the value of the tree are read alike, with the same result or with none,
though perhaps with different errors. The second, `Carries`, is about reading what
was written. It is told of one thing that is written and not of all of a type, as
some of them cannot be carried: a value with a double, or one that is too deep.

## Main definitions

* `Codec.ReadsValues`: A tree is read as its value is.
* `Codec.Carries`: What is written for a thing is read back.

## Theorems

* `readsValues_string`, …: The codecs of scalars.
* `readsValues_any`, `readsValues_listOf`, `readsValues_convert`: Codecs of
  values, of lists and of other types.
* `carries_string`, …, `carries_any`, `carries_listOf`, `carries_convert`: The
  same for the second law.
-/

namespace EventTables

namespace Json

namespace Codec

variable {α β : Type}

/-! ### Documents -/

-- A document that was read was read from its root, and nothing follows it.
theorem ofDocument_eq_ok_iff (c : Codec α) (d : Document) (a : α) :
    c.ofDocument d = .ok a ↔
      c.decode (.text depthLimit) d.root = .ok a ∧ d.trailing = false := by
  rw [ofDocument, bind_eq_ok_iff]
  constructor
  · rintro ⟨b, hb, h⟩
    cases htrailing : d.trailing with
    | true =>
        rw [htrailing, if_pos rfl] at h
        exact nomatch h
    | false =>
        rw [htrailing, if_neg Bool.false_ne_true] at h
        exact ⟨Except.ok.inj h ▸ hb, rfl⟩
  · rintro ⟨ha, htrailing⟩
    exact ⟨a, ha, if_neg (htrailing ▸ Bool.false_ne_true)⟩

/-! ### Reading values -/

/-- The codec reads a tree as it reads the value of the tree, but for errors. -/
def ReadsValues (c : Codec α) : Prop :=
  ∀ o t v, t.value o = .ok v → t.NoRepeat →
    (c.decode o t).toOption = (c.decode .parsed v.tree).toOption

-- A scalar's value is the same tree again, so what counts is only that the codec
-- does not ask where it comes from.
theorem readsValues_of_scalar (c : Codec α) (horigin : ∀ o t, c.decode o t = c.decode .parsed t)
    (harray : ∀ items breach, (c.decode .parsed (.array items breach)).toOption = none)
    (hobject : ∀ members breach, (c.decode .parsed (.object members breach)).toOption = none) :
    c.ReadsValues := by
  intro o t v hv _
  rw [horigin o t]
  induction t, v, hv using Tree.value_cases with
  | null => rfl
  | boolean b => rfl
  | number n => rfl
  | string s => rfl
  | array inner items vs _ _ _ => rw [harray, Value.tree, harray]
  | object inner members vs _ _ _ => rw [hobject, Value.tree, hobject]

theorem readsValues_string : string.ReadsValues := by
  refine readsValues_of_scalar string (fun o t => ?_) (fun _ _ => rfl) (fun _ _ => rfl)
  rcases t with _ | _ | _ | (_ | _) | _ | _ | _ <;> rfl

theorem readsValues_boolean : boolean.ReadsValues := by
  refine readsValues_of_scalar boolean (fun o t => ?_) (fun _ _ => rfl) (fun _ _ => rfl)
  cases t <;> rfl

theorem readsValues_uint64 : uint64.ReadsValues := by
  refine readsValues_of_scalar uint64 (fun o t => ?_) (fun _ _ => rfl) (fun _ _ => rfl)
  rcases t with _ | _ | (_ | _ | _ | _) | _ | _ | _ | _ <;> rfl

theorem readsValues_uint32 : uint32.ReadsValues := by
  refine readsValues_of_scalar uint32 (fun o t => ?_) (fun _ _ => rfl) (fun _ _ => rfl)
  rcases t with _ | _ | (_ | _ | _ | _) | _ | _ | _ | _ <;> rfl

theorem readsValues_any : any.ReadsValues := by
  intro o t v hv _
  have hread := (Value.isRead_of_value t o v hv).parsed
  change (t.value o).toOption = (v.tree.value .parsed).toOption
  rw [hv, Value.value_tree_of_isRead hread]

-- Items that are read alike one by one are read alike together.
theorem toOption_mapM_congr (f g : Tree → Except Error α) (ts us : List Tree)
    (h : List.Forall₂ (fun t u => (f t).toOption = (g u).toOption) ts us) :
    (ts.mapM f).toOption = (us.mapM g).toOption := by
  induction h with
  | nil => rfl
  | cons hhead _ ih => simp only [List.mapM_cons, toOption_bind, hhead, ih]

theorem forall₂_readsValues (c : Codec α) (hc : c.ReadsValues) (o : Origin) (ts : List Tree)
    (vs : List Value) (hvs : List.Forall₂ (fun t v => t.value o = .ok v) ts vs)
    (hrepeat : ∀ t ∈ ts, t.NoRepeat) :
    List.Forall₂ (fun t u => (c.decode o t).toOption = (c.decode .parsed u).toOption) ts
      (vs.map Value.tree) := by
  rw [List.forall₂_map_right_iff]
  induction hvs with
  | nil => exact .nil
  | cons hv _ ih =>
      rcases List.forall_mem_cons.mp hrepeat with ⟨ht, hts⟩
      exact .cons (hc o _ _ hv ht) (ih hts)

theorem readsValues_listOf (c : Codec α) (hc : c.ReadsValues) : (listOf c).ReadsValues := by
  intro o t v hv hrepeat
  induction t, v, hv using Tree.value_cases with
  | null => rfl
  | boolean b => rfl
  | number n => rfl
  | string s => rfl
  | array inner items vs _ hinner hvs =>
      have hitems := toOption_mapM_congr _ _ _ _
        (forall₂_readsValues c hc inner items vs hvs hrepeat.item)
      have hparsed : Origin.parsed.enter = .ok .parsed := rfl
      rw [Value.tree, Value.trees_eq_map]
      simp only [listOf, toOption_bind, hinner, hparsed, toOption_ok, Option.bind_some, hitems]
  | object inner members vs _ _ _ => rfl

theorem readsValues_convert (c : Codec α) (hc : c.ReadsValues) (into : α → β) (back : β → α) :
    (c.convert into back).ReadsValues := by
  intro o t v hv hrepeat
  simp only [convert, toOption_map, hc o t v hv hrepeat]

/-! ### Parts of what is read -/

-- Every item of a list that was read was read by itself, one level further in.
theorem exists_of_decode_listOf (c : Codec α) (o : Origin) (t : Tree) (xs : List α)
    (h : (listOf c).decode o t = .ok xs) (x : α) (hx : x ∈ xs) :
    ∃ inner u, o.enter = .ok inner ∧ c.decode inner u = .ok x := by
  cases t with
  | array items breach =>
      rcases (bind_eq_ok_iff _ _ _).mp h with ⟨inner, hinner, h⟩
      rcases (bind_eq_ok_iff _ _ _).mp h with ⟨ys, hys, h⟩
      rcases (bind_eq_ok_iff _ _ _).mp h with ⟨_, _, h⟩
      rw [← Except.ok.inj h] at hx
      rcases exists_of_mapM_eq_ok _ items ys hys x hx with ⟨u, _, hu⟩
      exact ⟨inner, u, hinner, hu⟩
  | _ => exact nomatch h

/-! ### Reading what was written -/

/-- What the codec writes for a thing can be read back where so many arrays and
    objects may be opened, and is read as that thing. -/
structure Carries (c : Codec α) (room : Nat) (a : α) : Prop where
  fits : (c.encode a).Fits room
  reads : c.decode (.text room) (c.encode a).tree = .ok a

theorem carries_string (room : Nat) (s : String) : string.Carries room s :=
  ⟨.string room s, rfl⟩

theorem carries_boolean (room : Nat) (b : Bool) : boolean.Carries room b :=
  ⟨.boolean room b, rfl⟩

theorem carries_uint64 (room : Nat) (n : UInt64) : uint64.Carries room n :=
  ⟨.natural room n, rfl⟩

theorem carries_uint32 (room : Nat) (n : UInt32) : uint32.Carries room n where
  fits := .natural room n.toUInt64
  reads := by
    have hsmall : n.toUInt64.toNat < UInt32.size := by
      rw [UInt32.toNat_toUInt64]
      exact n.toNat_lt
    have hback : n.toUInt64.toUInt32 = n := UInt32.toUInt32_toUInt64 n
    change (if n.toUInt64.toNat < UInt32.size then Except.ok n.toUInt64.toUInt32 else _) = _
    rw [if_pos hsmall, hback]

/-- A value can be carried if it is one that reading leads to and can be read
    back. -/
theorem carries_any (room : Nat) (v : Value) (hread : v.IsRead .parsed) (hfits : v.Fits room) :
    any.Carries room v where
  fits := hfits
  reads := by
    have hvalue := Value.value_tree_of_fits hfits
    rwa [hread.sorted_eq] at hvalue

theorem carries_listOf (c : Codec α) (room : Nat) (xs : List α) (h : ∀ x ∈ xs, c.Carries room x) :
    (listOf c).Carries (room + 1) xs where
  fits := by
    refine .array fun v hv => ?_
    rcases List.mem_map.mp hv with ⟨x, hx, rfl⟩
    exact (h x hx).fits
  reads := by
    have hitems : ((xs.map c.encode).map Value.tree).mapM (c.decode (.text room)) = .ok xs := by
      induction xs with
      | nil => rfl
      | cons x xs ih =>
          rcases List.forall_mem_cons.mp h with ⟨hx, hxs⟩
          rw [List.map_cons, List.map_cons, List.mapM_cons, hx.reads, ih hxs]
          rfl
    change (listOf c).decode _ (Value.tree (.array (xs.map c.encode))) = _
    rw [Value.tree, Value.trees_eq_map]
    exact (bind_eq_ok_iff _ _ _).mpr
      ⟨.text room, rfl, (bind_eq_ok_iff _ _ _).mpr ⟨xs, hitems, rfl⟩⟩

theorem carries_convert (c : Codec α) (into : α → β) (back : β → α) (room : Nat) (b : β)
    (hinto : into (back b) = b) (h : c.Carries room (back b)) :
    (c.convert into back).Carries room b where
  fits := h.fits
  reads := by
    change (c.decode (.text room) (c.encode (back b)).tree).map into = .ok b
    rw [h.reads]
    exact congrArg Except.ok hinto

end Codec

end Json

end EventTables
