import EventTables.Keyed

/-!
# Laws of Entries in Key Order

What `put` does to a list of entries, told by looking keys up.

A keyed list has two readings. As a list it has an order, which every answer of
this library shows; as a map it is what `find?` gives. The laws of `put` as a
map need only that `compare` tells equal keys apart from others, and hold of any
list. That the list is ascending is a second fact, kept by `put` alone, and it
makes the two readings agree: an entry is in the list exactly if its key leads
to it.

## Main definitions

* `Keyed.Ascending`: Every key is below the keys after it.

## Theorems

* `find?_put`: Only the key that is put leads elsewhere.
* `mem_put`: An entry of the new list is the new one or an old one.
* `ascending_put`: Putting an entry keeps the keys in order.
* `mem_iff_find?`: In an ascending list, membership is looking up.
* `find?_append`, `find?_mapWithKey`, `find?_filter`, `find?_of_mem`: Looking up in any
  list.
* `eq_of_find?_eq`: An ascending list is known by what looking up gives.
* `put_comm`: Entries with different keys are put in any order.
* `find?_ofList`: In a history the last entry of a key counts.
* `perm_ofList`: A history without repeated keys loses no entry.
* `ofList_congr`: Histories without repeated keys are known by looking up.
* `ofList_of_ascending`: A list in order is its own history.
-/

namespace EventTables

namespace Keyed

variable {κ β : Type} [Ord κ]

/-- Every key is below all keys after it, so no key is repeated. -/
def Ascending (m : Keyed κ β) : Prop :=
  m.Pairwise fun a b => compare a.1 b.1 = .lt

theorem ascending_nil : Ascending ([] : Keyed κ β) :=
  List.Pairwise.nil

/-- Looking up after a `put`. The place at which the entry went in plays no
    part, and neither does the order of the list. -/
theorem find?_put [Std.LawfulEqOrd κ] (k k' : κ) (v : β) (m : Keyed κ β) :
    (put k v m).find? k' = if compare k' k = .eq then some v else find? k' m := by
  induction m with
  | nil => rfl
  | cons e rest ih =>
      rcases e with ⟨k₁, v₁⟩
      rcases hcmp : compare k k₁ with _ | _ | _
      · simp only [put, hcmp, find?]
      · -- The old entry has the same key, and is out of reach either way.
        have hkey : k = k₁ := Std.compare_eq_iff_eq.mp hcmp
        simp only [put, hcmp, find?]
        rw [hkey]
        by_cases h : compare k' k₁ = .eq
        · rw [if_pos h, if_pos h]
        · rw [if_neg h, if_neg h, if_neg h]
      · simp only [put, hcmp, find?, ih]
        by_cases h : compare k' k₁ = .eq
        · have hne : compare k' k ≠ .eq := by
            intro heq
            rw [← Std.compare_eq_iff_eq.mp h, ← Std.compare_eq_iff_eq.mp heq,
              Std.compare_self] at hcmp
            exact absurd hcmp (by decide)
          rw [if_pos h, if_neg hne, if_pos h]
        · rw [if_neg h, if_neg h]

-- An entry after a `put` is the one put in or was there before.
theorem mem_put (k : κ) (v : β) (m : Keyed κ β) (e : κ × β) (he : e ∈ put k v m) :
    e = (k, v) ∨ e ∈ m := by
  induction m with
  | nil => exact Or.inl (List.mem_singleton.mp he)
  | cons e₁ rest ih =>
      rcases e₁ with ⟨k₁, v₁⟩
      rcases hcmp : compare k k₁ with _ | _ | _
      · rw [put, hcmp] at he
        exact List.mem_cons.mp he
      · rw [put, hcmp] at he
        rcases List.mem_cons.mp he with h | h
        · exact Or.inl h
        · exact Or.inr (List.mem_cons_of_mem _ h)
      · rw [put, hcmp] at he
        rcases List.mem_cons.mp he with h | h
        · exact Or.inr (h ▸ List.mem_cons_self)
        · exact (ih h).imp_right (List.mem_cons_of_mem _)

theorem forall_mem_put {P : κ × β → Prop} {k : κ} {v : β} {m : Keyed κ β} (hnew : P (k, v))
    (hold : ∀ e ∈ m, P e) : ∀ e ∈ put k v m, P e := fun e he =>
  (mem_put k v m e he).elim (fun heq => heq ▸ hnew) (hold e)

/-- The keys stay in order. -/
theorem ascending_put [Std.LawfulEqOrd κ] [Std.TransOrd κ] (k : κ) (v : β) (m : Keyed κ β)
    (hm : Ascending m) : Ascending (put k v m) := by
  induction m with
  | nil => exact List.pairwise_singleton _ _
  | cons e rest ih =>
      rcases e with ⟨k₁, v₁⟩
      rcases List.pairwise_cons.mp hm with ⟨hhead, hrest⟩
      rcases hcmp : compare k k₁ with _ | _ | _
      · rw [put, hcmp]
        refine List.pairwise_cons.mpr ⟨fun e he => ?_, hm⟩
        rcases List.mem_cons.mp he with h | h
        · exact h ▸ hcmp
        · exact Std.TransCmp.lt_trans hcmp (hhead e h)
      · rw [put, hcmp]
        rw [← Std.compare_eq_iff_eq.mp hcmp] at hhead
        exact List.pairwise_cons.mpr ⟨hhead, hrest⟩
      · -- The entry goes in further down, and the first key is below it, too.
        rw [put, hcmp]
        refine List.pairwise_cons.mpr ⟨fun e he => ?_, ih hrest⟩
        rcases mem_put k v rest e he with h | h
        · exact h ▸ Std.OrientedCmp.gt_iff_lt.mp hcmp
        · exact hhead e h

/-- In an ascending list every entry is the one that its key leads to: no entry
    hides another one. -/
theorem mem_iff_find? [Std.LawfulEqOrd κ] (k : κ) (v : β) (m : Keyed κ β)
    (hm : Ascending m) : (k, v) ∈ m ↔ m.find? k = some v := by
  induction m with
  | nil => simp only [List.not_mem_nil, find?, reduceCtorEq]
  | cons e rest ih =>
      rcases e with ⟨k₁, v₁⟩
      rcases List.pairwise_cons.mp hm with ⟨hhead, hrest⟩
      by_cases h : compare k k₁ = .eq
      · have hkey : k = k₁ := Std.compare_eq_iff_eq.mp h
        have hnot : (k₁, v) ∉ rest := by
          intro hmem
          have hlt : compare k₁ k₁ = .lt := hhead _ hmem
          rw [Std.compare_self] at hlt
          exact absurd hlt (by decide)
        rw [find?, if_pos h, hkey, Option.some.injEq]
        simp only [List.mem_cons, hnot, or_false, Prod.mk.injEq, true_and]
        exact eq_comm
      · have hne : k ≠ k₁ := fun heq => h (Std.compare_eq_iff_eq.mpr heq)
        rw [find?, if_neg h, ← ih hrest]
        simp only [List.mem_cons, Prod.mk.injEq, hne, false_and, false_or]

/-! ### Looking up in any list -/

theorem find?_append (k : κ) (m n : Keyed κ β) :
    find? k (m ++ n) = (find? k m).or (find? k n) := by
  induction m with
  | nil => rfl
  | cons e rest ih =>
      rcases e with ⟨k₁, v₁⟩
      rw [List.cons_append, find?, find?, ih]
      by_cases h : compare k k₁ = .eq
      · rw [if_pos h, if_pos h, Option.some_or]
      · rw [if_neg h, if_neg h]

/-- What is found where every entry is changed, each in a way of its key. -/
theorem find?_mapWithKey {γ : Type} [Std.LawfulEqOrd κ] (f : κ → β → γ) (k : κ) (m : Keyed κ β) :
    find? k (m.map fun e => (e.1, f e.1 e.2)) = (find? k m).map (f k) := by
  induction m with
  | nil => rfl
  | cons e rest ih =>
      rcases e with ⟨k₁, v₁⟩
      rw [List.map_cons, find?, find?, ih]
      by_cases h : compare k k₁ = .eq
      · rw [if_pos h, if_pos h, Option.map_some, Std.compare_eq_iff_eq.mp h]
      · rw [if_neg h, if_neg h]

theorem find?_filter [Std.LawfulEqOrd κ] (p : κ → Bool) (k : κ) (m : Keyed κ β) :
    find? k (m.filter fun e => p e.1) = if p k then find? k m else none := by
  induction m with
  | nil => exact (ite_self _).symm
  | cons e rest ih =>
      rcases e with ⟨k₁, v₁⟩
      rcases hp : p k₁ with _ | _
      · rw [List.filter_cons_of_neg (by rw [hp]; decide), ih, find?]
        by_cases h : compare k k₁ = .eq
        · rw [Std.compare_eq_iff_eq.mp h, hp, if_neg (by decide), if_neg (by decide)]
        · rw [if_neg h]
      · rw [List.filter_cons_of_pos (by exact hp), find?, find?, ih]
        by_cases h : compare k k₁ = .eq
        · rw [if_pos h, if_pos h, Std.compare_eq_iff_eq.mp h, hp, if_pos rfl]
        · rw [if_neg h, if_neg h]

theorem mem_of_find? [Std.LawfulEqOrd κ] (k : κ) (v : β) (m : Keyed κ β)
    (h : find? k m = some v) : (k, v) ∈ m := by
  induction m with
  | nil => exact nomatch h
  | cons e rest ih =>
      rcases e with ⟨k₁, v₁⟩
      rw [find?] at h
      by_cases hcmp : compare k k₁ = .eq
      · rw [if_pos hcmp] at h
        rw [Std.compare_eq_iff_eq.mp hcmp, Option.some.inj h]
        exact List.mem_cons_self
      · rw [if_neg hcmp] at h
        exact List.mem_cons_of_mem _ (ih h)

theorem find?_eq_none_iff [Std.LawfulEqOrd κ] (k : κ) (m : Keyed κ β) :
    find? k m = none ↔ k ∉ m.map (·.1) := by
  induction m with
  | nil => exact ⟨fun _ => List.not_mem_nil, fun _ => rfl⟩
  | cons e rest ih =>
      rcases e with ⟨k₁, v₁⟩
      rw [find?, List.map_cons, List.mem_cons, not_or]
      by_cases h : compare k k₁ = .eq
      · rw [if_pos h]
        exact ⟨fun hnone => (nomatch hnone),
          fun hnot => absurd (Std.compare_eq_iff_eq.mp h) hnot.1⟩
      · rw [if_neg h, ih]
        exact ⟨fun hrest => ⟨fun heq => h (Std.compare_eq_iff_eq.mpr heq), hrest⟩,
          fun hnot => hnot.2⟩

-- A key that is not repeated leads to its entry, whatever the order.
theorem find?_of_mem [Std.LawfulEqOrd κ] (k : κ) (v : β) (m : Keyed κ β)
    (hkeys : (m.map (·.1)).Nodup) (h : (k, v) ∈ m) : find? k m = some v := by
  induction m with
  | nil => exact absurd h List.not_mem_nil
  | cons e rest ih =>
      rcases List.nodup_cons.mp hkeys with ⟨hnew, hrest⟩
      rcases List.mem_cons.mp h with rfl | h
      · rw [find?, if_pos Std.compare_self]
      · have hne : compare k e.1 ≠ .eq := by
          intro heq
          exact hnew (List.mem_map.mpr ⟨(k, v), h, Std.compare_eq_iff_eq.mp heq⟩)
        rw [find?, if_neg hne, ih hrest h]

/-! ### Equality of ascending lists -/

-- Two entries cannot each be below the other, so there is one order for them.
theorem eq_of_perm [Std.LawfulEqOrd κ] [Std.TransOrd κ] (m n : Keyed κ β) (hm : Ascending m)
    (hn : Ascending n) (hperm : m.Perm n) : m = n := by
  refine hperm.eq_of_pairwise (fun a b _ _ hab hba => ?_) hm hn
  have hlt := Std.TransCmp.lt_trans hab hba
  rw [Std.compare_self] at hlt
  exact absurd hlt (by decide)

theorem nodup_of_ascending [Std.LawfulEqOrd κ] (m : Keyed κ β) (hm : Ascending m) : m.Nodup := by
  refine hm.imp fun hlt heq => ?_
  rw [heq, Std.compare_self] at hlt
  exact absurd hlt (by decide)

/-- Ascending lists are equal if looking up gives the same in both. -/
theorem eq_of_find?_eq [Std.LawfulEqOrd κ] [Std.TransOrd κ] (m n : Keyed κ β) (hm : Ascending m)
    (hn : Ascending n) (h : ∀ k, m.find? k = n.find? k) : m = n := by
  refine eq_of_perm m n hm hn ?_
  rw [List.perm_ext_iff_of_nodup (nodup_of_ascending m hm) (nodup_of_ascending n hn)]
  rintro ⟨k, v⟩
  rw [mem_iff_find? k v m hm, mem_iff_find? k v n hn, h k]

-- Keys stay where they are.
theorem ascending_map {γ : Type} (part : β → γ) (m : Keyed κ β) (hm : Ascending m) :
    Ascending (m.map fun e => (e.1, part e.2)) := by
  rw [Ascending, List.pairwise_map]
  exact hm

/-- They have the same part of every entry if looking up gives the same part. -/
theorem map_eq_of_find?_eq {γ : Type} [Std.LawfulEqOrd κ] [Std.TransOrd κ] (part : β → γ)
    (m n : Keyed κ β) (hm : Ascending m) (hn : Ascending n)
    (h : ∀ k, (m.find? k).map part = (n.find? k).map part) :
    m.map (fun e => (e.1, part e.2)) = n.map fun e => (e.1, part e.2) := by
  refine eq_of_find?_eq _ _ (ascending_map part m hm) (ascending_map part n hn) fun k => ?_
  rw [find?_mapWithKey (fun _ => part), find?_mapWithKey (fun _ => part), h k]

/-! ### Histories -/

theorem ascending_foldl_put [Std.LawfulEqOrd κ] [Std.TransOrd κ] (entries : List (κ × β))
    (m : Keyed κ β) (hm : Ascending m) :
    Ascending (entries.foldl (fun kept e => put e.1 e.2 kept) m) := by
  induction entries generalizing m with
  | nil => exact hm
  | cons e rest ih => exact ih _ (ascending_put e.1 e.2 m hm)

theorem ascending_ofList [Std.LawfulEqOrd κ] [Std.TransOrd κ] (entries : List (κ × β)) :
    Ascending (ofList entries) :=
  ascending_foldl_put entries [] ascending_nil

theorem mem_foldl_put (entries : List (κ × β)) (m : Keyed κ β) (e : κ × β)
    (he : e ∈ entries.foldl (fun kept e => put e.1 e.2 kept) m) : e ∈ m ∨ e ∈ entries := by
  induction entries generalizing m with
  | nil => exact Or.inl he
  | cons d rest ih =>
      rcases ih (put d.1 d.2 m) he with h | h
      · rcases mem_put d.1 d.2 m e h with heq | h
        · exact Or.inr (heq ▸ List.mem_cons_self)
        · exact Or.inl h
      · exact Or.inr (List.mem_cons_of_mem _ h)

theorem mem_ofList (entries : List (κ × β)) (e : κ × β) (he : e ∈ ofList entries) :
    e ∈ entries :=
  (mem_foldl_put entries [] e he).resolve_left List.not_mem_nil

/-- Looking up after a history, which begins with some entries. -/
theorem find?_foldl_put [Std.LawfulEqOrd κ] (entries : List (κ × β)) (m : Keyed κ β) (k : κ) :
    (entries.foldl (fun kept e => put e.1 e.2 kept) m).find? k =
      (find? k entries.reverse).or (find? k m) := by
  induction entries generalizing m with
  | nil => rfl
  | cons e rest ih =>
      rw [List.foldl_cons, ih, find?_put, List.reverse_cons, find?_append, Option.or_assoc]
      congr 1
      rw [find?, find?]
      by_cases h : compare k e.1 = .eq
      · rw [if_pos h, if_pos h, Option.some_or]
      · rw [if_neg h, if_neg h, Option.none_or]

/-- Of several entries under one key the last one counts, which is the first from
    behind. -/
theorem find?_ofList [Std.LawfulEqOrd κ] (entries : List (κ × β)) (k : κ) :
    (ofList entries).find? k = find? k entries.reverse := by
  rw [ofList, find?_foldl_put, find?, Option.or_none]

-- A new key takes nothing else's place.
theorem perm_put [Std.LawfulEqOrd κ] (k : κ) (v : β) (m : Keyed κ β)
    (hk : k ∉ m.map (·.1)) : (put k v m).Perm ((k, v) :: m) := by
  induction m with
  | nil => exact List.Perm.refl _
  | cons e rest ih =>
      rcases e with ⟨k₁, v₁⟩
      rw [List.map_cons, List.mem_cons, not_or] at hk
      rcases hcmp : compare k k₁ with _ | _ | _
      · rw [put, hcmp]
      · exact absurd (Std.compare_eq_iff_eq.mp hcmp) hk.1
      · rw [put, hcmp]
        exact ((ih hk.2).cons _).trans (List.Perm.swap _ _ _)

theorem perm_foldl_put [Std.LawfulEqOrd κ] (entries : List (κ × β)) (m : Keyed κ β)
    (h : ((m ++ entries).map (·.1)).Nodup) :
    (entries.foldl (fun kept e => put e.1 e.2 kept) m).Perm (m ++ entries) := by
  induction entries generalizing m with
  | nil => rw [List.append_nil, List.foldl_nil]
  | cons e rest ih =>
      have hmove : ((e :: m) ++ rest).Perm (m ++ e :: rest) := List.perm_middle.symm
      have hnew : e.1 ∉ m.map (·.1) := by
        have hnodup := (hmove.map (·.1)).nodup_iff.mpr h
        rw [List.cons_append, List.map_cons, List.nodup_cons, List.map_append] at hnodup
        exact fun hmem => hnodup.1 (List.mem_append_left _ hmem)
      have hput : (put e.1 e.2 m ++ rest).Perm ((e :: m) ++ rest) :=
        (perm_put e.1 e.2 m hnew).append_right rest
      rw [List.foldl_cons]
      refine (ih _ ?_).trans (hput.trans hmove)
      exact ((hput.trans hmove).map (·.1)).nodup_iff.mpr h

/-- No entry of a history is lost if no key is repeated. -/
theorem perm_ofList [Std.LawfulEqOrd κ] (entries : List (κ × β))
    (h : (entries.map (·.1)).Nodup) : (ofList entries).Perm entries :=
  perm_foldl_put entries [] h

theorem nodup_keys_of_ascending [Std.LawfulEqOrd κ] (m : Keyed κ β) (hm : Ascending m) :
    (m.map (·.1)).Nodup := by
  refine List.pairwise_map.mpr (hm.imp fun hlt heq => ?_)
  rw [heq, Std.compare_self] at hlt
  exact absurd hlt (by decide)

theorem ofList_of_ascending [Std.LawfulEqOrd κ] [Std.TransOrd κ] (m : Keyed κ β)
    (hm : Ascending m) : ofList m = m :=
  eq_of_perm _ _ (ascending_ofList m) hm (perm_ofList m (nodup_keys_of_ascending m hm))

theorem find?_ofList_of_nodup [Std.LawfulEqOrd κ] [Std.TransOrd κ] (entries : List (κ × β))
    (h : (entries.map (·.1)).Nodup) (k : κ) : (ofList entries).find? k = find? k entries := by
  rcases hfind : find? k entries with _ | v
  · rw [find?_eq_none_iff] at hfind ⊢
    exact fun hmem => hfind (((perm_ofList entries h).map (·.1)).mem_iff.mp hmem)
  · refine (mem_iff_find? k v _ (ascending_ofList entries)).mp ?_
    exact (perm_ofList entries h).mem_iff.mpr (mem_of_find? k v entries hfind)

/-- Histories that repeat no key come to the same if looking up in them does. -/
theorem ofList_congr [Std.LawfulEqOrd κ] [Std.TransOrd κ] (m n : List (κ × β))
    (hm : (m.map (·.1)).Nodup) (hn : (n.map (·.1)).Nodup) (h : ∀ k, find? k m = find? k n) :
    ofList m = ofList n := by
  refine eq_of_find?_eq _ _ (ascending_ofList m) (ascending_ofList n) fun k => ?_
  rw [find?_ofList_of_nodup m hm, find?_ofList_of_nodup n hn, h k]

-- This holds of any list, so no order has to be carried along.
theorem put_comm [Std.LawfulEqOrd κ] [Std.TransOrd κ] (k k' : κ) (v v' : β) (hne : k ≠ k')
    (m : Keyed κ β) : put k v (put k' v' m) = put k' v' (put k v m) := by
  -- It is enough to look at the smaller key first.
  have hlt : ∀ (a b : κ) (x y : β) (n : Keyed κ β), compare a b = .lt →
      put a x (put b y n) = put b y (put a x n) := by
    intro a b x y n hab
    have hba : compare b a = .gt := Std.OrientedCmp.gt_iff_lt.mpr hab
    induction n with
    | nil => simp only [put, hab, hba]
    | cons e rest ih =>
        rcases e with ⟨k₁, v₁⟩
        rcases ha : compare a k₁ with _ | _ | _
        · -- The smaller key goes in here, the other one here or further down.
          rcases hb : compare b k₁ with _ | _ | _ <;> simp only [put, ha, hb, hab, hba]
        · have hak : a = k₁ := Std.compare_eq_iff_eq.mp ha
          have hb : compare b k₁ = .gt := hak ▸ hba
          simp only [put, ha, hb, hba]
        · have hb : compare b k₁ = .gt := Std.OrientedCmp.gt_iff_lt.mpr
            (Std.TransCmp.lt_trans (Std.OrientedCmp.gt_iff_lt.mp ha) hab)
          simp only [put, ha, hb, ih]
  rcases hcmp : compare k k' with _ | _ | _
  · exact hlt k k' v v' m hcmp
  · exact absurd (Std.compare_eq_iff_eq.mp hcmp) hne
  · exact (hlt k' k v' v m (Std.OrientedCmp.gt_iff_lt.mp hcmp)).symm

end Keyed

end EventTables
