import EventTables.Proofs.Json.Value

/-!
# Values up to Order

When two values are the same but for the order of members.

The members of an object have no order that means anything, so two values are compared
by looking their members up. `Value.sorted` brings all members into key order, and two
values that it makes equal say the same under every name. This is so as long as no
object repeats a name, since sorting keeps one member of each.

## Main definitions

* `Value.Agrees`: The two values are the same but for the order of members.

## Theorems

* `agrees_array`: Arrays agree if their items do, one by one.
* `agrees_object_iff`: Objects agree if looking up any name in them does.
-/

namespace EventTables

namespace Json

namespace Value

/-- The two values are the same but for the order in which their objects give their
    members, and none of these objects repeats a name. -/
structure Agrees (v w : Value) : Prop where
  left : v.tree.NoRepeat
  right : w.tree.NoRepeat
  sorted : v.sorted = w.sorted

theorem agrees_self (v : Value) (h : v.tree.NoRepeat) : v.Agrees v :=
  ⟨h, h, rfl⟩

-- Scalars have no members.
theorem agrees_string (s : String) : (Value.string s).Agrees (.string s) :=
  agrees_self _ fun _ _ hpart => nomatch hpart

theorem agrees_boolean (b : Bool) : (Value.boolean b).Agrees (.boolean b) :=
  agrees_self _ fun _ _ hpart => nomatch hpart

theorem agrees_array (vs ws : List Value) (h : List.Forall₂ Agrees vs ws) :
    (Value.array vs).Agrees (.array ws) := by
  have hitems : (∀ v ∈ vs, v.tree.NoRepeat) ∧ (∀ w ∈ ws, w.tree.NoRepeat) ∧
      vs.map sorted = ws.map sorted := by
    induction h with
    | nil => exact ⟨List.forall_mem_nil _, List.forall_mem_nil _, rfl⟩
    | cons hvw _ ih =>
        rcases ih with ⟨hleft, hright, hsorted⟩
        exact ⟨List.forall_mem_cons.mpr ⟨hvw.left, hleft⟩,
          List.forall_mem_cons.mpr ⟨hvw.right, hright⟩,
          congrArg₂ List.cons hvw.sorted hsorted⟩
  refine ⟨noRepeat_tree_array vs hitems.1, noRepeat_tree_array ws hitems.2.1, ?_⟩
  rw [sorted, sorted, sortedItems_eq_map, sortedItems_eq_map, hitems.2.2]

/-! ### Objects -/

-- What is found among the members has its own members in key order there.
theorem find?_sortedMembers (ms : List (String × Value)) (k : String) :
    Keyed.find? k (sortedMembers ms) = (Keyed.find? k ms).map sorted := by
  rw [sortedMembers_eq_map, Keyed.find?_mapWithKey fun _ => Value.sorted]

theorem keys_sortedMembers (ms : List (String × Value)) :
    (sortedMembers ms).map (·.1) = ms.map (·.1) := by
  rw [sortedMembers_eq_map, List.map_map]
  rfl

theorem nodup_of_noRepeat_tree (ms : List (String × Value))
    (h : (Value.object ms).tree.NoRepeat) : (ms.map (·.1)).Nodup := by
  rw [tree, memberTrees_eq_map] at h
  have hmarked := h _ none (.self _)
  rw [List.map_map] at hmarked
  exact (nodup_marked_iff _).mp (by rw [List.map_map]; exact hmarked)

theorem noRepeat_tree_of_mem (ms : List (String × Value)) (h : (Value.object ms).tree.NoRepeat)
    (m : String × Value) (hm : m ∈ ms) : m.2.tree.NoRepeat := by
  rw [tree, memberTrees_eq_map] at h
  exact h.member (.ok m.1, m.2.tree) (List.mem_map.mpr ⟨m, hm, rfl⟩)

theorem map_sorted_of_rel {v? w? : Option Value} (h : Option.Rel Agrees v? w?) :
    v?.map sorted = w?.map sorted := by
  cases h with
  | none => rfl
  | some hagrees => exact congrArg some hagrees.sorted

/-- Objects agree exactly if they repeat no name and under every name they have either
    no member both or members that agree. -/
theorem agrees_object_iff (ms ns : List (String × Value)) :
    (Value.object ms).Agrees (.object ns) ↔
      (ms.map (·.1)).Nodup ∧ (ns.map (·.1)).Nodup ∧
        ∀ k, Option.Rel Agrees (Keyed.find? k ms) (Keyed.find? k ns) := by
  constructor
  · rintro ⟨hleft, hright, hsorted⟩
    have hms := nodup_of_noRepeat_tree ms hleft
    have hns := nodup_of_noRepeat_tree ns hright
    refine ⟨hms, hns, fun k => ?_⟩
    rw [sorted, sorted] at hsorted
    have hfind := congrArg (Keyed.find? k) (Value.object.inj hsorted)
    rw [Keyed.find?_ofList_of_nodup _ (keys_sortedMembers ms ▸ hms),
      Keyed.find?_ofList_of_nodup _ (keys_sortedMembers ns ▸ hns), find?_sortedMembers,
      find?_sortedMembers] at hfind
    rcases hv : Keyed.find? k ms with _ | v <;> rcases hw : Keyed.find? k ns with _ | w <;>
      rw [hv, hw] at hfind
    · exact .none
    · cases hfind
    · cases hfind
    · exact .some ⟨noRepeat_tree_of_mem ms hleft (k, v) (Keyed.mem_of_find? k v ms hv),
        noRepeat_tree_of_mem ns hright (k, w) (Keyed.mem_of_find? k w ns hw),
        Option.some.inj hfind⟩
  · rintro ⟨hms, hns, hrel⟩
    refine ⟨noRepeat_tree_object ms hms fun m hm => ?_, noRepeat_tree_object ns hns fun n hn => ?_,
      ?_⟩
    · have hm' := hrel m.1
      rw [Keyed.find?_of_mem m.1 m.2 ms hms hm] at hm'
      generalize Keyed.find? m.1 ns = found at hm'
      cases hm' with
      | some hagrees => exact hagrees.left
    · have hn' := hrel n.1
      rw [Keyed.find?_of_mem n.1 n.2 ns hns hn] at hn'
      generalize Keyed.find? n.1 ms = found at hn'
      cases hn' with
      | some hagrees => exact hagrees.right
    · rw [sorted, sorted]
      refine congrArg Value.object (Keyed.ofList_congr _ _ (keys_sortedMembers ms ▸ hms)
        (keys_sortedMembers ns ▸ hns) fun k => ?_)
      rw [find?_sortedMembers, find?_sortedMembers]
      exact map_sorted_of_rel (hrel k)

end Value

end Json

end EventTables
