import EventTables.Json.Codec
import EventTables.Proofs.Keyed
import EventTables.Proofs.Outcome
import Mathlib.Data.List.Forall2
import Mathlib.Data.List.Nodup

/-!
# Laws of Trees and Values

What a value keeps of the tree that it was read from, and when a tree can be made
of it again.

A tree keeps everything that a document says, a value only what it means: its
members have an order of their own, and none is repeated. Reading a value is
therefore not one to one, but it can be gone back on. `IsRead` describes the
values that reading can lead to, and each of them, made into a tree, is read as
itself (`value_tree_of_isRead`), no matter how it was read the first time. So
whatever goes by way of a value loses nothing more the second time.

A value that is written by this library is not of that kind, since its members
come in the order of a description. What it has instead is `Fits`: no member is
repeated, and no more is open at once than a text allows. That is enough for its
tree to be read, and the value that comes out is the same in key order.

## Main definitions

* `Tree.Holds`: One tree is a part of another.
* `Tree.NoRepeat`: No object repeats the name of a member.
* `Value.IsExact`: All numbers are whole numbers of 64 bits.
* `Value.IsRead`: What reading can lead to.
* `Value.Fits`: What is written can be read back.

## Theorems

* `isRead_of_value`: Reading leads to such a value.
* `value_tree_of_isRead`: Such a value is read as itself.
* `fits_of_isRead`: It can be written and read back if it is exact.
* `value_tree_of_fits`: What can be read back comes back in key order.
* `noRepeat_tree_of_fits`, `noRepeat_tree_of_isRead`: Neither kind repeats a name.
-/

namespace EventTables

namespace Json

/-! ### Lists of parts -/

theorem Value.trees_eq_map (vs : List Value) : Value.trees vs = vs.map Value.tree := by
  induction vs with
  | nil => rfl
  | cons v vs ih => rw [Value.trees, ih, List.map_cons]

theorem Value.memberTrees_eq_map (ms : List (String × Value)) :
    Value.memberTrees ms = ms.map fun m => (.ok m.1, m.2.tree) := by
  induction ms with
  | nil => rfl
  | cons m ms ih => rw [Value.memberTrees, ih, List.map_cons]

theorem Value.sortedItems_eq_map (vs : List Value) :
    Value.sortedItems vs = vs.map Value.sorted := by
  induction vs with
  | nil => rfl
  | cons v vs ih => rw [Value.sortedItems, ih, List.map_cons]

theorem Value.sortedMembers_eq_map (ms : List (String × Value)) :
    Value.sortedMembers ms = ms.map fun m => (m.1, m.2.sorted) := by
  induction ms with
  | nil => rfl
  | cons m ms ih => rw [Value.sortedMembers, ih, List.map_cons]

namespace Tree

/-- Items are read one by one. -/
theorem values_eq_ok_iff (o : Origin) (ts : List Tree) (vs : List Value) :
    values o ts = .ok vs ↔ List.Forall₂ (fun t v => t.value o = .ok v) ts vs := by
  induction ts generalizing vs with
  | nil =>
      rw [values, Except.ok.injEq, List.forall₂_nil_left_iff]
      exact eq_comm
  | cons t ts ih =>
      rw [values, bind_eq_ok_iff, List.forall₂_cons_left_iff]
      refine exists_congr fun v => ?_
      rw [bind_eq_ok_iff]
      constructor
      · rintro ⟨hv, us, hus, hvs⟩
        exact ⟨us, hv, (ih us).mp hus, (Except.ok.inj hvs).symm⟩
      · rintro ⟨us, hv, hus, rfl⟩
        exact ⟨hv, us, (ih us).mpr hus, rfl⟩

/-- Members are read one by one, each with its name. -/
theorem memberValues_eq_ok_iff (o : Origin) (ms : List (Except Fault String × Tree))
    (vs : List (String × Value)) :
    memberValues o ms = .ok vs ↔
      List.Forall₂ (fun m e => m.1 = .ok e.1 ∧ m.2.value o = .ok e.2) ms vs := by
  induction ms generalizing vs with
  | nil =>
      rw [memberValues, Except.ok.injEq, List.forall₂_nil_left_iff]
      exact eq_comm
  | cons m ms ih =>
      rcases m with ⟨f | name, t⟩
      · rw [memberValues, List.forall₂_cons_left_iff]
        simp only [reduceCtorEq, false_and, exists_false]
      · rw [memberValues, bind_eq_ok_iff, List.forall₂_cons_left_iff]
        constructor
        · rintro ⟨v, hv, hrest⟩
          rcases (bind_eq_ok_iff _ _ _).mp hrest with ⟨us, hus, hvs⟩
          exact ⟨(name, v), us, ⟨rfl, hv⟩, (ih us).mp hus, (Except.ok.inj hvs).symm⟩
        · rintro ⟨⟨name', v⟩, us, ⟨hname, hv⟩, hus, rfl⟩
          cases hname
          exact ⟨v, hv, (bind_eq_ok_iff _ _ _).mpr ⟨us, (ih us).mpr hus, rfl⟩⟩

theorem unbroken_eq_ok_iff (breach : Option Breach) : unbroken breach = .ok () ↔ breach = none := by
  cases breach with
  | none => exact iff_of_true rfl rfl
  | some b => exact iff_of_false (fun h => (nomatch h)) (fun h => (nomatch h))

theorem value_array_eq_ok_iff (o : Origin) (items : List Tree) (breach : Option Breach)
    (v : Value) :
    (Tree.array items breach).value o = .ok v ↔
      ∃ inner vs, o.enter = .ok inner ∧
        List.Forall₂ (fun t v => t.value inner = .ok v) items vs ∧ breach = none ∧
        v = .array vs := by
  simp only [value, bind_eq_ok_iff, values_eq_ok_iff]
  constructor
  · rintro ⟨inner, hinner, vs, hvs, ⟨⟩, hbreach, hv⟩
    exact ⟨inner, vs, hinner, hvs, (unbroken_eq_ok_iff breach).mp hbreach, (Except.ok.inj hv).symm⟩
  · rintro ⟨inner, vs, hinner, hvs, rfl, rfl⟩
    exact ⟨inner, hinner, vs, hvs, (), rfl, rfl⟩

theorem value_object_eq_ok_iff (o : Origin) (members : List (Except Fault String × Tree))
    (breach : Option Breach) (v : Value) :
    (Tree.object members breach).value o = .ok v ↔
      ∃ inner vs, o.enter = .ok inner ∧
        List.Forall₂ (fun m e => m.1 = .ok e.1 ∧ m.2.value inner = .ok e.2) members vs ∧
        breach = none ∧ v = .object (Keyed.ofList vs) := by
  simp only [value, bind_eq_ok_iff, memberValues_eq_ok_iff]
  constructor
  · rintro ⟨inner, hinner, vs, hvs, ⟨⟩, hbreach, hv⟩
    exact ⟨inner, vs, hinner, hvs, (unbroken_eq_ok_iff breach).mp hbreach, (Except.ok.inj hv).symm⟩
  · rintro ⟨inner, vs, hinner, hvs, rfl, rfl⟩
    exact ⟨inner, hinner, vs, hvs, (), rfl, rfl⟩

/-- A tree that has a value is one of six, and so is its value. -/
@[elab_as_elim]
theorem value_cases {o : Origin} {P : ∀ t v, value o t = .ok v → Prop}
    (null : P .null .null rfl) (boolean : ∀ b, P (.boolean b) (.boolean b) rfl)
    (number : ∀ n, P (.number (some n)) (.number n) rfl)
    (string : ∀ s, P (.string (.ok s)) (.string s) rfl)
    (array : ∀ inner items vs h, o.enter = .ok inner →
      List.Forall₂ (fun t v => t.value inner = .ok v) items vs →
        P (.array items none) (.array vs) h)
    (object : ∀ inner members vs h, o.enter = .ok inner →
      List.Forall₂ (fun m e => m.1 = .ok e.1 ∧ m.2.value inner = .ok e.2) members vs →
        P (.object members none) (.object (Keyed.ofList vs)) h)
    (t : Tree) (v : Value) (h : value o t = .ok v) : P t v h := by
  rcases t with _ | b | (_ | n) | (f | s) | ⟨items, breach⟩ | ⟨members, breach⟩ | b
  · cases h
    exact null
  · cases h
    exact boolean b
  · exact nomatch h
  · cases h
    exact number n
  · exact nomatch h
  · cases h
    exact string s
  · rcases (value_array_eq_ok_iff o items breach v).mp h with ⟨inner, vs, hinner, hvs, rfl, rfl⟩
    exact array inner items vs h hinner hvs
  · rcases (value_object_eq_ok_iff o members breach v).mp h with ⟨inner, vs, hinner, hvs, rfl, rfl⟩
    exact object inner members vs h hinner hvs
  · exact nomatch h

/-! ### Induction on trees -/

/-- What holds of a tree if it holds of its items or members, holds of all
    trees. -/
@[elab_as_elim]
theorem induct {P : Tree → Prop}
    (array : ∀ items breach, (∀ t ∈ items, P t) → P (.array items breach))
    (object : ∀ members breach, (∀ m ∈ members, P m.2) → P (.object members breach))
    (null : P .null) (boolean : ∀ b, P (.boolean b)) (number : ∀ n, P (.number n))
    (string : ∀ s, P (.string s)) (broken : ∀ b, P (.broken b)) (t : Tree) : P t :=
  match t with
  | .array items breach => array items breach fun t ht =>
      have := List.sizeOf_lt_of_mem ht
      induct array object null boolean number string broken t
  | .object members breach => object members breach fun m hm =>
      have := List.sizeOf_lt_of_mem hm
      induct array object null boolean number string broken m.2
  | .null => null
  | .boolean b => boolean b
  | .number n => number n
  | .string s => string s
  | .broken b => broken b
termination_by sizeOf t
decreasing_by
  · simp only [Tree.array.sizeOf_spec]
    omega
  · rcases m with ⟨k, t⟩
    simp only [Tree.object.sizeOf_spec, Prod.mk.sizeOf_spec] at *
    omega

/-! ### Parts of trees -/

/-- The second tree is a part of the first, or the first itself. -/
inductive Holds : Tree → Tree → Prop where
  | self (t : Tree) : Holds t t
  | item {items : List Tree} {breach : Option Breach} {t part : Tree} :
      t ∈ items → Holds t part → Holds (.array items breach) part
  | member {members : List (Except Fault String × Tree)} {breach : Option Breach}
      {m : Except Fault String × Tree} {part : Tree} :
      m ∈ members → Holds m.2 part → Holds (.object members breach) part

/-- No object in the tree repeats the name of a member. -/
def NoRepeat (t : Tree) : Prop :=
  ∀ members breach, t.Holds (.object members breach) → (members.map (·.1)).Nodup

theorem NoRepeat.item {items : List Tree} {breach : Option Breach}
    (h : (Tree.array items breach).NoRepeat) (t : Tree) (ht : t ∈ items) : t.NoRepeat :=
  fun members breach hpart => h members breach (.item ht hpart)

theorem NoRepeat.member {members : List (Except Fault String × Tree)} {breach : Option Breach}
    (h : (Tree.object members breach).NoRepeat) (m : Except Fault String × Tree)
    (hm : m ∈ members) : m.2.NoRepeat :=
  fun members breach hpart => h members breach (.member hm hpart)

theorem noRepeat_array (items : List Tree) (breach : Option Breach)
    (h : ∀ t ∈ items, t.NoRepeat) : (Tree.array items breach).NoRepeat := by
  intro members breach' hpart
  cases hpart with
  | item ht hpart => exact h _ ht members breach' hpart

theorem noRepeat_object (members : List (Except Fault String × Tree)) (breach : Option Breach)
    (hnames : (members.map (·.1)).Nodup) (h : ∀ m ∈ members, m.2.NoRepeat) :
    (Tree.object members breach).NoRepeat := by
  intro members' breach' hpart
  cases hpart with
  | self => exact hnames
  | member hm hpart => exact h _ hm members' breach' hpart

end Tree

namespace Value

/-! ### Values that were read -/

/-- A value that reading can lead to. No more arrays and objects are open at once
    than its origin allows, and all members are in key order. -/
inductive IsRead : Origin → Value → Prop where
  | null (o : Origin) : IsRead o .null
  | boolean (o : Origin) (b : Bool) : IsRead o (.boolean b)
  | number (o : Origin) (n : Number) : IsRead o (.number n)
  | string (o : Origin) (s : String) : IsRead o (.string s)
  | array {o inner : Origin} {items : List Value} :
      o.enter = .ok inner → (∀ v ∈ items, IsRead inner v) → IsRead o (.array items)
  | object {o inner : Origin} {members : List (String × Value)} :
      o.enter = .ok inner → Keyed.Ascending members → (∀ m ∈ members, IsRead inner m.2) →
        IsRead o (.object members)

theorem isRead_of_value (t : Tree) (o : Origin) (v : Value) (h : t.value o = .ok v) :
    v.IsRead o := by
  induction t using Tree.induct generalizing o v with
  | array items breach ih =>
      rcases (Tree.value_array_eq_ok_iff o items breach v).mp h with
        ⟨inner, vs, hinner, hvs, _, rfl⟩
      refine .array hinner fun u hu => ?_
      rcases List.forall₂_iff_get.mp hvs with ⟨hlen, hget⟩
      rcases List.mem_iff_get.mp hu with ⟨⟨i, hi⟩, rfl⟩
      exact ih _ (List.get_mem _ _) inner _ (hget i (hlen ▸ hi) hi)
  | object members breach ih =>
      rcases (Tree.value_object_eq_ok_iff o members breach v).mp h with
        ⟨inner, vs, hinner, hvs, _, rfl⟩
      refine .object hinner (Keyed.ascending_ofList vs) fun e he => ?_
      -- What is in key order comes from one of the members.
      have hmem := Keyed.mem_ofList vs e he
      rcases List.forall₂_iff_get.mp hvs with ⟨hlen, hget⟩
      rcases List.mem_iff_get.mp hmem with ⟨⟨i, hi⟩, rfl⟩
      exact ih _ (List.get_mem _ _) inner _ (hget i (hlen ▸ hi) hi).2
  | null =>
      cases h
      exact .null o
  | boolean b =>
      cases h
      exact .boolean o b
  | number n =>
      cases n with
      | none => exact nomatch h
      | some n =>
          cases h
          exact .number o n
  | string s =>
      cases s with
      | error f => exact nomatch h
      | ok s =>
          cases h
          exact .string o s
  | broken b => exact nomatch h

-- A parsed value may be as deep as it likes.
theorem IsRead.parsed {o : Origin} {v : Value} (h : v.IsRead o) : v.IsRead .parsed := by
  induction h with
  | null => exact .null _
  | boolean _ b => exact .boolean _ b
  | number _ n => exact .number _ n
  | string _ s => exact .string _ s
  | array _ _ ih => exact .array rfl ih
  | object _ hascending _ ih => exact .object rfl hascending ih

theorem IsRead.mono {room more : Nat} {v : Value} (h : v.IsRead (.text room))
    (hmore : room ≤ more) : v.IsRead (.text more) := by
  generalize ho : Origin.text room = o at h
  induction h generalizing room more with
  | null => exact .null _
  | boolean _ b => exact .boolean _ b
  | number _ n => exact .number _ n
  | string _ s => exact .string _ s
  | array henter _ ih =>
      subst ho
      rcases room with _ | room
      · exact nomatch henter
      · rcases more with _ | more
        · exact absurd hmore (Nat.not_succ_le_zero _)
        · exact .array rfl fun v hv => ih v hv (Nat.le_of_succ_le_succ hmore) (Except.ok.inj henter)
  | object henter hascending _ ih =>
      subst ho
      rcases room with _ | room
      · exact nomatch henter
      · rcases more with _ | more
        · exact absurd hmore (Nat.not_succ_le_zero _)
        · exact .object rfl hascending fun m hm =>
            ih m hm (Nat.le_of_succ_le_succ hmore) (Except.ok.inj henter)

theorem IsRead.sorted_eq {o : Origin} {v : Value} (h : v.IsRead o) : v.sorted = v := by
  induction h with
  | null => rfl
  | boolean => rfl
  | number => rfl
  | string => rfl
  | array _ _ ih =>
      rw [sorted, sortedItems_eq_map, List.map_congr_left ih, List.map_id']
  | @object o inner members _ hascending _ ih =>
      have hsame : ∀ m ∈ members, (m.1, m.2.sorted) = m := fun m hm => Prod.ext rfl (ih m hm)
      rw [sorted, sortedMembers_eq_map, List.map_congr_left hsame, List.map_id',
        Keyed.ofList_of_ascending _ hascending]

/-! ### Values that can be read back -/

/-- A value that can be written and read back where so many arrays and objects may
    be opened. All its numbers are exact, and no member is repeated. -/
inductive Fits : Nat → Value → Prop where
  | null (room : Nat) : Fits room .null
  | boolean (room : Nat) (b : Bool) : Fits room (.boolean b)
  | natural (room : Nat) (n : UInt64) : Fits room (.number (.natural n))
  | negative (room : Nat) (m : Fin negativeCount) : Fits room (.number (.negative m))
  | string (room : Nat) (s : String) : Fits room (.string s)
  | array {room : Nat} {items : List Value} :
      (∀ v ∈ items, Fits room v) → Fits (room + 1) (.array items)
  | object {room : Nat} {members : List (String × Value)} :
      (members.map (·.1)).Nodup → (∀ m ∈ members, Fits room m.2) →
        Fits (room + 1) (.object members)

/-- All numbers in the value are whole numbers of 64 bits. -/
inductive IsExact : Value → Prop where
  | null : IsExact .null
  | boolean (b : Bool) : IsExact (.boolean b)
  | natural (n : UInt64) : IsExact (.number (.natural n))
  | negative (m : Fin negativeCount) : IsExact (.number (.negative m))
  | string (s : String) : IsExact (.string s)
  | array {items : List Value} : (∀ v ∈ items, IsExact v) → IsExact (.array items)
  | object {members : List (String × Value)} :
      (∀ m ∈ members, IsExact m.2) → IsExact (.object members)

theorem Fits.isExact {room : Nat} {v : Value} (h : v.Fits room) : v.IsExact := by
  induction h with
  | null => exact .null
  | boolean room b => exact .boolean b
  | natural room n => exact .natural n
  | negative room m => exact .negative m
  | string room s => exact .string s
  | array _ ih => exact .array ih
  | object _ _ ih => exact .object ih

-- A value that was read from text leaves room for what was open around it.
theorem fits_of_isRead {room : Nat} {v : Value} (h : v.IsRead (.text room)) (hexact : v.IsExact) :
    v.Fits room := by
  generalize ho : Origin.text room = o at h
  induction h generalizing room with
  | null => exact .null _
  | boolean _ b => exact .boolean _ b
  | number _ n =>
      cases hexact with
      | natural n => exact .natural _ n
      | negative m => exact .negative _ m
  | string _ s => exact .string _ s
  | array henter _ ih =>
      subst ho
      cases hexact with
      | array hitems =>
          rcases room with _ | room
          · exact nomatch henter
          · exact .array fun v hv => ih v hv (hitems v hv) (Except.ok.inj henter)
  | object henter hascending _ ih =>
      subst ho
      cases hexact with
      | object hmembers =>
          rcases room with _ | room
          · exact nomatch henter
          · exact .object (Keyed.nodup_keys_of_ascending _ hascending) fun m hm =>
              ih m hm (hmembers m hm) (Except.ok.inj henter)

/-! ### Trees of values -/

theorem forall₂_tree (o : Origin) (items : List Value) (result : Value → Value)
    (h : ∀ v ∈ items, v.tree.value o = .ok (result v)) :
    List.Forall₂ (fun t v => t.value o = .ok v) (items.map tree) (items.map result) := by
  rw [List.forall₂_map_left_iff, List.forall₂_map_right_iff, List.forall₂_same]
  exact h

theorem forall₂_memberTree (o : Origin) (members : List (String × Value)) (result : Value → Value)
    (h : ∀ m ∈ members, m.2.tree.value o = .ok (result m.2)) :
    List.Forall₂
      (fun (m : Except Fault String × Tree) e => m.1 = .ok e.1 ∧ m.2.value o = .ok e.2)
      (members.map fun m => (.ok m.1, m.2.tree)) (members.map fun m => (m.1, result m.2)) := by
  rw [List.forall₂_map_left_iff, List.forall₂_map_right_iff, List.forall₂_same]
  exact fun m hm => ⟨rfl, h m hm⟩

/-- A value that was read is read from its tree as itself. -/
theorem value_tree_of_isRead {o : Origin} {v : Value} (h : v.IsRead o) :
    v.tree.value o = .ok v := by
  induction h with
  | null => rfl
  | boolean => rfl
  | number => rfl
  | string => rfl
  | @array o inner items henter _ ih =>
      have hparts := forall₂_tree inner items id ih
      rw [List.map_id] at hparts
      rw [tree, trees_eq_map, Tree.value_array_eq_ok_iff]
      exact ⟨inner, items, henter, hparts, rfl, rfl⟩
  | @object o inner members henter hascending _ ih =>
      have hparts := forall₂_memberTree inner members id ih
      rw [show (members.map fun m => (m.1, id m.2)) = members from List.map_id' members] at hparts
      rw [tree, memberTrees_eq_map, Tree.value_object_eq_ok_iff]
      exact ⟨inner, members, henter, hparts, rfl,
        congrArg _ (Keyed.ofList_of_ascending _ hascending).symm⟩

/-- A value that can be read back is read from its tree, with its members in key
    order. -/
theorem value_tree_of_fits {room : Nat} {v : Value} (h : v.Fits room) :
    v.tree.value (.text room) = .ok v.sorted := by
  induction h with
  | null => rfl
  | boolean => rfl
  | natural => rfl
  | negative => rfl
  | string => rfl
  | @array room items _ ih =>
      rw [tree, trees_eq_map, sorted, sortedItems_eq_map, Tree.value_array_eq_ok_iff]
      exact ⟨.text room, _, rfl, forall₂_tree _ items sorted ih, rfl, rfl⟩
  | @object room members _ _ ih =>
      rw [tree, memberTrees_eq_map, sorted, sortedMembers_eq_map, Tree.value_object_eq_ok_iff]
      exact ⟨.text room, _, rfl, forall₂_memberTree _ members sorted ih, rfl, rfl⟩

/-! ### Names in trees of values -/

-- Names stay different when they are marked as good ones.
theorem nodup_marked_iff (names : List String) :
    (names.map (Except.ok : String → Except Fault String)).Nodup ↔ names.Nodup :=
  List.nodup_map_iff fun _ _ h => Except.ok.inj h

theorem noRepeat_tree_array (items : List Value) (h : ∀ v ∈ items, v.tree.NoRepeat) :
    (Value.array items).tree.NoRepeat := by
  rw [tree, trees_eq_map]
  refine Tree.noRepeat_array _ none fun t ht => ?_
  rcases List.mem_map.mp ht with ⟨v, hv, rfl⟩
  exact h v hv

theorem noRepeat_tree_object (members : List (String × Value))
    (hnames : (members.map (·.1)).Nodup) (h : ∀ m ∈ members, m.2.tree.NoRepeat) :
    (Value.object members).tree.NoRepeat := by
  rw [tree, memberTrees_eq_map]
  refine Tree.noRepeat_object _ none ?_ fun m hm => ?_
  · have hmarked := (nodup_marked_iff _).mpr hnames
    rw [List.map_map] at hmarked ⊢
    exact hmarked
  · rcases List.mem_map.mp hm with ⟨m', hm', rfl⟩
    exact h m' hm'

theorem noRepeat_tree_of_fits {room : Nat} {v : Value} (h : v.Fits room) : v.tree.NoRepeat := by
  induction h with
  | null => exact fun _ _ hpart => nomatch hpart
  | boolean => exact fun _ _ hpart => nomatch hpart
  | natural => exact fun _ _ hpart => nomatch hpart
  | negative => exact fun _ _ hpart => nomatch hpart
  | string => exact fun _ _ hpart => nomatch hpart
  | array _ ih => exact noRepeat_tree_array _ ih
  | object hnames _ ih => exact noRepeat_tree_object _ hnames ih

theorem noRepeat_tree_of_isRead {o : Origin} {v : Value} (h : v.IsRead o) : v.tree.NoRepeat := by
  induction h with
  | null => exact fun _ _ hpart => nomatch hpart
  | boolean => exact fun _ _ hpart => nomatch hpart
  | number => exact fun _ _ hpart => nomatch hpart
  | string => exact fun _ _ hpart => nomatch hpart
  | array _ _ ih => exact noRepeat_tree_array _ ih
  | object _ hascending _ ih =>
      exact noRepeat_tree_object _ (Keyed.nodup_keys_of_ascending _ hascending) ih

end Value

end Json

end EventTables
