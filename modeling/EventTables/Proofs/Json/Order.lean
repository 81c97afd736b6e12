import EventTables.Proofs.Json.Record
import Mathlib.Data.List.Pairwise

/-!
# Records in Any Order

A record is read from a document as it is read from the value of the document.

A value has its members in an order of its own, whatever order they had in the
document. So the two readings of a record go through the same members in two
orders, and come to the same only if the members may be interchanged: to set one
leaves the others alone, and what is not described is passed over or kept apart
(`Shape.IsOrderless`). No two members of an object may have the same name, as the
value keeps only one of them. What differs between the two readings is which
error is found first.

## Main definitions

* `Orderless`: Two steps of reading may be interchanged.
* `Member.Apart`: Two members may come in either order.
* `Member.ReadsValues`: A member is read as its value is.
* `Shape.IsOrderless`: The members of an object may come in any order.

## Theorems

* `Member.apart_of_sets`: Members that set different things are apart.
* `IsOrderless.foldl_step`: The order of the members does not matter.
* `readsValues_closed`, `readsValues_opened`: A record is read as its value is.
-/

namespace EventTables

namespace Json

variable {α β γ : Type}

/-! ### Steps in any order -/

/-- Two steps of reading come to the same in either order, but for errors. -/
def Orderless (f g : α → Except Error α) : Prop :=
  ∀ a, (f a >>= g).toOption = (g a >>= f).toOption

theorem Orderless.symm {f g : α → Except Error α} (h : Orderless f g) : Orderless g f :=
  fun a => (h a).symm

-- Something is read, and set in the record only then.
theorem orderless_map (x : Except Error β) (y : Except Error γ) (set : β → α → α)
    (set' : γ → α → α) (h : ∀ v w a, set' w (set v a) = set v (set' w a)) :
    Orderless (fun a => x.map (set · a)) (fun a => y.map (set' · a)) := by
  intro a
  rcases x with e | v <;> rcases y with e' | w
  · rfl
  · rfl
  · rfl
  · exact congrArg some (h v w a)

theorem orderless_error (f : α → Except Error α) (e : Error) : Orderless f fun _ => .error e := by
  intro a
  rw [toOption_bind, toOption_bind]
  exact Option.bind_fun_none (f a).toOption

-- What is passed over may be passed over earlier or later.
theorem orderless_skip (f : α → Except Error α) (t : Tree) :
    Orderless f fun a => t.skip.map fun _ => a := by
  cases t.skip with
  | error e => exact orderless_error f e
  | ok u =>
      intro a
      rw [toOption_bind, toOption_bind]
      exact Option.bind_fun_some (f a).toOption

theorem skip_of_value {t : Tree} {o : Origin} {v : Value} (h : t.value o = .ok v) :
    t.skip = .ok () := by
  induction t, v, h using Tree.value_cases <;> rfl

namespace Member

/-- Two members may come in either order. -/
def Apart (m n : Member α) : Prop :=
  ∀ o t u, Orderless (m.store o t) (n.store o u)

theorem apart_of_sets {m n : Member α} {read : Origin → Tree → Except Error β}
    {read' : Origin → Tree → Except Error γ} {set : β → α → α} {set' : γ → α → α}
    (hm : m.Sets read set) (hn : n.Sets read' set')
    (h : ∀ v w a, set' w (set v a) = set v (set' w a)) : m.Apart n := by
  intro o t u
  rw [show m.store o t = fun a => (read o t).map (set · a) from funext (hm o t),
    show n.store o u = fun a => (read' o u).map (set' · a) from funext (hn o u)]
  exact orderless_map _ _ set set' h

/-- The member may come before or after something that is kept besides. -/
def Aside (m : Member α) (add : String → Value → α → α) : Prop :=
  ∀ o t k v, Orderless (m.store o t) fun a => .ok (add k v a)

theorem aside_of_sets {m : Member α} {read : Origin → Tree → Except Error β} {set : β → α → α}
    {add : String → Value → α → α} (hm : m.Sets read set)
    (h : ∀ k w v a, add k w (set v a) = set v (add k w a)) : m.Aside add := by
  intro o t k w
  rw [show m.store o t = fun a => (read o t).map (set · a) from funext (hm o t)]
  exact orderless_map _ (.ok w) set (add k) fun v w a => h k w v a

/-- The member is read from a tree as it is from the value of the tree. -/
def ReadsValues (m : Member α) : Prop :=
  ∀ o t v a, t.value o = .ok v → t.NoRepeat →
    (m.store o t a).toOption = (m.store .parsed v.tree a).toOption

theorem readsValues_needed {name : String} {c : Codec β} {get : α → β} {set : β → α → α}
    (hc : c.ReadsValues) : (needed name c get set).ReadsValues := by
  intro o t v a hv hrepeat
  simp only [needed, toOption_map, hc o t v hv hrepeat]

theorem readsValues_withDefault {name : String} {c : Codec β} {get : α → β} {set : β → α → α}
    (hc : c.ReadsValues) : (withDefault name c get set).ReadsValues := by
  have hneeded : (needed name c get set).ReadsValues := readsValues_needed hc
  exact hneeded

theorem readsValues_optional {name : String} {c : Codec β} {get : α → Option β}
    {set : Option β → α → α} (hc : c.ReadsValues) : (optional name c get set).ReadsValues := by
  intro o t v a hv hrepeat
  have hread := hc o t v hv hrepeat
  induction t, v, hv using Tree.value_cases with
  | null => rfl
  | boolean b => simp only [optional, Value.tree, toOption_map, hread]
  | number n => simp only [optional, Value.tree, toOption_map, hread]
  | string s => simp only [optional, Value.tree, toOption_map, hread]
  | array inner items vs _ _ _ =>
      simp only [Value.tree] at hread
      simp only [optional, Value.tree, toOption_map, hread]
  | object inner members vs _ _ _ =>
      simp only [Value.tree] at hread
      simp only [optional, Value.tree, toOption_map, hread]

end Member

namespace Shape

variable {s : Shape α}

/-! ### Members in any order -/

/-- The members of an object may come in any order, the described ones and the
    others. -/
structure IsOrderless (unknown : Origin → String → Tree → α → Except Error α) : Prop where
  apart : s.members.Pairwise Member.Apart
  aside : ∀ m ∈ s.members, ∀ o t name u, Orderless (m.store o t) (unknown o name u)
  others : ∀ o name name' t u, name ≠ name' →
    Orderless (unknown o name t) (unknown o name' u)

variable {unknown : Origin → String → Tree → α → Except Error α}

theorem IsOrderless.take (h : s.IsOrderless unknown) (o : Origin) (e e' : String × Tree)
    (hne : e.1 ≠ e'.1) :
    Orderless (s.take o (unknown o) e) (s.take o (unknown o) e') := by
  rcases hfind : s.members.find? fun m => m.name == e.1 with _ | m <;>
    rcases hfind' : s.members.find? fun m => m.name == e'.1 with _ | m'
  · rw [take_of_other s o _ hfind, take_of_other s o _ hfind']
    exact h.others o e.1 e'.1 e.2 e'.2 hne
  · rw [take_of_other s o _ hfind, take_of_known s o _ hfind']
    exact (h.aside m' (List.mem_of_find?_eq_some hfind') o e'.2 e.1 e.2).symm
  · rw [take_of_known s o _ hfind, take_of_other s o _ hfind']
    exact h.aside m (List.mem_of_find?_eq_some hfind) o e.2 e'.1 e'.2
  · rw [take_of_known s o _ hfind, take_of_known s o _ hfind']
    have hsymm : Std.Symm (Member.Apart (α := α)) :=
      ⟨fun m n hmn o t u => (hmn o u t).symm⟩
    refine h.apart.forall (List.mem_of_find?_eq_some hfind)
      (List.mem_of_find?_eq_some hfind') (fun heq => hne ?_) o e.2 e'.2
    -- Members found under two names are two members.
    rw [← s.name_of_find? hfind, ← s.name_of_find? hfind', heq]

theorem IsOrderless.foldl_step (h : s.IsOrderless unknown) (o : Origin)
    (es es' : List (String × Tree)) (hperm : es.Perm es') (hnames : (es.map (·.1)).Nodup)
    (kept : Option α) :
    es.foldl (s.step o (unknown o)) kept = es'.foldl (s.step o (unknown o)) kept := by
  refine hperm.foldl_eq' (fun e he e' he' kept => ?_) kept
  by_cases heq : e.1 = e'.1
  · rw [List.inj_on_of_nodup_map hnames he he' heq]
  · cases kept with
    | none => rfl
    | some a =>
        have hswap := h.take o e e' heq a
        rw [toOption_bind, toOption_bind] at hswap
        exact hswap

theorem complete_perm (names names' : List String) (h : names.Perm names') :
    s.complete names = s.complete names' := by
  simp only [complete, h.contains_eq]

/-! ### Reading values -/

-- The members of a document, with what they are worth.
theorem exists_entries (inner : Origin) (members : List (Except Fault String × Tree))
    (vs : List (String × Value))
    (hvs : List.Forall₂ (fun m e => m.1 = .ok e.1 ∧ m.2.value inner = .ok e.2) members vs) :
    ∃ es : List (String × Tree), members = es.map entry ∧ es.map (·.1) = vs.map (·.1) ∧
      List.Forall₂ (fun e v => e.1 = v.1 ∧ e.2.value inner = .ok v.2) es vs := by
  induction hvs with
  | nil => exact ⟨[], rfl, rfl, .nil⟩
  | @cons m v _ _ hm _ ih =>
      rcases m with ⟨_, t⟩
      rcases hm with ⟨rfl, hv⟩
      rcases ih with ⟨es, rfl, hnames, hes⟩
      exact ⟨(v.1, t) :: es, rfl, congrArg (v.1 :: ·) hnames, .cons ⟨rfl, hv⟩ hes⟩

/-- What is not described is read alike from a tree and from its value. -/
def PassesValues (unknown : Origin → String → Tree → α → Except Error α) : Prop :=
  ∀ o t v name a, t.value o = .ok v →
    (unknown o name t a).toOption = (unknown .parsed name v.tree a).toOption

theorem foldl_step_values (hmembers : ∀ m ∈ s.members, m.ReadsValues)
    (hunknown : PassesValues unknown) (inner : Origin) (es : List (String × Tree))
    (vs : List (String × Value))
    (hvs : List.Forall₂ (fun e v => e.1 = v.1 ∧ e.2.value inner = .ok v.2) es vs)
    (hrepeat : ∀ e ∈ es, e.2.NoRepeat) (kept : Option α) :
    es.foldl (s.step inner (unknown inner)) kept =
      (vs.map fun v => (v.1, v.2.tree)).foldl (s.step .parsed (unknown .parsed)) kept := by
  induction hvs generalizing kept with
  | nil => rfl
  | @cons e v es vs hev _ ih =>
      rcases List.forall_mem_cons.mp hrepeat with ⟨he, hes⟩
      rw [List.foldl_cons, List.map_cons, List.foldl_cons, ih hes]
      congr 1
      refine Option.bind_congr fun a _ => ?_
      rcases e with ⟨name, t⟩
      rcases hev with ⟨rfl, hv⟩
      rcases hfind : s.members.find? fun m => m.name == v.1 with _ | m
      · rw [take_of_other s inner _ hfind, take_of_other s .parsed _ hfind]
        exact hunknown inner t v.2 v.1 a hv
      · rw [take_of_known s inner _ hfind, take_of_known s .parsed _ hfind]
        exact hmembers m (List.mem_of_find?_eq_some hfind) inner t v.2 a hv he

/-- An object is read like the object of its values. -/
theorem toOption_readObject_value (horder : s.IsOrderless unknown)
    (hmembers : ∀ m ∈ s.members, m.ReadsValues) (hunknown : PassesValues unknown)
    (o inner : Origin) (members : List (Except Fault String × Tree)) (vs : List (String × Value))
    (hinner : o.enter = .ok inner)
    (hvs : List.Forall₂ (fun m e => m.1 = .ok e.1 ∧ m.2.value inner = .ok e.2) members vs)
    (hrepeat : (Tree.object members none).NoRepeat) :
    (s.readObject o unknown members none).toOption =
      (s.readObject .parsed unknown (Value.memberTrees (Keyed.ofList vs)) none).toOption := by
  rcases exists_entries inner members vs hvs with ⟨es, rfl, hnames, hes⟩
  have hnodup : (vs.map (·.1)).Nodup := hnames ▸ nodup_of_noRepeat es none hrepeat
  -- The value has the same members, in key order.
  have hperm := Keyed.perm_ofList vs hnodup
  have hkeyed : ((Keyed.ofList vs).map fun v => (v.1, v.2.tree)).map (·.1) =
      (Keyed.ofList vs).map (·.1) := List.map_map
  have hlisted : (vs.map fun v => (v.1, v.2.tree)).map (·.1) = vs.map (·.1) := List.map_map
  have hsorted : Value.memberTrees (Keyed.ofList vs) =
      ((Keyed.ofList vs).map fun v => (v.1, v.2.tree)).map entry := by
    rw [Value.memberTrees_eq_map, List.map_map]
    rfl
  rw [hsorted, toOption_readObject s o inner unknown es hinner (hnames ▸ hnodup),
    toOption_readObject s .parsed .parsed unknown _ rfl
      (hkeyed ▸ (hperm.map _).nodup_iff.mpr hnodup),
    hkeyed, hnames, complete_perm _ _ (hperm.map _),
    foldl_step_values hmembers hunknown inner es vs hes fun e he =>
      hrepeat.member (entry e) (List.mem_map_of_mem he),
    horder.foldl_step .parsed _ _ ((hperm.map _).symm) (hlisted ▸ hnodup)]

/-- An array is read like the array of its values. -/
theorem toOption_readItems_value (o : Origin) (ms : List (Member α))
    (hmembers : ∀ m ∈ ms, m.ReadsValues) (done : Nat) (ts : List Tree) (vs : List Value)
    (hvs : List.Forall₂ (fun t v => t.value o = .ok v) ts vs) (hrepeat : ∀ t ∈ ts, t.NoRepeat)
    (a : α) :
    (s.readItems o none ms done ts a).toOption =
      (s.readItems .parsed none ms done (vs.map Value.tree) a).toOption := by
  induction ms generalizing done ts vs a with
  | nil => cases hvs <;> rfl
  | cons m ms ih =>
      rcases List.forall_mem_cons.mp hmembers with ⟨hm, hms⟩
      cases hvs with
      | nil =>
          simp only [readItems, List.map_nil]
          cases m.required with
          | true => rfl
          | false => exact ih hms done [] [] .nil (List.forall_mem_nil _) a
      | cons hv hvs =>
          rcases List.forall_mem_cons.mp hrepeat with ⟨ht, hts⟩
          simp only [readItems, List.map_cons, toOption_bind, hm o _ _ a hv ht]
          exact Option.bind_congr fun b _ => ih hms (done + 1) _ _ hvs hts b

theorem readsValues_closed (hapart : s.members.Pairwise Member.Apart)
    (hreads : s.members.Forall Member.ReadsValues) : s.closed.ReadsValues := by
  intro o t v hv hrepeat
  have hmembers := List.forall_iff_forall_mem.mp hreads
  induction t, v, hv using Tree.value_cases with
  | null => rfl
  | boolean b => rfl
  | number n => rfl
  | string s => rfl
  | array inner items vs _ hinner hvs =>
      have hitems := toOption_readItems_value (s := s) inner s.members hmembers 0 items vs hvs
        hrepeat.item s.blank
      have hparsed : Origin.parsed.enter = .ok .parsed := rfl
      rw [Value.tree, Value.trees_eq_map]
      simp only [closed, toOption_bind, hinner, hparsed, toOption_ok, Option.bind_some, hitems]
  | object inner members vs _ hinner hvs =>
      have horder : s.IsOrderless fun _ _ t a => t.skip.map fun _ => a :=
        { apart := hapart
          aside := fun m _ o t name u => orderless_skip (m.store o t) u
          others := fun _ _ _ t u _ => orderless_skip _ u }
      refine toOption_readObject_value horder hmembers (fun o t v name a hv => ?_) o inner members
        vs hinner hvs hrepeat
      have hagain := Value.value_tree_of_isRead (Value.isRead_of_value t o v hv).parsed
      simp only [skip_of_value hv, skip_of_value hagain]

theorem readsValues_opened (add : String → Value → α → α) (extra : α → List (String × Value))
    (hapart : s.members.Pairwise Member.Apart) (hreads : s.members.Forall Member.ReadsValues)
    (haside : s.members.Forall (·.Aside add))
    (hothers : ∀ k l v w a, k ≠ l → add l w (add k v a) = add k v (add l w a)) :
    (s.opened add extra).ReadsValues := by
  intro o t v hv hrepeat
  have hmembers := List.forall_iff_forall_mem.mp hreads
  induction t, v, hv using Tree.value_cases with
  | null => rfl
  | boolean b => rfl
  | number n => rfl
  | string s => rfl
  | array inner items vs _ hinner hvs => rfl
  | object inner members vs _ hinner hvs =>
      have horder : s.IsOrderless fun o name t a => (t.value o).map (add name · a) :=
        { apart := hapart
          aside := fun m hm o t name u => by
            cases hu : u.value o with
            | error e => exact orderless_error (m.store o t) e
            | ok v => exact List.forall_iff_forall_mem.mp haside m hm o t name v
          others := fun o name name' t u hne =>
            orderless_map _ _ (add name) (add name') fun v w a => hothers name name' v w a hne }
      refine toOption_readObject_value horder hmembers (fun o t v name a hv => ?_) o inner members
        vs hinner hvs hrepeat
      simp only [hv, Value.value_tree_of_isRead (Value.isRead_of_value t o v hv).parsed]

end Shape

end Json

end EventTables
