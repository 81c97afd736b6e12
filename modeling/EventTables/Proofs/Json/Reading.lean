import EventTables.Proofs.Json.Written
import Mathlib.Data.List.Pairwise

/-!
# Records Name by Name

What a record that was read shows under each name.

Reading goes through the members of an object, and each of them changes what will be
written under its own name and under no other (`Shape.IsSeparate`). As no name is
repeated, what shows under a name in the end is what its one member led to, or what the
blank record has there if no member has that name. A described member is thus never
kept besides, and one that is kept is never taken for a described one.

## Main definitions

* `Member.Leaves`: Reading the member leaves something as it was.
* `Shape.keep`: Taking in a member that is not described.
* `Shape.IsSeparate`: Every member shows under its own name only.
* `Shape.Reading`: What is known of a record that was read.

## Theorems

* `view_eq_of_absent`, `exists_take_of_mem`: What shows under a name comes from its one
  member.
* `IsSeparate.extra_of_decode`: What is kept besides has no described name.
* `exists_reading`: A record that was read was read from members with values.
* `Reading.load_of_absent`, `Reading.exists_store`, `Reading.find?_extra`: What shows
  under a described name and under any other.
* `exists_store_of_encode`: What a written record shows, if it is read at all.
-/

namespace EventTables

namespace Json

variable {α β γ : Type}

namespace Member

/-- Reading the member leaves what is seen of the record as it was. -/
def Leaves (m : Member α) (view : α → γ) : Prop :=
  ∀ o t a b, m.store o t a = .ok b → view b = view a

theorem leaves_of_sets {m : Member α} {read : Origin → Tree → Except Error β} {set : β → α → α}
    {view : α → γ} (hm : m.Sets read set) (h : ∀ v a, view (set v a) = view a) :
    m.Leaves view := by
  intro o t a b hb
  rw [hm o t a] at hb
  rcases (map_eq_ok_iff _ _ _).mp hb with ⟨v, _, rfl⟩
  exact h v a

end Member

namespace Shape

variable {s : Shape α} {add : String → Value → α → α} {extra : α → List (String × Value)}

/-! ### Members one after another -/

-- The first member is read, and the others are read into what it leads to.
theorem exists_take_of_foldl_cons (o : Origin) (unknown : String → Tree → α → Except Error α)
    (e : String × Tree) (es : List (String × Tree)) (a b : α)
    (h : (e :: es).foldl (s.step o unknown) (some a) = some b) :
    ∃ c, s.take o unknown e a = .ok c ∧ es.foldl (s.step o unknown) (some c) = some b := by
  rw [List.foldl_cons, step, Option.bind_some] at h
  rcases htake : s.take o unknown e a with f | c
  · rw [htake] at h
    exact absurd (h.symm.trans (foldl_step_none s o unknown es)) (Option.some_ne_none b)
  · rw [htake] at h
    exact ⟨c, rfl, h⟩

/-- What no member changes is in the end as it was. -/
theorem view_eq_of_absent (o : Origin) (unknown : String → Tree → α → Except Error α)
    (view : α → γ) (es : List (String × Tree)) (a b : α)
    (hleaves : ∀ e ∈ es, ∀ c d, s.take o unknown e c = .ok d → view d = view c)
    (h : es.foldl (s.step o unknown) (some a) = some b) : view b = view a := by
  induction es generalizing a with
  | nil => rw [Option.some.inj h]
  | cons e es ih =>
      rcases List.forall_mem_cons.mp hleaves with ⟨he, hes⟩
      rcases exists_take_of_foldl_cons o unknown e es a b h with ⟨c, htake, hrest⟩
      exact (ih c hes hrest).trans (he a c htake)

/-- What only one member changes is in the end as that member left it. -/
theorem exists_take_of_mem (o : Origin) (unknown : String → Tree → α → Except Error α)
    (view : α → γ) (es : List (String × Tree)) (a b : α) (hnames : (es.map (·.1)).Nodup)
    (e : String × Tree) (he : e ∈ es)
    (hleaves : ∀ e' ∈ es, e'.1 ≠ e.1 → ∀ c d, s.take o unknown e' c = .ok d → view d = view c)
    (h : es.foldl (s.step o unknown) (some a) = some b) :
    ∃ c d, s.take o unknown e c = .ok d ∧ view b = view d := by
  induction es generalizing a with
  | nil => exact absurd he List.not_mem_nil
  | cons first es ih =>
      rcases List.nodup_cons.mp hnames with ⟨hnew, hrest⟩
      rcases List.forall_mem_cons.mp hleaves with ⟨_, hes⟩
      rcases exists_take_of_foldl_cons o unknown first es a b h with ⟨c, htake, hfold⟩
      rcases List.mem_cons.mp he with rfl | he
      · -- The members after this one have other names.
        refine ⟨a, c, htake, view_eq_of_absent o unknown view es c b (fun e' he' => ?_) hfold⟩
        exact hes e' he' fun heq => hnew (List.mem_map.mpr ⟨e', he', heq⟩)
      · exact ih c hrest he hes hfold

/-! ### Members apart from each other -/

/-- Takes in a member that is not described. -/
def keep (add : String → Value → α → α) (o : Origin) (name : String) (t : Tree) (a : α) :
    Except Error α :=
  (t.value o).map (add name · a)

/-- Every member shows in what is written under its own name, and nowhere else. -/
structure IsSeparate (s : Shape α) (add : String → Value → α → α)
    (extra : α → List (String × Value)) : Prop where
  names : (s.members.map (·.name)).Nodup
  /-- A described member does not show in another one, … -/
  members : s.members.Pairwise fun m n => m.Leaves n.load ∧ n.Leaves m.load
  /-- … nor in what is kept besides. -/
  aside : s.members.Forall (·.Leaves extra)
  /-- What is kept besides does not show in a described member. -/
  load : s.members.Forall fun m => ∀ name v a, m.load (add name v a) = m.load a
  /-- It is kept under its name. -/
  put : ∀ name v a, extra (add name v a) = Keyed.put name v (extra a)
  blank : extra s.blank = []

-- Under the name of a described member only that member changes what is written.
theorem IsSeparate.load_eq (h : s.IsSeparate add extra) (o : Origin) {m : Member α}
    (hm : m ∈ s.members) (e : String × Tree) (hne : e.1 ≠ m.name) (a b : α)
    (htake : s.take o (keep add o) e a = .ok b) : m.load b = m.load a := by
  rcases hfind : s.members.find? fun n => n.name == e.1 with _ | n
  · rw [take_of_other s o _ hfind] at htake
    rcases (map_eq_ok_iff _ _ _).mp htake with ⟨v, _, rfl⟩
    exact List.forall_iff_forall_mem.mp h.load m hm e.1 v a
  · rw [take_of_known s o _ hfind] at htake
    have hsymm : Std.Symm fun m n : Member α => m.Leaves n.load ∧ n.Leaves m.load :=
      ⟨fun _ _ => And.symm⟩
    have hmn : n ≠ m := by
      rintro rfl
      exact hne (s.name_of_find? hfind).symm
    exact (h.members.forall (List.mem_of_find?_eq_some hfind) hm hmn).1 o e.2 a b htake

-- Under any other name only a member of that name does.
theorem IsSeparate.find?_extra_eq (h : s.IsSeparate add extra) (o : Origin) (name : String)
    (e : String × Tree) (hne : e.1 ≠ name) (a b : α)
    (htake : s.take o (keep add o) e a = .ok b) :
    Keyed.find? name (extra b) = Keyed.find? name (extra a) := by
  rcases hfind : s.members.find? fun n => n.name == e.1 with _ | n
  · rw [take_of_other s o _ hfind] at htake
    rcases (map_eq_ok_iff _ _ _).mp htake with ⟨v, _, rfl⟩
    rw [h.put, Keyed.find?_put, if_neg fun heq => hne (Std.compare_eq_iff_eq.mp heq).symm]
  · rw [take_of_known s o _ hfind] at htake
    have hleaves := List.forall_iff_forall_mem.mp h.aside n (List.mem_of_find?_eq_some hfind)
    rw [hleaves o e.2 a b htake]

/-- What is kept besides is in key order, and none of it has a described name. -/
theorem IsSeparate.extra_of_decode (h : s.IsSeparate add extra) (o : Origin) (t : Tree) (a : α)
    (hdecode : (s.opened add extra).decode o t = .ok a) :
    Keyed.Ascending (extra a) ∧ ∀ e ∈ extra a, s.knows e.1 = false := by
  refine decode_opened_preserves add extra o
    (fun a => Keyed.Ascending (extra a) ∧ ∀ e ∈ extra a, s.knows e.1 = false) ?_
    (fun inner _ => ?_) (fun inner _ name v a hname _ ha => ?_) t a hdecode
  · rw [h.blank]
    exact ⟨Keyed.ascending_nil, List.forall_mem_nil _⟩
  · refine List.forall_iff_forall_mem.mpr fun m hm t a b hb ha => ?_
    have hsame := List.forall_iff_forall_mem.mp h.aside m hm inner t a b hb
    exact ⟨hsame ▸ ha.1, hsame ▸ ha.2⟩
  · rw [h.put]
    exact ⟨Keyed.ascending_put name v _ ha.1, Keyed.forall_mem_put hname ha.2⟩

/-! ### What is known of a record that was read -/

/-- The record was read from these members, no two of one name, which have these
    values. -/
structure Reading (s : Shape α) (add : String → Value → α → α) (inner : Origin)
    (es : List (String × Tree)) (vs : List (String × Value)) (a : α) : Prop where
  names : (es.map (·.1)).Nodup
  complete : s.complete (es.map (·.1)) = true
  fold : es.foldl (s.step inner (keep add inner)) (some s.blank) = some a
  noRepeat : ∀ e ∈ es, e.2.NoRepeat
  sameNames : vs.map (·.1) = es.map (·.1)
  values : ∀ w ∈ vs, ∃ e ∈ es, e.1 = w.1 ∧ e.2.value inner = .ok w.2

-- What was read has names that are texts.
theorem exists_entries_of_readMembers (o : Origin)
    (unknown : String → Tree → α → Except Error α)
    (members : List (Except Fault String × Tree)) (seen seen' : List String) (a b : α)
    (h : s.readMembers o unknown members seen a = .ok (seen', b)) :
    ∃ es : List (String × Tree), members = es.map entry := by
  induction members generalizing seen a with
  | nil => exact ⟨[], rfl⟩
  | cons member members ih =>
      rcases member with ⟨f | name, t⟩
      · cases h
      · rw [readMembers] at h
        rcases hfind : s.members.find? fun m => m.name == name with _ | m
        · simp only [hfind] at h
          rcases (bind_eq_ok_iff _ _ _).mp h with ⟨c, _, hrest⟩
          rcases ih seen c hrest with ⟨es, rfl⟩
          exact ⟨(name, t) :: es, rfl⟩
        · simp only [hfind] at h
          split at h
          · cases h
          · rcases (bind_eq_ok_iff _ _ _).mp h with ⟨c, _, hrest⟩
            rcases ih (name :: seen) c hrest with ⟨es, rfl⟩
            exact ⟨(name, t) :: es, rfl⟩

-- Members that have values one by one have them together.
theorem exists_memberValues (o : Origin) (es : List (String × Tree))
    (h : ∀ e ∈ es, ∃ v, e.2.value o = .ok v) :
    ∃ vs : List (String × Value), vs.map (·.1) = es.map (·.1) ∧
      List.Forall₂ (fun (m : Except Fault String × Tree) w => m.1 = .ok w.1 ∧
        m.2.value o = .ok w.2) (es.map entry) vs ∧
      ∀ w ∈ vs, ∃ e ∈ es, e.1 = w.1 ∧ e.2.value o = .ok w.2 := by
  induction es with
  | nil => exact ⟨[], rfl, .nil, List.forall_mem_nil _⟩
  | cons e es ih =>
      rcases List.forall_mem_cons.mp h with ⟨⟨v, hv⟩, hes⟩
      rcases ih hes with ⟨vs, hnames, hvs, hfrom⟩
      refine ⟨(e.1, v) :: vs, congrArg (e.1 :: ·) hnames, .cons ⟨rfl, hv⟩ hvs,
        List.forall_mem_cons.mpr ⟨⟨e, List.mem_cons_self, rfl, hv⟩, fun w hw => ?_⟩⟩
      rcases hfrom w hw with ⟨e', he', hw'⟩
      exact ⟨e', List.mem_cons_of_mem _ he', hw'⟩

-- Every member of an object that was read has a value.
theorem exists_value_of_fold (hvalues : ∀ m ∈ s.members, ∀ o t a b, m.store o t a = .ok b →
      t.NoRepeat → ∃ v, t.value o = .ok v)
    (o : Origin) (es : List (String × Tree)) (a b : α) (hnames : (es.map (·.1)).Nodup)
    (h : es.foldl (s.step o (keep add o)) (some a) = some b) (hrepeat : ∀ e ∈ es, e.2.NoRepeat) :
    ∀ e ∈ es, ∃ v, e.2.value o = .ok v := by
  intro e he
  rcases exists_take_of_mem o (keep add o) (fun _ => ()) es a b hnames e he
    (fun _ _ _ _ _ _ => rfl) h with ⟨c, d, htake, _⟩
  rcases hfind : s.members.find? fun m => m.name == e.1 with _ | m
  · rw [take_of_other s o _ hfind] at htake
    rcases (map_eq_ok_iff _ _ _).mp htake with ⟨v, hv, _⟩
    exact ⟨v, hv⟩
  · rw [take_of_known s o _ hfind] at htake
    exact hvalues m (List.mem_of_find?_eq_some hfind) o e.2 c d htake (hrepeat e he)

/-- A record that was read from a document was read from members with values. -/
theorem exists_reading (hvalues : ∀ m ∈ s.members, ∀ o t a b, m.store o t a = .ok b →
      t.NoRepeat → ∃ v, t.value o = .ok v)
    (o : Origin) (t : Tree) (a : α) (h : (s.opened add extra).decode o t = .ok a)
    (hrepeat : t.NoRepeat) :
    ∃ inner es vs, t.value o = .ok (.object (Keyed.ofList vs)) ∧
      s.Reading add inner es vs a := by
  cases t with
  | object members breach =>
      have hread : s.readObject o (keep add) members breach = .ok a := h
      rcases (bind_eq_ok_iff _ _ _).mp h with ⟨inner, hinner, h⟩
      rcases (bind_eq_ok_iff _ _ _).mp h with ⟨⟨seen, b⟩, hmembers, h⟩
      rcases (bind_eq_ok_iff _ _ _).mp h with ⟨⟨⟩, hbreach, _⟩
      rcases exists_entries_of_readMembers inner _ members [] seen s.blank b hmembers with
        ⟨es, rfl⟩
      rw [(Tree.unbroken_eq_ok_iff breach).mp hbreach] at hread hrepeat ⊢
      have hnames := nodup_of_noRepeat es none hrepeat
      have hes : ∀ e ∈ es, e.2.NoRepeat := fun e he =>
        hrepeat.member (entry e) (List.mem_map_of_mem he)
      rcases (readObject_eq_ok_iff s o inner (keep add) es a hinner hnames).mp hread with
        ⟨hcomplete, hfold⟩
      rcases exists_memberValues inner es
        (exists_value_of_fold hvalues inner es s.blank a hnames hfold hes) with
        ⟨vs, hsame, hvs, hfrom⟩
      exact ⟨inner, es, vs, (Tree.value_object_eq_ok_iff o _ none _).mpr
        ⟨inner, vs, hinner, hvs, rfl, rfl⟩, hnames, hcomplete, hfold, hes, hsame, hfrom⟩
  | _ => exact nomatch h

variable {inner : Origin} {es : List (String × Tree)} {vs : List (String × Value)} {a : α}

-- What has a value under a name is a member of that name.
theorem Reading.exists_of_find? (h : s.Reading add inner es vs a) {name : String} {v : Value}
    (hfind : Keyed.find? name vs = some v) :
    ∃ t, (name, t) ∈ es ∧ t.value inner = .ok v := by
  rcases h.values (name, v) (Keyed.mem_of_find? name v vs hfind) with ⟨⟨_, t⟩, he, rfl, hv⟩
  exact ⟨t, he, hv⟩

theorem Reading.ne_of_find?_eq_none (h : s.Reading add inner es vs a) {name : String}
    (hfind : Keyed.find? name vs = none) : ∀ e ∈ es, e.1 ≠ name := by
  rw [Keyed.find?_eq_none_iff, h.sameNames] at hfind
  exact fun e he heq => hfind (heq ▸ List.mem_map_of_mem he)

/-- Where nothing was given for a described member, it is as in the blank record. -/
theorem Reading.load_of_absent (hseparate : s.IsSeparate add extra)
    (h : s.Reading add inner es vs a) {m : Member α} (hm : m ∈ s.members)
    (hfind : Keyed.find? m.name vs = none) :
    m.load a = m.load s.blank ∧ m.required = false := by
  have hne := h.ne_of_find?_eq_none hfind
  refine ⟨view_eq_of_absent inner _ m.load es s.blank a (fun e he => hseparate.load_eq inner hm e
    (hne e he)) h.fold, Bool.eq_false_iff.mpr fun hrequired => ?_⟩
  -- A required member is among those that were read.
  have hthere := List.all_eq_true.mp h.complete m hm
  rw [hrequired, Bool.not_true, Bool.false_or, List.contains_iff_mem] at hthere
  rcases List.mem_map.mp hthere with ⟨e, he, heq⟩
  exact hne e he heq

/-- What was given for a described member was stored, and shows as it was stored. -/
theorem Reading.exists_store (hseparate : s.IsSeparate add extra)
    (h : s.Reading add inner es vs a) {m : Member α} (hm : m ∈ s.members) {v : Value}
    (hfind : Keyed.find? m.name vs = some v) :
    ∃ t c d, t.value inner = .ok v ∧ t.NoRepeat ∧ m.store inner t c = .ok d ∧
      m.load a = m.load d := by
  rcases h.exists_of_find? hfind with ⟨t, he, hv⟩
  rcases exists_take_of_mem inner _ m.load es s.blank a h.names _ he
    (fun e _ hne => hseparate.load_eq inner hm e hne) h.fold with ⟨c, d, htake, hload⟩
  rw [take_of_known s inner _ (find?_of_mem hseparate.names hm)] at htake
  exact ⟨t, c, d, hv, h.noRepeat _ he, htake, hload⟩

/-- What is kept besides is what was given under the name. -/
theorem Reading.find?_extra (hseparate : s.IsSeparate add extra)
    (h : s.Reading add inner es vs a) {name : String} (hname : s.knows name = false) :
    Keyed.find? name (extra a) = Keyed.find? name vs := by
  have hleaves : ∀ e ∈ es, e.1 ≠ name → ∀ c d, s.take inner (keep add inner) e c = .ok d →
      Keyed.find? name (extra d) = Keyed.find? name (extra c) := fun e _ hne c d =>
    hseparate.find?_extra_eq inner name e hne c d
  rcases hfind : Keyed.find? name vs with _ | v
  · have hne := h.ne_of_find?_eq_none hfind
    rw [view_eq_of_absent inner _ (fun a => Keyed.find? name (extra a)) es s.blank a
      (fun e he => hleaves e he (hne e he)) h.fold, hseparate.blank]
    rfl
  · rcases h.exists_of_find? hfind with ⟨t, he, hv⟩
    rcases exists_take_of_mem inner _ (fun a => Keyed.find? name (extra a)) es s.blank a h.names _
      he hleaves h.fold with ⟨c, d, htake, hextra⟩
    rw [take_of_other s inner _ (s.find?_of_knows_eq_false hname), keep, hv] at htake
    rw [hextra, ← Except.ok.inj htake, hseparate.put, Keyed.find?_put, if_pos Std.compare_self]

/-! ### A closed record that was written -/

/-- If a closed record is read from what was written for one, what it shows of a member is
    what that member makes of what was written for it. -/
theorem exists_store_of_encode (o : Origin) (view : α → γ) (a b : α)
    (hnames : (s.members.map (·.name)).Nodup) {m : Member α} (hm : m ∈ s.members) {v : Value}
    (hload : m.load a = some v)
    (hothers : s.members.Forall fun n => n.name ≠ m.name → n.Leaves view)
    (h : s.closed.decode o (s.closed.encode a).tree = .ok b) :
    ∃ inner c d, m.store inner v.tree c = .ok d ∧ view b = view d := by
  let es := (s.write a).map fun e => (e.1, e.2.tree)
  have hentries : Value.memberTrees (s.write a) = es.map entry := by
    rw [Value.memberTrees_eq_map, List.map_map]
    rfl
  have hes : (es.map (·.1)).Nodup := by
    rw [List.map_map]
    exact (sublist_names_write a s.members).nodup hnames
  have hmem : (m.name, v.tree) ∈ es := by
    refine List.mem_map.mpr ⟨(m.name, v), List.mem_filterMap.mpr ⟨m, hm, ?_⟩, rfl⟩
    rw [hload, Option.map_some]
  change s.readObject o _ (Value.memberTrees (s.write a)) none = .ok b at h
  rw [hentries] at h
  rcases (bind_eq_ok_iff _ _ _).mp h with ⟨inner, hinner, _⟩
  rcases (readObject_eq_ok_iff s o inner _ es b hinner hes).mp h with ⟨_, hfold⟩
  have hleaves : ∀ e ∈ es, e.1 ≠ m.name → ∀ c d,
      s.take inner (fun _ t a => t.skip.map fun _ => a) e c = .ok d → view d = view c := by
    intro e _ hne c d htake
    rcases hfind : s.members.find? fun n => n.name == e.1 with _ | n
    · -- What is not described is passed over.
      rw [take_of_other s inner _ hfind] at htake
      rcases (map_eq_ok_iff _ _ _).mp htake with ⟨_, _, rfl⟩
      rfl
    · rw [take_of_known s inner _ hfind] at htake
      have hn := List.forall_iff_forall_mem.mp hothers n (List.mem_of_find?_eq_some hfind)
      exact hn (s.name_of_find? hfind ▸ hne) inner e.2 c d htake
  rcases exists_take_of_mem inner _ view es s.blank b hes _ hmem hleaves hfold with
    ⟨c, d, htake, hview⟩
  rw [take_of_known s inner _ (find?_of_mem hnames hm)] at htake
  exact ⟨inner, c, d, htake, hview⟩

end Shape

end Json

end EventTables
