import EventTables.Json.Record
import EventTables.Proofs.Json.Codec

/-!
# Laws of Records

An object is read as its members are, one after another.

Each member is read into the record that the ones before it have led to. If no
name is repeated, what they lead to is a plain fold over the members, and the
record is taken if every required member is among them. Everything that is said
of records comes from this fold: that the order of the members does not matter,
and that a record that was written is read back.

What holds of the blank record and is kept by every member holds of every record
that was read, even from an object that repeats a name and from an array.

## Main definitions

* `Member.Sets`, `Member.Keeps`: What a member does to a record, and what it
  leaves as it was.
* `Shape.take`, `Shape.step`: One more member of an object is read.
* `Shape.complete`: Every required member is there.

## Theorems

* `toOption_readObject`, `readObject_eq_ok_iff`: An object is a fold over its members.
* `decode_closed_preserves`, `decode_opened_preserves`: What every member keeps
  holds of every record that is read.
-/

namespace EventTables

namespace Json

variable {α β : Type}

namespace Member

/-- The member is read without regard to the record and set in it. -/
def Sets (m : Member α) (read : Origin → Tree → Except Error β) (set : β → α → α) : Prop :=
  ∀ o t a, m.store o t a = (read o t).map (set · a)

/-- Reads what may be null. -/
def readNullable (c : Codec β) (o : Origin) : Tree → Except Error (Option β)
  | .null => .ok none
  | t => (c.decode o t).map some

theorem sets_optional (name : String) (c : Codec β) (get : α → Option β)
    (set : Option β → α → α) : (optional name c get set).Sets (readNullable c) set := by
  intro o t a
  cases t with
  | null => rfl
  | _ =>
      simp only [optional, readNullable]
      cases c.decode o _ <;> rfl

/-- What holds of a record still holds when the member is read into it. -/
def Keeps (m : Member α) (o : Origin) (P : α → Prop) : Prop :=
  ∀ t a b, m.store o t a = .ok b → P a → P b

theorem keeps_needed {name : String} {c : Codec β} {get : α → β} {set : β → α → α} {o : Origin}
    {P : α → Prop} (h : ∀ t v a, c.decode o t = .ok v → P a → P (set v a)) :
    (needed name c get set).Keeps o P := by
  intro t a b hb ha
  rcases (map_eq_ok_iff _ _ _).mp hb with ⟨v, hv, rfl⟩
  exact h t v a hv ha

theorem keeps_withDefault {name : String} {c : Codec β} {get : α → β} {set : β → α → α}
    {o : Origin} {P : α → Prop} (h : ∀ t v a, c.decode o t = .ok v → P a → P (set v a)) :
    (withDefault name c get set).Keeps o P := by
  have hneeded : (needed name c get set).Keeps o P := keeps_needed h
  exact hneeded

theorem keeps_optional {name : String} {c : Codec β} {get : α → Option β}
    {set : Option β → α → α} {o : Origin} {P : α → Prop} (h : ∀ v a, P a → P (set v a)) :
    (optional name c get set).Keeps o P := by
  intro t a b hb ha
  rw [sets_optional name c get set o t a] at hb
  rcases (map_eq_ok_iff _ _ _).mp hb with ⟨v, _, rfl⟩
  exact h v a ha

end Member

namespace Shape

variable (s : Shape α)

/-! ### Reading an object -/

/-- Reads one member of an object into the record. -/
def take (o : Origin) (unknown : String → Tree → α → Except Error α) (e : String × Tree) :
    α → Except Error α :=
  match s.members.find? fun m => m.name == e.1 with
  | some m => m.store o e.2
  | none => unknown e.1 e.2

theorem name_of_find? {name : String} {m : Member α}
    (h : (s.members.find? fun m => m.name == name) = some m) : m.name = name := by
  have hname := List.find?_some h
  exact beq_iff_eq.mp hname

theorem take_of_known (o : Origin) (unknown : String → Tree → α → Except Error α)
    {e : String × Tree} {m : Member α} (h : (s.members.find? fun m => m.name == e.1) = some m) :
    s.take o unknown e = m.store o e.2 := by
  rw [take, h]

theorem take_of_other (o : Origin) (unknown : String → Tree → α → Except Error α)
    {e : String × Tree} (h : (s.members.find? fun m => m.name == e.1) = none) :
    s.take o unknown e = unknown e.1 e.2 := by
  rw [take, h]

/-- One more member of an object is read, unless something was wrong before. -/
def step (o : Origin) (unknown : String → Tree → α → Except Error α) (kept : Option α)
    (e : String × Tree) : Option α :=
  kept.bind fun a => (s.take o unknown e a).toOption

/-- A member of that name is described. -/
def knows (name : String) : Bool :=
  (s.members.find? fun m => m.name == name).isSome

theorem find?_of_knows_eq_false {name : String} (h : s.knows name = false) :
    (s.members.find? fun m => m.name == name) = none :=
  Option.not_isSome_iff_eq_none.mp (Bool.not_eq_true _ ▸ h)

-- A name that is not described is none of the described ones.
theorem ne_of_knows_eq_false {name : String} (h : s.knows name = false) :
    s.members.Forall fun m => name ≠ m.name := by
  refine List.forall_iff_forall_mem.mpr fun m hm heq => ?_
  exact List.find?_eq_none.mp (s.find?_of_knows_eq_false h) m hm (beq_iff_eq.mpr heq.symm)

/-- Every required member is among the names. -/
def complete (names : List String) : Bool :=
  s.members.all fun m => !m.required || names.contains m.name

/-- A member as it stands in a document. -/
def entry (e : String × Tree) : Except Fault String × Tree :=
  (.ok e.1, e.2)

theorem nodup_of_noRepeat (es : List (String × Tree)) (breach : Option Breach)
    (h : (Tree.object (es.map entry) breach).NoRepeat) : (es.map (·.1)).Nodup := by
  have hmarked := h _ breach (.self _)
  rw [List.map_map] at hmarked
  exact (Value.nodup_marked_iff _).mp (by rw [List.map_map]; exact hmarked)

theorem foldl_step_none (o : Origin) (unknown : String → Tree → α → Except Error α)
    (es : List (String × Tree)) : es.foldl (s.step o unknown) none = none := by
  induction es with
  | nil => rfl
  | cons e es ih => exact ih

/-- If no name comes twice, the members lead from record to record, and the names
    of the known ones are gathered. -/
theorem toOption_readMembers (o : Origin) (unknown : String → Tree → α → Except Error α)
    (es : List (String × Tree)) (seen : List String) (a : α) (hnames : (es.map (·.1)).Nodup)
    (hseen : ∀ e ∈ es, e.1 ∉ seen) :
    (s.readMembers o unknown (es.map entry) seen a).toOption =
      (es.foldl (s.step o unknown) (some a)).map fun b =>
        (((es.map (·.1)).filter s.knows).reverse ++ seen, b) := by
  induction es generalizing seen a with
  | nil => rfl
  | cons e es ih =>
      rcases e with ⟨name, t⟩
      rcases List.nodup_cons.mp hnames with ⟨hnew, hrest⟩
      rcases List.forall_mem_cons.mp hseen with ⟨hunseen, hothers⟩
      simp only [List.map_cons, entry, readMembers, List.foldl_cons, step, take,
        Option.bind_some]
      rcases hfind : s.members.find? fun m => m.name == name with _ | m
      · -- A member that is not described leaves no name behind.
        have hknown : s.knows name = false := by rw [knows, hfind]; rfl
        simp only [hfind, toOption_bind, List.filter_cons, hknown, Bool.false_eq_true, if_false]
        cases (unknown name t a).toOption with
        | none => rw [foldl_step_none]; rfl
        | some b => exact ih seen b hrest hothers
      · have hknown : s.knows name = true := by rw [knows, hfind]; rfl
        have hagain : ∀ e ∈ es, e.1 ∉ name :: seen := fun e he => by
          rw [List.mem_cons, not_or]
          exact ⟨fun heq => hnew (List.mem_map.mpr ⟨e, he, heq⟩), hothers e he⟩
        simp only [hfind, if_neg hunseen, toOption_bind, List.filter_cons, hknown, if_true,
          List.reverse_cons, List.append_assoc, List.singleton_append]
        cases (m.store o t a).toOption with
        | none => rw [foldl_step_none]; rfl
        | some b => exact ih (name :: seen) b hrest hagain

-- A described member is among the names gathered if it is among all names.
theorem contains_known (names : List String) (m : Member α) (hm : m ∈ s.members) :
    ((names.filter s.knows).reverse ++ []).contains m.name = names.contains m.name := by
  have hknown : s.knows m.name = true :=
    List.find?_isSome.mpr ⟨m, hm, beq_self_eq_true m.name⟩
  rw [List.append_nil, Bool.eq_iff_iff]
  simp only [List.contains_iff_mem, List.mem_reverse, List.mem_filter, hknown, and_true]

theorem find?_missing (names : List String) :
    ((s.members.find? fun m => m.required &&
      !((names.filter s.knows).reverse ++ []).contains m.name) = none) ↔
        s.complete names = true := by
  rw [List.find?_eq_none, complete, List.all_eq_true]
  refine forall₂_congr fun m hm => ?_
  rw [contains_known s names m hm]
  cases m.required <;> cases names.contains m.name <;> decide

/-- An object is read by reading its members from the blank record on. -/
theorem toOption_readObject (o inner : Origin)
    (unknown : Origin → String → Tree → α → Except Error α) (es : List (String × Tree))
    (hinner : o.enter = .ok inner) (hnames : (es.map (·.1)).Nodup) :
    (s.readObject o unknown (es.map entry) none).toOption =
      if s.complete (es.map (·.1)) then
        es.foldl (s.step inner (unknown inner)) (some s.blank)
      else none := by
  have hread := toOption_readMembers s inner (unknown inner) es [] s.blank hnames
    fun _ _ => List.not_mem_nil
  simp only [readObject, toOption_bind, hinner, toOption_ok, Option.bind_some, hread]
  rcases es.foldl (s.step inner (unknown inner)) (some s.blank) with _ | b
  · rw [ite_self]
    rfl
  · have hmissing := find?_missing s (es.map (·.1))
    change ((match s.members.find? _ with
      | some m => .error (.missingMember m.name)
      | none => .ok b) : Except Error α).toOption = _
    rcases h : s.members.find? _ with _ | m
    · rw [if_pos (hmissing.mp h)]
      rfl
    · rw [if_neg fun hall => (nomatch h.symm.trans (hmissing.mpr hall))]
      rfl

/-- If no name comes twice, an object is read exactly if its members lead to the record
    and none that is required is missing. -/
theorem readObject_eq_ok_iff (o inner : Origin)
    (unknown : Origin → String → Tree → α → Except Error α) (es : List (String × Tree)) (a : α)
    (hinner : o.enter = .ok inner) (hnames : (es.map (·.1)).Nodup) :
    s.readObject o unknown (es.map entry) none = .ok a ↔
      s.complete (es.map (·.1)) = true ∧
        es.foldl (s.step inner (unknown inner)) (some s.blank) = some a := by
  rw [← toOption_eq_some_iff, toOption_readObject s o inner unknown es hinner hnames,
    Option.ite_none_right_eq_some]

/-! ### What every member keeps -/

variable {s}

theorem readMembers_preserves (o : Origin) (unknown : String → Tree → α → Except Error α)
    (P : α → Prop) (hmembers : ∀ m ∈ s.members, m.Keeps o P)
    (hunknown : ∀ name t a b, s.knows name = false → unknown name t a = .ok b → P a → P b)
    (members : List (Except Fault String × Tree)) (seen seen' : List String) (a b : α)
    (h : s.readMembers o unknown members seen a = .ok (seen', b)) (ha : P a) : P b := by
  induction members generalizing seen a with
  | nil => exact (Prod.mk.inj (Except.ok.inj h)).2 ▸ ha
  | cons member members ih =>
      rcases member with ⟨f | name, t⟩
      · exact nomatch h
      · rw [readMembers] at h
        rcases hfind : s.members.find? fun m => m.name == name with _ | m
        · simp only [hfind] at h
          rcases (bind_eq_ok_iff _ _ _).mp h with ⟨c, hc, hrest⟩
          exact ih seen c hrest (hunknown name t a c (by rw [knows, hfind]; rfl) hc ha)
        · simp only [hfind] at h
          split at h
          · exact nomatch h
          · rcases (bind_eq_ok_iff _ _ _).mp h with ⟨c, hc, hrest⟩
            exact ih (name :: seen) c hrest
              (hmembers m (List.mem_of_find?_eq_some hfind) t a c hc ha)

theorem readObject_preserves (o : Origin)
    (unknown : Origin → String → Tree → α → Except Error α) (P : α → Prop) (hblank : P s.blank)
    (hmembers : ∀ inner, o.enter = .ok inner → ∀ m ∈ s.members, m.Keeps inner P)
    (hunknown : ∀ inner, o.enter = .ok inner → ∀ name t a b, s.knows name = false →
      unknown inner name t a = .ok b → P a → P b)
    (members : List (Except Fault String × Tree)) (breach : Option Breach) (a : α)
    (h : s.readObject o unknown members breach = .ok a) : P a := by
  rcases (bind_eq_ok_iff _ _ _).mp h with ⟨inner, hinner, h⟩
  rcases (bind_eq_ok_iff _ _ _).mp h with ⟨⟨seen, b⟩, hread, h⟩
  rcases (bind_eq_ok_iff _ _ _).mp h with ⟨_, _, h⟩
  have hb := readMembers_preserves inner (unknown inner) P (hmembers inner hinner)
    (hunknown inner hinner) members [] seen s.blank b hread hblank
  split at h
  · exact nomatch h
  · exact Except.ok.inj h ▸ hb

theorem readItems_preserves (o : Origin) (breach : Option Breach) (P : α → Prop)
    (ms : List (Member α)) (hmembers : ∀ m ∈ ms, m.Keeps o P) (done : Nat) (ts : List Tree)
    (a b : α) (h : s.readItems o breach ms done ts a = .ok b) (ha : P a) : P b := by
  induction ms generalizing done ts a with
  | nil =>
      rcases ts with _ | ⟨t, ts⟩
      · cases breach with
        | none => exact Except.ok.inj h ▸ ha
        | some breach => exact nomatch h
      · exact nomatch h
  | cons m ms ih =>
      rcases List.forall_mem_cons.mp hmembers with ⟨hm, hms⟩
      rcases ts with _ | ⟨t, ts⟩
      · simp only [readItems] at h
        split at h
        · exact nomatch h
        · split at h
          · exact nomatch h
          · exact ih hms done [] a h ha
      · rcases (bind_eq_ok_iff _ _ _).mp h with ⟨c, hc, hrest⟩
        exact ih hms (done + 1) ts c hrest (hm t a c hc ha)

/-- What every member keeps holds of a record that was read. -/
theorem decode_closed_preserves (o : Origin) (P : α → Prop) (hblank : P s.blank)
    (hkeeps : ∀ inner, o.enter = .ok inner → s.members.Forall (·.Keeps inner P)) (t : Tree)
    (a : α) (h : s.closed.decode o t = .ok a) : P a := by
  have hmembers : ∀ inner, o.enter = .ok inner → ∀ m ∈ s.members, m.Keeps inner P :=
    fun inner hinner => List.forall_iff_forall_mem.mp (hkeeps inner hinner)
  cases t with
  | object members breach =>
      refine readObject_preserves o _ P hblank hmembers (fun inner _ name t a b _ hb ha => ?_)
        members breach a h
      rcases (map_eq_ok_iff _ _ _).mp hb with ⟨_, _, rfl⟩
      exact ha
  | array items breach =>
      rcases (bind_eq_ok_iff _ _ _).mp h with ⟨inner, hinner, hread⟩
      exact readItems_preserves inner breach P s.members (hmembers inner hinner) 0 items s.blank a
        hread hblank
  | _ => exact nomatch h

/-- What every member keeps, and every other member that is taken in, holds of a
    record that was read. -/
theorem decode_opened_preserves (add : String → Value → α → α)
    (extra : α → List (String × Value)) (o : Origin) (P : α → Prop) (hblank : P s.blank)
    (hkeeps : ∀ inner, o.enter = .ok inner → s.members.Forall (·.Keeps inner P))
    (hadd : ∀ inner, o.enter = .ok inner → ∀ name v a, s.knows name = false →
      v.IsRead inner → P a → P (add name v a))
    (t : Tree) (a : α) (h : (s.opened add extra).decode o t = .ok a) : P a := by
  have hmembers : ∀ inner, o.enter = .ok inner → ∀ m ∈ s.members, m.Keeps inner P :=
    fun inner hinner => List.forall_iff_forall_mem.mp (hkeeps inner hinner)
  cases t with
  | object members breach =>
      refine readObject_preserves o _ P hblank hmembers
        (fun inner hinner name t a b hname hb ha => ?_) members breach a h
      rcases (map_eq_ok_iff _ _ _).mp hb with ⟨v, hv, rfl⟩
      exact hadd inner hinner name v a hname (Value.isRead_of_value t inner v hv) ha
  | _ => exact nomatch h

end Shape

end Json

end EventTables
