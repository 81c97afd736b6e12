import EventTables.Config.Format
import EventTables.Proofs.Json.Returned

/-!
# Events That Were Read

What is written for an event is the document that it was read from, completed.

An event and its inputs have members that only the decoder of events looks at. They are
carried along, so what is written again must have all of them as they were, next to the
members that are described here. The document is completed on the way. Members with a
default are filled in, and a column that is null is left out, as it says no more than a
missing one does.

## Main definitions

* `Value.supplied`, `Value.withoutNull`, `Value.changed`: Changes of one member.
* `Input.completed`, `Event.completed`: A document with what is filled in and left out.

## Theorems

* `find?_supplied`, `find?_withoutNull`, `find?_changed`: They change one member only.
* `Format.isSeparate_input`, `Format.isSeparate_event`: A member shows under its own name.
* `Format.returns_input`: Inputs are written again, completed.
* `Event.written_completed`: Events are written again, completed.
-/

namespace EventTables

open Json

/-! ### Changes of one member -/

namespace Json.Value

/-- The members, and one more if none has its name. -/
def supplied (name : String) (v : Value) (ms : Keyed String Value) : Keyed String Value :=
  if (ms.find? name).isSome then ms else ms ++ [(name, v)]

/-- The members without the one of that name if it is null. -/
def withoutNull (name : String) (ms : Keyed String Value) : Keyed String Value :=
  match ms.find? name with
  | some .null => ms.filter fun m => m.1 ≠ name
  | _ => ms

/-- The members, that of the name changed. -/
def changed (name : String) (change : Value → Value) (ms : Keyed String Value) :
    Keyed String Value :=
  ms.map fun m => (m.1, if m.1 = name then change m.2 else m.2)

theorem find?_supplied (name : String) (v : Value) (ms : Keyed String Value) (k : String) :
    (supplied name v ms).find? k =
      if k = name then (ms.find? name).or (some v) else ms.find? k := by
  rw [supplied]
  by_cases hk : k = name
  · subst hk
    rw [if_pos rfl]
    rcases hfind : ms.find? k with _ | w
    · rw [Option.isSome_none, if_neg Bool.false_ne_true, Keyed.find?_append, hfind, Option.none_or,
        Option.none_or, Keyed.find?, if_pos Std.compare_self]
    · rw [Option.isSome_some, if_pos rfl, hfind, Option.some_or]
  · rw [if_neg hk]
    split
    · rfl
    · rw [Keyed.find?_append, Keyed.find?,
        if_neg fun heq => hk (Std.compare_eq_iff_eq.mp heq), Keyed.find?, Option.or_none]

theorem find?_withoutNull (name : String) (ms : Keyed String Value) (k : String) :
    (withoutNull name ms).find? k =
      if k = name then (ms.find? name).filter fun v => !v.isNull else ms.find? k := by
  rw [withoutNull]
  split
  · next hnull =>
      rw [Keyed.find?_filter (fun k => decide (k ≠ name)), hnull]
      by_cases hk : k = name
      · rw [if_pos hk, if_neg (by rw [decide_eq_true_eq]; exact not_not_intro hk)]
        rfl
      · rw [if_neg hk, if_pos (decide_eq_true hk)]
  · next hnull =>
      by_cases hk : k = name
      · subst hk
        rw [if_pos rfl]
        rcases hfind : ms.find? k with _ | v
        · rfl
        · cases v with
          | null => exact absurd hfind hnull
          | _ => rfl
      · rw [if_neg hk]

theorem find?_changed (name : String) (change : Value → Value) (ms : Keyed String Value)
    (k : String) :
    (changed name change ms).find? k =
      if k = name then (ms.find? name).map change else ms.find? k := by
  rw [changed, Keyed.find?_mapWithKey fun k v => if k = name then change v else v]
  by_cases hk : k = name
  · subst hk
    simp only [if_true]
  · simp only [hk, if_false, Option.map_id']

theorem nodup_supplied (name : String) (v : Value) (ms : Keyed String Value)
    (h : (ms.map (·.1)).Nodup) : ((supplied name v ms).map (·.1)).Nodup := by
  rw [supplied]
  split
  · exact h
  · next hnone =>
      rw [Option.not_isSome_iff_eq_none, Keyed.find?_eq_none_iff] at hnone
      rw [List.map_append, List.map_singleton]
      refine List.nodup_append.mpr ⟨h, List.nodup_singleton _, fun k hk l hl heq => hnone ?_⟩
      rw [heq, List.mem_singleton.mp hl] at hk
      exact hk

theorem nodup_withoutNull (name : String) (ms : Keyed String Value)
    (h : (ms.map (·.1)).Nodup) : ((withoutNull name ms).map (·.1)).Nodup := by
  rw [withoutNull]
  split
  · exact (List.filter_sublist.map Prod.fst).nodup h
  · exact h

theorem nodup_changed (name : String) (change : Value → Value) (ms : Keyed String Value)
    (h : (ms.map (·.1)).Nodup) : ((changed name change ms).map (·.1)).Nodup := by
  rw [changed, List.map_map]
  exact h

end Json.Value

open Json.Value

/-! ### Documents, completed -/

/-- The members of an input with what is filled in, and without columns that are
    null. -/
def Input.completedMembers (ms : Keyed String Value) : Keyed String Value :=
  withoutNull "column" <| withoutNull "column_type" <|
    supplied "type" (.string "") <| supplied "indexed" (.boolean false) ms

/-- The document of an input, completed. -/
def Input.completed : Value → Value :=
  onMembers Input.completedMembers

/-- The members of an event with what is filled in, and with its inputs completed. -/
def Event.completedMembers (ms : Keyed String Value) : Keyed String Value :=
  supplied "name" (.string "") <| supplied "type" (.string "") <|
    supplied "anonymous" (.boolean false) <| supplied "inputs" (.array []) <|
      changed "inputs" (onItems Input.completed) ms

/-- The document of an event, completed. -/
def Event.completed : Value → Value :=
  onMembers Event.completedMembers

namespace Format

/-! ### Members under their own names -/

theorem isSeparate_input :
    inputShape.IsSeparate (fun k v i => { i with extra := i.extra.put k v }) (·.extra) where
  names := by decide
  members := by
    simp only [inputShape, List.pairwise_cons, List.forall_mem_cons, List.not_mem_nil,
      IsEmpty.forall_iff, implies_true, List.Pairwise.nil, and_true]
    -- The last two members may be null.
    and_intros <;>
      first
      | exact Member.leaves_of_sets (fun _ _ _ => rfl) fun _ _ => rfl
      | exact Member.leaves_of_sets (Member.sets_optional _ _ _ _) fun _ _ => rfl
  aside := by
    and_intros <;>
      first
      | exact Member.leaves_of_sets (fun _ _ _ => rfl) fun _ _ => rfl
      | exact Member.leaves_of_sets (Member.sets_optional _ _ _ _) fun _ _ => rfl
  load := by and_intros <;> exact fun _ _ _ => rfl
  put _ _ _ := rfl
  blank := rfl

theorem isSeparate_event :
    eventShape.IsSeparate (fun k v e => { e with extra := e.extra.put k v }) (·.extra) where
  names := by decide
  members := by
    simp only [eventShape, List.pairwise_cons, List.forall_mem_cons, List.not_mem_nil,
      IsEmpty.forall_iff, implies_true, List.Pairwise.nil, and_true]
    and_intros <;> exact Member.leaves_of_sets (fun _ _ _ => rfl) fun _ _ => rfl
  aside := by
    and_intros <;> exact Member.leaves_of_sets (fun _ _ _ => rfl) fun _ _ => rfl
  load := by and_intros <;> exact fun _ _ _ => rfl
  put _ _ _ := rfl
  blank := rfl

/-! ### Written again -/

theorem isCompletedBy_input : inputShape.IsCompletedBy Input.completedMembers where
  described := by
    refine ⟨⟨_, Member.returns_needed Codec.returns_string fun _ _ => rfl, fun ms => ?_⟩,
      ⟨_, Member.returns_withDefault Codec.returns_string (fun _ _ => rfl)
        (Value.agrees_string ""), fun ms => ?_⟩,
      ⟨_, Member.returns_withDefault Codec.returns_boolean (fun _ _ => rfl)
        (Value.agrees_boolean false), fun ms => ?_⟩,
      ⟨_, Member.returns_optional Codec.returns_string (fun _ _ => rfl) rfl, fun ms => ?_⟩,
      ⟨_, Member.returns_optional Codec.returns_string (fun _ _ => rfl) rfl, fun ms => ?_⟩⟩ <;>
    simp only [Member.needed, Member.withDefault, Member.optional, Input.completedMembers,
      find?_withoutNull, find?_supplied, String.reduceEq, if_true, if_false, Option.map_id_fun,
      id_eq]
  others name hname ms := by
    have hne : name ≠ "name" ∧ name ≠ "type" ∧ name ≠ "indexed" ∧ name ≠ "column" ∧
        name ≠ "column_type" := Shape.ne_of_knows_eq_false _ hname
    rcases hne with ⟨_, htype, hindexed, hcolumn, hcolumnType⟩
    rw [Input.completedMembers, find?_withoutNull, if_neg hcolumn, find?_withoutNull,
      if_neg hcolumnType, find?_supplied, if_neg htype, find?_supplied, if_neg hindexed]
  names ms h :=
    nodup_withoutNull _ _ (nodup_withoutNull _ _ (nodup_supplied _ _ _ (nodup_supplied _ _ _ h)))

theorem returns_input : input.Returns Input.completed :=
  Shape.returns_opened isSeparate_input isCompletedBy_input

theorem isCompletedBy_event : eventShape.IsCompletedBy Event.completedMembers where
  described := by
    refine ⟨⟨_, Member.returns_withDefault Codec.returns_string (fun _ _ => rfl)
        (Value.agrees_string ""), fun ms => ?_⟩,
      ⟨_, Member.returns_withDefault Codec.returns_string (fun _ _ => rfl)
        (Value.agrees_string ""), fun ms => ?_⟩,
      ⟨_, Member.returns_withDefault Codec.returns_boolean (fun _ _ => rfl)
        (Value.agrees_boolean false), fun ms => ?_⟩,
      ⟨_, Member.returns_withDefault (Codec.returns_listOf _ _ returns_input) (fun _ _ => rfl)
        (Value.agrees_array [] [] .nil), fun ms => ?_⟩⟩ <;>
    simp only [Member.needed, Member.withDefault, Event.completedMembers, find?_supplied,
      find?_changed, String.reduceEq, if_true, if_false, Option.map_id_fun, id_eq]
  others name hname ms := by
    have hne : name ≠ "name" ∧ name ≠ "type" ∧ name ≠ "anonymous" ∧ name ≠ "inputs" :=
      Shape.ne_of_knows_eq_false _ hname
    rcases hne with ⟨hself, htype, hanonymous, hinputs⟩
    rw [Event.completedMembers, find?_supplied, if_neg hself, find?_supplied, if_neg htype,
      find?_supplied, if_neg hanonymous, find?_supplied, if_neg hinputs, find?_changed,
      if_neg hinputs]
  names ms h :=
    nodup_supplied _ _ _ <| nodup_supplied _ _ _ <| nodup_supplied _ _ _ <|
      nodup_supplied _ _ _ <| nodup_changed _ _ _ h

end Format

/-- An event that is read from a document, in which no object repeats the name of a
    member, is written again as that document, completed. -/
theorem Event.written_completed (o : Origin) (t : Tree) (e : Event)
    (h : Format.event.decode o t = .ok e) (hrepeat : t.NoRepeat) :
    ∃ v, t.value o = .ok v ∧ (Format.event.encode e).Agrees (Event.completed v) :=
  Shape.returns_opened Format.isSeparate_event Format.isCompletedBy_event o t e h hrepeat

namespace Event

/-- A document with its members in no order, members that are not described on both
    levels, and an input whose column is null. -/
def outlined : Value :=
  .object [("name", .string "Transfer"),
    ("inputs", .array [.object [("internalType", .object [("kind", .null)]),
      ("name", .string "value"), ("column", .null)]]),
    ("docs", .array [.number (.natural 6), .object [("a b", .boolean true)]])]

theorem fits_outlined : outlined.Fits Codec.depthLimit := by
  refine .object (by decide) ?_
  simp only [List.forall_mem_cons, List.not_mem_nil, IsEmpty.forall_iff, implies_true, and_true]
  refine ⟨.string _ _, .array (List.forall_mem_singleton.mpr (.object (by decide) ?_)), .array ?_⟩
  · simp only [List.forall_mem_cons, List.not_mem_nil, IsEmpty.forall_iff, implies_true, and_true]
    exact ⟨.object (by decide) (List.forall_mem_singleton.mpr (.null _)), .string _ _, .null _⟩
  · simp only [List.forall_mem_cons, List.not_mem_nil, IsEmpty.forall_iff, implies_true, and_true]
    exact ⟨.natural _ _, .object (by decide) (List.forall_mem_singleton.mpr (.boolean _ _))⟩

/-- What that document is read as, and what is written again for it. -/
theorem written_completed_outlined :
    ∃ e, Format.event.decode (.text Codec.depthLimit) outlined.tree = .ok e ∧
      outlined.tree.NoRepeat ∧
        (Format.event.encode e).Agrees
          (.object [("docs", .array [.number (.natural 6), .object [("a b", .boolean true)]]),
            ("inputs", .array [.object [("internalType", .object [("kind", .null)]),
              ("name", .string "value"), ("indexed", .boolean false), ("type", .string "")]]),
            ("name", .string "Transfer"), ("anonymous", .boolean false),
            ("type", .string "")]) := by
  have hread : Format.event.decode (.text Codec.depthLimit) outlined.tree = .ok
      { Event.named "Transfer" with
        type := ""
        inputs := [{ Input.plain "value" "" with
          extra := [("internalType", .object [("kind", .null)])] }]
        extra := [("docs", .array [.number (.natural 6), .object [("a b", .boolean true)]])] } :=
    rfl
  have hrepeat := Value.noRepeat_tree_of_fits fits_outlined
  refine ⟨_, hread, hrepeat, ?_⟩
  rcases written_completed _ _ _ hread hrepeat with ⟨v, hv, hagrees⟩
  cases (Value.value_tree_of_fits fits_outlined).symm.trans hv
  exact hagrees

end Event

end EventTables
