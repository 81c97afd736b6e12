import Mathlib.Data.List.Forall2

/-!
# Outcomes

When something made of steps that may fail succeeds, and with what.

Every check of this library gives nothing if it succeeds, and its first error
otherwise. One check after another, or a check of every member of a list, then
succeeds exactly if all of them do. With these two laws the outcome of a check
is read off its parts, with no look at the errors that it may give. Where the error
itself is asked for, it is that of the first part that fails: all parts before it
succeed, and what stands behind it is not looked at.

A reader gives a result, so what counts is which. Two readers that go through
the same parts in different orders fail with different errors, and yet succeed
alike. `Except.toOption` forgets the error, and what is left of a sequence of
steps no longer depends on which step fails first.

## Theorems

* `seq_eq_ok_iff`: One check after another.
* `forM_eq_ok_iff`: A check of every member of a list.
* `seq_eq_error_iff`, `forM_eq_error_iff`: Whose error it is that they give.
* `ite_eq_error_iff`: The error of a single check.
* `exists_first_cons_iff`: Where the first member is that fails.
* `forM_filter`, `forM_flatMap`: Checks of lists that are made of other ones.
* `bind_eq_ok_iff`, `map_eq_ok_iff`: The result of a step and what follows it.
* `mapM_eq_ok_iff`, `mapM_eq_error_iff`: The results of a step for every member of a list,
  or the first error.
* `exists_forall₂`: A list of what there is for each member.
* `toOption_eq_some_iff`: Nothing but the error is forgotten.
* `toOption_bind`, `toOption_map`: Steps without their errors.
* `eq_ok_iff_of_toOption_eq`: Equal but for errors is succeeding alike.
-/

namespace EventTables

variable {ε α β : Type}

theorem seq_eq_ok_iff (first : Except ε Unit) (next : Unit → Except ε Unit) :
    (first >>= next) = .ok () ↔ first = .ok () ∧ next () = .ok () := by
  rcases first with e | u
  · exact ⟨fun h => (nomatch h), fun h => (nomatch h.1)⟩
  · exact ⟨fun h => ⟨rfl, h⟩, fun h => h.2⟩

theorem forM_eq_ok_iff (check : α → Except ε Unit) (l : List α) :
    l.forM check = .ok () ↔ ∀ a ∈ l, check a = .ok () := by
  induction l with
  | nil => exact ⟨fun _ a ha => absurd ha List.not_mem_nil, fun _ => rfl⟩
  | cons b l ih =>
      change (check b >>= fun _ => l.forM check) = .ok () ↔ _
      rw [seq_eq_ok_iff, ih, List.forall_mem_cons]

/-! ### Errors -/

theorem seq_eq_error_iff (first : Except ε Unit) (next : Unit → Except ε Unit) (e : ε) :
    (first >>= next) = .error e ↔ first = .error e ∨ first = .ok () ∧ next () = .error e := by
  rcases first with e' | u
  · exact ⟨fun h => Or.inl h, fun h => h.elim id fun h => (nomatch h.1)⟩
  · exact ⟨fun h => Or.inr ⟨rfl, h⟩, fun h => h.elim (fun h => (nomatch h)) fun h => h.2⟩

-- A single check that does not pass has no choice of errors.
theorem ite_eq_error_iff (p : Prop) [Decidable p] (fault e : ε) :
    (if p then .ok () else .error fault : Except ε Unit) = .error e ↔
      ¬ (if p then .ok () else .error fault : Except ε Unit) = .ok () ∧ e = fault := by
  split
  · exact iff_of_false (fun h => nomatch h) fun h => h.1 rfl
  · exact ⟨fun h => ⟨fun hok => (nomatch hok), (Except.error.inj h).symm⟩,
      fun h => congrArg Except.error h.2.symm⟩

theorem not_exists_first_nil (standing : List α → α → List α → Prop) :
    ¬ ∃ before a after, [] = before ++ a :: after ∧ standing before a after := by
  rintro ⟨before, a, after, hl, _⟩
  exact absurd hl.symm (List.append_ne_nil_of_right_ne_nil before (List.cons_ne_nil a after))

/-- The first member of a list that fails, all before it having passed, is the first one of
    all, or the first one passes and it stands behind. -/
theorem exists_first_cons_iff (passes : α → Prop) (fails : Nat → α → Prop) (b : α) (l : List α) :
    (∃ before a after, b :: l = before ++ a :: after ∧ (∀ x ∈ before, passes x) ∧
      fails before.length a) ↔
    fails 0 b ∨ passes b ∧ ∃ before a after, l = before ++ a :: after ∧
      (∀ x ∈ before, passes x) ∧ fails (before.length + 1) a := by
  constructor
  · rintro ⟨_ | ⟨first, before⟩, a, after, hl, hbefore, ha⟩
    · rcases List.cons.inj hl with ⟨rfl, rfl⟩
      exact Or.inl ha
    · rcases List.cons.inj hl with ⟨rfl, rfl⟩
      rcases List.forall_mem_cons.mp hbefore with ⟨hb, hbefore⟩
      exact Or.inr ⟨hb, before, a, after, rfl, hbefore, ha⟩
  · rintro (hb | ⟨hb, before, a, after, rfl, hbefore, ha⟩)
    · exact ⟨[], b, l, rfl, List.forall_mem_nil _, hb⟩
    · exact ⟨b :: before, a, after, rfl, List.forall_mem_cons.mpr ⟨hb, hbefore⟩, ha⟩

/-- A check of every member of a list gives the error of the first member that it
    refuses. -/
theorem forM_eq_error_iff (check : α → Except ε Unit) (l : List α) (e : ε) :
    l.forM check = .error e ↔ ∃ before a after, l = before ++ a :: after ∧
      (∀ b ∈ before, check b = .ok ()) ∧ check a = .error e := by
  induction l with
  | nil => exact iff_of_false (fun h => nomatch h) (not_exists_first_nil _)
  | cons b l ih =>
      change (check b >>= fun _ => l.forM check) = .error e ↔ _
      rw [seq_eq_error_iff, ih]
      exact (exists_first_cons_iff (check · = .ok ()) (fun _ a => check a = .error e) b l).symm

-- What the check does not look at passes.
theorem forM_filter (check : α → Except ε Unit) (p : α → Bool) (l : List α) :
    (l.filter p).forM check = l.forM fun a => if p a then check a else .ok () := by
  induction l with
  | nil => rfl
  | cons a l ih =>
      change _ = ((if p a then check a else .ok ()) >>= fun _ =>
        l.forM fun a => if p a then check a else .ok ())
      rw [← ih, List.filter_cons]
      cases p a <;> rfl

-- Lists one behind the other are checked one after the other.
theorem forM_flatMap (check : β → Except ε Unit) (f : α → List β) (l : List α) :
    (l.flatMap f).forM check = l.forM fun a => (f a).forM check := by
  induction l with
  | nil => rfl
  | cons a l ih =>
      change _ = ((f a).forM check >>= fun _ => l.forM fun a => (f a).forM check)
      rw [← ih, List.flatMap_cons]
      exact List.forM_append

theorem mapError_eq_error_iff {ε' : Type} (x : Except ε α) (f : ε → ε') (e : ε') :
    x.mapError f = .error e ↔ ∃ cause, x = .error cause ∧ f cause = e := by
  rcases x with cause | a
  · exact ⟨fun h => ⟨cause, rfl, Except.error.inj h⟩,
      fun ⟨_, hcause, h⟩ => congrArg Except.error (Except.error.inj hcause ▸ h)⟩
  · exact ⟨fun h => (nomatch h), fun ⟨_, h, _⟩ => (nomatch h)⟩

/-! ### Results -/

theorem bind_eq_ok_iff (x : Except ε α) (next : α → Except ε β) (b : β) :
    (x >>= next) = .ok b ↔ ∃ a, x = .ok a ∧ next a = .ok b := by
  rcases x with e | a
  · exact ⟨fun h => (nomatch h), fun ⟨_, h, _⟩ => (nomatch h)⟩
  · exact ⟨fun h => ⟨a, rfl, h⟩, fun ⟨_, ha, h⟩ => Except.ok.inj ha ▸ h⟩

theorem map_eq_ok_iff (x : Except ε α) (f : α → β) (b : β) :
    x.map f = .ok b ↔ ∃ a, x = .ok a ∧ f a = b := by
  rcases x with e | a
  · exact ⟨fun h => (nomatch h), fun ⟨_, h, _⟩ => (nomatch h)⟩
  · exact ⟨fun h => ⟨a, rfl, Except.ok.inj h⟩,
      fun ⟨_, ha, h⟩ => congrArg Except.ok (Except.ok.inj ha ▸ h)⟩

theorem mapError_eq_ok_iff {ε' : Type} (x : Except ε α) (f : ε → ε') (a : α) :
    x.mapError f = .ok a ↔ x = .ok a := by
  rcases x with e | b
  · exact ⟨fun h => (nomatch h), fun h => (nomatch h)⟩
  · exact ⟨fun h => congrArg Except.ok (Except.ok.inj h),
      fun h => congrArg Except.ok (Except.ok.inj h)⟩

theorem toOption_eq_some_iff (x : Except ε α) (a : α) : x.toOption = some a ↔ x = .ok a := by
  rcases x with e | b
  · exact ⟨fun h => (nomatch h), fun h => (nomatch h)⟩
  · exact ⟨fun h => congrArg Except.ok (Option.some.inj h),
      fun h => congrArg some (Except.ok.inj h)⟩

theorem toOption_ok (a : α) : (Except.ok a : Except ε α).toOption = some a := rfl

theorem toOption_bind (x : Except ε α) (next : α → Except ε β) :
    (x >>= next).toOption = x.toOption.bind fun a => (next a).toOption := by
  cases x <;> rfl

theorem toOption_map (x : Except ε α) (f : α → β) : (x.map f).toOption = x.toOption.map f := by
  cases x <;> rfl

/-- A step for every member of a list has a result for each of them. -/
theorem mapM_eq_ok_iff (f : α → Except ε β) (l : List α) (bs : List β) :
    l.mapM f = .ok bs ↔ List.Forall₂ (fun a b => f a = .ok b) l bs := by
  induction l generalizing bs with
  | nil =>
      rw [List.mapM_nil, List.forall₂_nil_left_iff]
      exact ⟨fun h => (Except.ok.inj h).symm, fun h => congrArg Except.ok h.symm⟩
  | cons a l ih =>
      rw [List.mapM_cons, bind_eq_ok_iff, List.forall₂_cons_left_iff]
      refine exists_congr fun b => ?_
      rw [bind_eq_ok_iff]
      constructor
      · rintro ⟨hb, cs, hcs, h⟩
        exact ⟨cs, hb, (ih cs).mp hcs, (Except.ok.inj h).symm⟩
      · rintro ⟨cs, hb, hcs, rfl⟩
        exact ⟨hb, cs, (ih cs).mpr hcs, rfl⟩

/-- A step for every member of a list fails as the first member does for which there is no
    result. -/
theorem mapM_eq_error_iff (f : α → Except ε β) (l : List α) (e : ε) :
    l.mapM f = .error e ↔ ∃ before a after, l = before ++ a :: after ∧
      (∀ b ∈ before, ∃ result, f b = .ok result) ∧ f a = .error e := by
  induction l with
  | nil => exact iff_of_false (fun h => nomatch h) (not_exists_first_nil _)
  | cons a l ih =>
      rw [exists_first_cons_iff (fun b => ∃ result, f b = .ok result) (fun _ b => f b = .error e) a
        l, ← ih, List.mapM_cons]
      rcases f a with e' | result
      · refine ⟨fun h => Or.inl (congrArg Except.error (Except.error.inj h)), ?_⟩
        exact fun h => h.elim (fun h => congrArg Except.error (Except.error.inj h)) fun h =>
          (nomatch h.1)
      · rcases l.mapM f with e' | results
        · exact ⟨fun h => Or.inr ⟨⟨result, rfl⟩, h⟩, fun h => h.elim (fun h => (nomatch h)) (·.2)⟩
        · exact iff_of_false (fun h => nomatch h) fun h =>
            h.elim (fun h => (nomatch h)) fun h => (nomatch h.2)

theorem exists_of_mem_right {R : α → β → Prop} {l : List α} {bs : List β}
    (h : List.Forall₂ R l bs) (b : β) (hb : b ∈ bs) : ∃ a ∈ l, R a b := by
  induction h with
  | nil => exact absurd hb List.not_mem_nil
  | cons hac _ ih =>
      rcases List.mem_cons.mp hb with rfl | hb
      · exact ⟨_, List.mem_cons_self, hac⟩
      · rcases ih hb with ⟨d, hd, hresult⟩
        exact ⟨d, List.mem_cons_of_mem _ hd, hresult⟩

-- Where there is something for each member of a list, there is a list of it.
theorem exists_forall₂ {R : α → β → Prop} (l : List α) (h : ∀ a ∈ l, ∃ b, R a b) :
    ∃ bs, List.Forall₂ R l bs := by
  induction l with
  | nil => exact ⟨[], .nil⟩
  | cons a l ih =>
      rcases List.forall_mem_cons.mp h with ⟨⟨b, hb⟩, hl⟩
      rcases ih hl with ⟨bs, hbs⟩
      exact ⟨b :: bs, .cons hb hbs⟩

-- Every result of a list of steps is the result of one of them.
theorem exists_of_mapM_eq_ok (f : α → Except ε β) (l : List α) (bs : List β)
    (h : l.mapM f = .ok bs) (b : β) (hb : b ∈ bs) : ∃ a ∈ l, f a = .ok b :=
  exists_of_mem_right ((mapM_eq_ok_iff f l bs).mp h) b hb

/-- What is equal but for its errors succeeds alike. -/
theorem eq_ok_iff_of_toOption_eq (x y : Except ε α) (h : x.toOption = y.toOption) (a : α) :
    x = .ok a ↔ y = .ok a := by
  rw [← toOption_eq_some_iff, h, toOption_eq_some_iff]

end EventTables
