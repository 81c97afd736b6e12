import EventTables.Identifier
import EventTables.Proofs.Outcome

/-!
# Laws of Identifiers

Which configurations pass the check of their names.

The check walks through a configuration and stops at the first text that may not
become part of a statement. Whether it stops at all does not depend on that
order: it passes exactly the configurations of which every text that it looks at
is allowed. `Config.NamesAllowed` lists those texts. The members of unique groups
are not among them.

## Main definitions

* `IsPlain`: All characters of a text are allowed.
* `IsIdentifier`: They are, and there is one.
* `Config.NamesAllowed`: What the check of the names asks for.

## Theorems

* `checkText_ok_iff`, `checkName_ok_iff`: The checks of one text.
* `checkNames_ok_iff`: The check of a configuration.
-/

namespace EventTables

/-- Every character of the text may become part of a statement. -/
def IsPlain (s : String) : Prop :=
  ∀ c ∈ s.toList, isAllowed c = true

-- Decided by going through the text, and not through all characters there are.
instance (s : String) : Decidable (IsPlain s) :=
  List.decidableBAll _ s.toList

/-- The text can name something in a statement. -/
def IsIdentifier (s : String) : Prop :=
  s ≠ "" ∧ IsPlain s

instance (s : String) : Decidable (IsIdentifier s) :=
  inferInstanceAs (Decidable (_ ∧ _))

-- The check of one text.
theorem checkText_ok_iff (field value : String) :
    checkText field value = .ok () ↔ IsPlain value := by
  unfold checkText IsPlain
  cases hfind : value.toList.find? fun c => !isAllowed c with
  | none =>
      simp only [List.find?_eq_none, Bool.not_eq_true', Bool.not_eq_false] at hfind
      exact ⟨fun _ => hfind, fun _ => rfl⟩
  | some c =>
      have hc : isAllowed c = false := by
        simpa only [Bool.not_eq_true'] using List.find?_some hfind
      refine ⟨fun h => (nomatch h), fun h => ?_⟩
      rw [h c (List.mem_of_find?_eq_some hfind)] at hc
      exact absurd hc (by decide)

-- The check of a text that has to name something.
theorem checkName_ok_iff (field value : String) :
    checkName field value = .ok () ↔ IsIdentifier value := by
  unfold checkName IsIdentifier
  by_cases h : value = ""
  · rw [if_pos h]
    exact ⟨fun hok => (nomatch hok), fun hid => absurd h hid.1⟩
  · rw [if_neg h, checkText_ok_iff]
    exact ⟨fun hplain => ⟨h, hplain⟩, fun hid => hid.2⟩

/-- A column of whose declaration a statement can be made. -/
def Column.IsDeclarable (c : Column) : Prop :=
  IsIdentifier c.name ∧ IsIdentifier c.type

instance (c : Column) : Decidable c.IsDeclarable :=
  inferInstanceAs (Decidable (_ ∧ _))

theorem Column.checkNames_ok_iff (c : Column) : c.checkNames = .ok () ↔ c.IsDeclarable := by
  rw [Column.checkNames, seq_eq_ok_iff, checkName_ok_iff, checkName_ok_iff, Column.IsDeclarable]

/-- All texts that the check of an integration's names looks at are allowed. -/
def Integration.NamesAllowed (ig : Integration) : Prop :=
  IsPlain ig.name ∧ IsIdentifier ig.table.name ∧ ∀ c ∈ ig.table.columns, c.IsDeclarable

theorem Integration.checkNames_ok_iff (ig : Integration) :
    ig.checkNames = .ok () ↔ ig.NamesAllowed := by
  simp only [Integration.checkNames, seq_eq_ok_iff, forM_eq_ok_iff, checkText_ok_iff,
    checkName_ok_iff, Column.checkNames_ok_iff, Integration.NamesAllowed]

/-- All texts that the check of a configuration's names looks at are allowed. -/
def Config.NamesAllowed (c : Config) : Prop :=
  (∀ ig ∈ c.integrations, ig.NamesAllowed) ∧ ∀ s ∈ c.sources, IsPlain s.name

/-- The check passes exactly the configurations whose names are allowed. -/
theorem Config.checkNames_ok_iff (c : Config) : c.checkNames = .ok () ↔ c.NamesAllowed := by
  simp only [Config.checkNames, seq_eq_ok_iff, forM_eq_ok_iff, checkText_ok_iff,
    Integration.checkNames_ok_iff, Config.NamesAllowed]

end EventTables
