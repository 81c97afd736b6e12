import EventTables.Validation
import EventTables.Proofs.Outcome
import EventTables.Proofs.Table.Union

/-!
# Laws of References

Which integrations pass the check of their references.

Three lists of names must not repeat a name, and what an integration writes must
have a column to be written to. The check tries these in a fixed order and names
the first fault; that it finds none at all is the plain conjunction below, which
mentions no order.

## Main definitions

* `Integration.WritesWithin`: All columns that are written to are among some
  names.

## Theorems

* `firstRepeat?_eq_none_iff`: No name repeats an earlier one.
* `checkInput_ok_iff`, `checkBlockField_ok_iff`: The checks of one reference.
* `checkReferences_ok_iff`: The check of an integration.
-/

namespace EventTables

-- The names seen so far stand in for the part of the list that has been
-- passed.
theorem repeatAfter?_eq_none_iff (seen names : List String) :
    repeatAfter? seen names = none ↔ names.Nodup ∧ ∀ n ∈ names, n ∉ seen := by
  induction names generalizing seen with
  | nil => exact ⟨fun _ => ⟨List.nodup_nil, fun _ hn => absurd hn List.not_mem_nil⟩, fun _ => rfl⟩
  | cons name rest ih =>
      by_cases h : name ∈ seen
      · simp only [repeatAfter?, if_pos h, reduceCtorEq, false_iff, not_and]
        exact fun _ hall => hall name List.mem_cons_self h
      · simp only [repeatAfter?, if_neg h, ih, List.nodup_cons, forall_eq_or_imp,
          List.mem_cons, not_or]
        -- A name that has been passed may not come again, and none that comes may
        -- have been passed.
        constructor
        · rintro ⟨hnodup, hrest⟩
          exact ⟨⟨fun hmem => (hrest name hmem).1 rfl, hnodup⟩, h, fun n hn => (hrest n hn).2⟩
        · rintro ⟨⟨hname, hnodup⟩, _, hrest⟩
          exact ⟨hnodup, fun n hn => ⟨fun heq => hname (heq ▸ hn), hrest n hn⟩⟩

theorem firstRepeat?_eq_none_iff (names : List String) :
    firstRepeat? names = none ↔ names.Nodup := by
  rw [firstRepeat?, repeatAfter?_eq_none_iff]
  exact and_iff_left fun _ _ => List.not_mem_nil

theorem checkUnique_ok_iff (kind : NameKind) (names : List String) :
    checkUnique kind names = .ok () ↔ names.Nodup := by
  rw [← firstRepeat?_eq_none_iff, checkUnique]
  cases firstRepeat? names with
  | none => exact ⟨fun _ => rfl, fun _ => rfl⟩
  | some n => exact ⟨fun h => (nomatch h), fun h => (nomatch h)⟩

namespace Integration

/-- The column of every selected input and of every block field is one of the
    names, and no block field leaves its column open. -/
def WritesWithin (ig : Integration) (names : String → Prop) : Prop :=
  (∀ i ∈ ig.event.inputs, ∀ name, i.target? = some name → names name) ∧
    ∀ b ∈ ig.block, b.column ≠ "" ∧ names b.column

theorem checkInput_ok_iff (ig : Integration) (i : Input) :
    ig.checkInput i = .ok () ↔ ∃ name, i.target? = some name ∧ name ∈ ig.table.columnNames := by
  rw [checkInput]
  by_cases h : i.target?.any ig.table.hasColumn = true
  · rw [if_pos h]
    rw [Option.any_eq_true] at h
    simp only [Table.hasColumn_iff] at h
    exact ⟨fun _ => h, fun _ => rfl⟩
  · rw [if_neg h]
    rw [Option.any_eq_true] at h
    simp only [Table.hasColumn_iff] at h
    exact ⟨fun hok => (nomatch hok), fun hname => absurd hname h⟩

theorem checkBlockField_ok_iff (ig : Integration) (b : BlockField) :
    ig.checkBlockField b = .ok () ↔ b.column ≠ "" ∧ b.column ∈ ig.table.columnNames := by
  rw [checkBlockField, ← Table.hasColumn_iff]
  by_cases h : b.column ≠ "" ∧ ig.table.hasColumn b.column = true
  · rw [if_pos h]
    exact ⟨fun _ => h, fun _ => rfl⟩
  · rw [if_neg h]
    exact ⟨fun hok => (nomatch hok), fun hb => absurd hb h⟩

-- An input that is not selected has no column to be looked for.
theorem forM_checkInput_ok_iff (ig : Integration) :
    ig.event.selected.forM ig.checkInput = .ok () ↔
      ∀ i ∈ ig.event.inputs, ∀ name, i.target? = some name → name ∈ ig.table.columnNames := by
  simp only [forM_eq_ok_iff, checkInput_ok_iff, Event.selected, List.mem_filter, Input.isSelected]
  constructor
  · intro h i hi name hname
    rcases h i ⟨hi, by rw [hname]; rfl⟩ with ⟨name', hname', hmem⟩
    rw [hname, Option.some.injEq] at hname'
    exact hname' ▸ hmem
  · rintro h i ⟨hi, hsome⟩
    rcases Option.isSome_iff_exists.mp hsome with ⟨name, hname⟩
    exact ⟨name, hname, h i hi name hname⟩

/-- The check passes exactly the integrations whose lists repeat no name and
    that write to columns of their table only. -/
theorem checkReferences_ok_iff (ig : Integration) :
    ig.checkReferences = .ok () ↔
      ig.table.columnNames.Nodup ∧ (ig.event.inputs.map (·.name)).Nodup ∧
        (ig.block.map (·.name)).Nodup ∧ ig.WritesWithin (· ∈ ig.table.columnNames) := by
  simp only [checkReferences, seq_eq_ok_iff, checkUnique_ok_iff, forM_checkInput_ok_iff,
    WritesWithin]
  simp only [forM_eq_ok_iff, checkBlockField_ok_iff]

end Integration

end EventTables
