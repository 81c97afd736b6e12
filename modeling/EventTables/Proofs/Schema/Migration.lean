import EventTables.Schema.Migration
import EventTables.Proofs.Schema.Attempts
import EventTables.Proofs.Schema.Catalog
import EventTables.Proofs.Schema.Reading

/-!
# Laws of Migrations

What running statements comes to, for one table and for all of them.

An executor sees one statement at a time, and whether a migration goes through
depends only on the statements and their order. Which table a statement is from
matters to the error alone. So a migration of many tables that goes through is a
single run of all their statements (`migrateAll_ok_iff`).

An executor is given texts. `Catalog.executor` is the one that stands for a
database: it reads each text back and does what the statement does to a catalog.
The texts of safe statements are read as those statements, so a run of them is
the catalog's own account of it.

## Main definitions

* `Catalog.executor`: Reads statements and applies them to a catalog.

## Theorems

* `migrateAll_ok_iff`: A migration is one run of all statements.
* `runAll_executor`, `runAll_tables`: A catalog that is given safe statements, or
  those of tables, as texts.
-/

namespace EventTables

section Executor

variable {σ : Type}

/-- A migration goes through exactly if all the statements do in one run. -/
theorem migrateAll_ok_iff (e : Executor σ) (s final : σ) (igs : List Integration) :
    migrateAll e s igs = (.ok (), final) ↔
      e.runAll s (igs.flatMap fun ig => ig.table.ddl) = (.ok (), final) := by
  change _ ↔ e.runAll s (ddlOf igs) = _
  rw [e.runAll_ok_iff]
  rcases migrateAll_cases e s igs with ⟨haccepts, hend⟩ |
    ⟨earlier, ig, later, before, stmt, after, reason, rfl, hig, hstops, hend⟩
  · rw [hend, Prod.mk.injEq]
    exact and_congr_left fun _ => iff_of_true rfl haccepts
  · -- The statement that ends the migration is one of the run.
    rw [hend, Prod.mk.injEq, ddlOf_split earlier later hig]
    exact iff_of_false (by simp) fun h => hstops.not_accepts_append _ h.1

end Executor

namespace Catalog

/-- The executor that reads each text as a statement and applies it. A text that
    is no statement is refused, and so is a statement that fails. -/
def executor : Executor Catalog where
  execute c text :=
    match (Statement.ofText? text).bind c.apply with
    | some d => (.ok (), d)
    | none => (.error (.executing text "refused"), c)

/-- Safe statements that succeed on a catalog are executed as texts with the same
    outcome. -/
theorem runAll_executor (c d : Catalog) (stmts : List Statement) (hsafe : ∀ s ∈ stmts, s.IsSafe)
    (h : c.applyAll stmts = some d) :
    executor.runAll c (stmts.map Statement.text) = (.ok (), d) := by
  induction stmts generalizing c with
  | nil => rw [List.map_nil, Executor.runAll, Option.some.inj h]
  | cons s rest ih =>
      rcases List.forall_mem_cons.mp hsafe with ⟨hs, hrest⟩
      rw [applyAll, List.foldlM_cons, Option.bind_eq_bind, Option.bind_eq_some_iff] at h
      rcases h with ⟨next, happly, h⟩
      -- The text of the statement is read as the statement.
      have hexec : executor.execute c s.text = (.ok (), next) := by
        simp only [executor, Statement.ofText?_text s hs, Option.bind_some, happly]
      rw [List.map_cons, Executor.runAll, hexec]
      exact ih next hrest h

/-- The texts of realizable tables bring any catalog in line with them. -/
theorem runAll_tables (c : Catalog) (ts : List Table)
    (hts : ∀ t ∈ ts, t.NamesAllowed ∧ t.Realizable) :
    executor.runAll c (ts.flatMap Table.ddl) = (.ok (), c.withTables ts) := by
  have hsafe : ∀ s ∈ ts.flatMap Table.statements, s.IsSafe := by
    intro s hs
    rcases List.mem_flatMap.mp hs with ⟨t, ht, hs⟩
    exact Table.isSafe_of_groupsWithin t (hts t ht).1 (hts t ht).2.groups s hs
  have htexts : ts.flatMap Table.ddl = (ts.flatMap Table.statements).map Statement.text :=
    List.map_flatMap.symm
  rw [htexts]
  exact runAll_executor c _ _ hsafe (applyAll_flatMap_statements ts (fun t ht => (hts t ht).2) c)

end Catalog

end EventTables
