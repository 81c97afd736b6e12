import EventTables.Proofs.Schema.Latest
import EventTables.Proofs.Schema.Statement
import Mathlib.Data.List.Nodup

/-!
# Columns of Indexes

When the columns that index statements list are declared before them.

A table's own statements begin with one that declares all of its columns. So an index
statement finds the columns of its group if the table has them, and nothing that comes
earlier can be of help, since in a plan every table has a name of its own. That makes
a condition on tables, `indexesResolve_flatMap_iff`, out of one on the order of
statements.

A group that is inferred is made of columns of its table. One that is declared is not
compared with the columns by any check, and a table that is merged has all columns
but the groups of a single integration. So the statements of an integration's own
table ask for the columns of that integration, and those of the plan ask for columns
that any integration of the table has.

## Main definitions

* `Statement.Declares`: A statement declares a column for a table.
* `IndexesResolve`: The columns of index statements are declared before.
* `Config.borrowing`, `Config.dangling`: Groups with columns of another integration, and
  of none.

## Theorems

* `indexesResolve_append`: Lists of statements, one after the other.
* `indexesResolve_flatMap_iff`: The statements of tables.
* `groupsWithin_derive_iff`, `groupsWithin_merged_iff`: Derived and merged tables.
* `indexesResolve_iff`: The statements of a configuration.
* `not_indexesResolve`: A group may name no column at all.
-/

namespace EventTables

/-- The statement declares the column for the table. -/
def Statement.Declares (table column : String) : Statement → Prop
  | .createTable name columns => name = table ∧ column ∈ columns.map (·.name)
  | .addColumn name c => name = table ∧ column = c.name
  | .createIndex _ _ _ => False

instance (table column : String) : DecidablePred (Statement.Declares table column)
  | .createTable name columns =>
    inferInstanceAs (Decidable (name = table ∧ column ∈ columns.map (·.name)))
  | .addColumn name c => inferInstanceAs (Decidable (name = table ∧ column = c.name))
  | .createIndex _ _ _ => inferInstanceAs (Decidable False)

/-- Every column that an index statement lists is declared for its table before. -/
def IndexesResolve (stmts : List Statement) : Prop :=
  ∀ before index table columns after,
    stmts = before ++ .createIndex index table columns :: after →
    ∀ column ∈ columns, ∃ s ∈ before, s.Declares table column

/-! ### Statements of tables -/

theorem indexesResolve_append (first second : List Statement) (hfirst : IndexesResolve first)
    (hsecond : IndexesResolve second) : IndexesResolve (first ++ second) := by
  intro before index table columns after hsplit column hcolumn
  -- The index statement is in the second list with all of the first one before it, or
  -- it is in the first.
  have hbehind : ∀ more, before = first ++ more →
      second = more ++ .createIndex index table columns :: after →
      ∃ s ∈ before, s.Declares table column := by
    intro more hbefore hmore
    rcases hsecond more index table columns after hmore column hcolumn with ⟨s, hs, hdeclares⟩
    rw [hbefore]
    exact ⟨s, List.mem_append_right first hs, hdeclares⟩
  rcases List.append_eq_append_iff.mp hsplit with ⟨more, hbefore, hmore⟩ | ⟨more, hmore, hafter⟩
  · exact hbehind more hbefore hmore
  · cases more with
    | nil =>
        rw [List.append_nil] at hmore
        exact hbehind [] (hmore.symm.trans (List.append_nil first).symm) hafter.symm
    | cons s more =>
        rw [List.cons_append, List.cons.injEq] at hafter
        rw [← hafter.1] at hmore
        exact hfirst before index table columns more hmore column hcolumn

-- The first statement of a table declares all of its columns.
theorem indexesResolve_statements (t : Table) (ht : t.GroupsWithin) :
    IndexesResolve t.statements := by
  intro before index table columns after hsplit column hcolumn
  have hmem : .createIndex index table columns ∈ t.statements := by
    rw [hsplit]
    exact List.mem_append_right before List.mem_cons_self
  rcases (Table.createIndex_mem_statements_iff t _ _ _).mp hmem with ⟨htable, _, place, hgroup, _⟩
  cases before with
  | nil =>
      rw [Table.statements, List.cons_append, List.nil_append, List.cons.injEq] at hsplit
      exact absurd hsplit.1 (by simp only [reduceCtorEq, not_false_eq_true])
  | cons s before =>
      rw [Table.statements, List.cons_append, List.cons_append, List.cons.injEq] at hsplit
      refine ⟨s, List.mem_cons_self, ?_⟩
      rw [← hsplit.1]
      exact ⟨htable.symm, ht columns (List.mem_of_getElem? hgroup) column hcolumn⟩

-- A statement of a table declares columns of that table only.
theorem mem_columnNames_of_declares (t : Table) (s : Statement) (hs : s ∈ t.statements)
    (table column : String) (hdeclares : s.Declares table column) :
    t.name = table ∧ column ∈ t.columnNames := by
  rcases (Table.mem_statements t s).mp hs with rfl | ⟨c, hc, rfl⟩ | ⟨_, _, _, _, rfl⟩
  · exact hdeclares
  · exact ⟨hdeclares.1, List.mem_map.mpr ⟨c, hc, hdeclares.2.symm⟩⟩
  · exact hdeclares.elim

/-- The index statements of tables with different names find their columns exactly if
    the groups of each table name columns of its own. -/
theorem indexesResolve_flatMap_iff (ts : List Table) (hts : (ts.map (·.name)).Nodup) :
    IndexesResolve (ts.flatMap Table.statements) ↔ ∀ t ∈ ts, t.GroupsWithin := by
  constructor
  · intro h t ht group hgroup name hname
    rcases List.getElem?_of_mem hgroup with ⟨place, hplace⟩
    have hmem : .createIndex (t.indexName place) t.name group ∈ ts.flatMap Table.statements := by
      refine List.mem_flatMap.mpr ⟨t, ht, (Table.createIndex_mem_statements_iff t _ _ _).mpr ?_⟩
      exact ⟨rfl, List.ne_nil_of_mem hname, place, hplace, rfl⟩
    rcases List.append_of_mem hmem with ⟨before, after, hsplit⟩
    rcases h before _ _ group after hsplit name hname with ⟨s, hs, hdeclares⟩
    have hs : s ∈ ts.flatMap Table.statements := hsplit ▸ List.mem_append_left _ hs
    -- Only the table itself has a statement that declares a column for it.
    rcases List.mem_flatMap.mp hs with ⟨u, hu, hs⟩
    rcases mem_columnNames_of_declares u s hs _ _ hdeclares with ⟨hsame, hcolumn⟩
    rw [List.inj_on_of_nodup_map hts hu ht hsame] at hcolumn
    exact hcolumn
  · intro h
    -- Statements of other tables before them do no harm, either.
    clear hts
    induction ts with
    | nil =>
        intro before index table columns after hsplit
        exact absurd hsplit.symm (List.append_ne_nil_of_right_ne_nil before (List.cons_ne_nil _ _))
    | cons t rest ih =>
        rcases List.forall_mem_cons.mp h with ⟨ht, hrest⟩
        rw [List.flatMap_cons]
        exact indexesResolve_append _ _ (indexesResolve_statements t ht) (ih hrest)

/-! ### Groups of an accepted configuration -/

/-- A derived table has the columns of its groups exactly if the declared groups name
    columns that are declared or provided for. -/
theorem groupsWithin_derive_iff (ig : Integration) :
    ig.derive.table.GroupsWithin ↔ ∀ group ∈ ig.table.unique, ∀ name ∈ group,
      name ∈ ig.table.columnNames ∨ ig.Requires name := by
  simp only [Table.GroupsWithin, ← Integration.mem_columnNames_derive]
  refine ig.forall_mem_derive_unique_iff (· ∈ ig.derive.table.columnNames) fun name hname => ?_
  exact ((Table.mem_inferredGroup _ name).mp hname).2

namespace Config

/-- A merged table has the columns of its groups exactly if some integrations of the
    table have those that the last one's declared groups name. -/
theorem groupsWithin_merged_iff (c : Config) (h : c.validate.2 = .ok ()) (table : String)
    (last : Integration) (hlast : c.lastDeclaring? table = some last) (merged : Table)
    (hmerged : c.validate.1.mergedTables.find? table = some merged)
    (hunique : merged.unique = last.derive.table.unique) :
    merged.GroupsWithin ↔
      ∀ group ∈ last.table.unique, ∀ name ∈ group, c.Provides table name := by
  rcases c.mem_of_lastDeclaring? table last hlast with ⟨hmem, htable⟩
  simp only [Table.GroupsWithin, c.mem_columnNames_merged h table merged hmerged, hunique]
  refine last.forall_mem_derive_unique_iff (c.Provides table) fun name hname => ?_
  have hcolumn := ((Table.mem_inferredGroup _ name).mp hname).2
  exact ⟨last, hmem, htable, (Integration.mem_columnNames_derive last name).mp hcolumn⟩

/-- In the statements of an integration's own table, every column of an index is
    declared before for that table exactly if the integration declares or needs it.
    In the plan, that is so exactly if some integration of the table does, for each
    column that the last one's groups name. Groups that are inferred are never at
    fault. -/
theorem indexesResolve_iff (c : Config) (h : c.validate.2 = .ok ()) :
    c.validate.1.integrations = c.integrations.map Integration.derive ∧
      (∀ ig ∈ c.integrations, (IndexesResolve ig.derive.table.statements ↔
        ∀ group ∈ ig.table.unique, ∀ name ∈ group,
          name ∈ ig.table.columnNames ∨ ig.Requires name)) ∧
      (IndexesResolve c.validate.1.plan ↔
        ∀ table last, c.lastDeclaring? table = some last →
          ∀ group ∈ last.table.unique, ∀ name ∈ group, c.Provides table name) := by
  refine ⟨by rw [validate_fst c h], fun ig _ => ?_, ?_⟩
  · rw [← groupsWithin_derive_iff]
    have hsingle := indexesResolve_flatMap_iff [ig.derive.table] (List.nodup_singleton _)
    rw [List.flatMap_singleton, List.forall_mem_singleton] at hsingle
    exact hsingle
  · rw [plan_eq_flatMap, indexesResolve_flatMap_iff _ (nodup_names_mergedList _)]
    constructor
    · intro hall table last hlast
      rcases c.exists_merged_validate h table last hlast with ⟨merged, hmerged, hunique⟩
      exact (c.groupsWithin_merged_iff h table last hlast merged hmerged hunique).mp
        (hall merged ((find?_mergeTables_iff _ table merged).mp hmerged).1)
    · intro hall merged hmem
      have hmerged := (find?_mergeTables_iff _ merged.name merged).mpr ⟨hmem, rfl⟩
      rcases c.exists_last_validate h _ merged hmerged with ⟨last, hlast, hunique⟩
      exact (c.groupsWithin_merged_iff h _ last hlast merged hmerged hunique).mpr
        (hall _ last hlast)

/-- Two integrations of one table. The groups of the second one name a column of the
    first one. -/
def borrowing : Config :=
  { empty with
    integrations := [
      .withTable "bids" ⟨"prices", [⟨"bid", "numeric"⟩], []⟩,
      .withTable "asks" ⟨"prices", [⟨"ask", "numeric"⟩], [["bid", "ask"]]⟩] }

/-- The plan has all columns of the index, and the second integration's own statements
    do not. -/
theorem indexesResolve_borrowing :
    borrowing.validate.2 = .ok () ∧ IndexesResolve borrowing.validate.1.plan ∧
      ∃ ig ∈ borrowing.validate.1.integrations, ¬ IndexesResolve ig.table.statements := by
  rcases indexesResolve_iff borrowing rfl with ⟨hfst, hown, hplan⟩
  have hdeclared : ∀ ig ∈ borrowing.integrations, ∀ group ∈ ig.table.unique, ∀ name ∈ group,
      ∃ other ∈ borrowing.integrations, other.table.name = ig.table.name ∧
        name ∈ other.table.columnNames := by
    decide +kernel
  have hlacks : ∃ ig ∈ borrowing.integrations, ¬ ∀ group ∈ ig.table.unique, ∀ name ∈ group,
      name ∈ ig.table.columnNames ∨ ig.Requires name := by
    unfold Integration.Requires
    decide +kernel
  rcases hlacks with ⟨ig, hig, hlacks⟩
  refine ⟨rfl, hplan.mpr fun table last hlast group hgroup name hname => ?_, ig.derive, ?_, ?_⟩
  · rcases borrowing.mem_of_lastDeclaring? table last hlast with ⟨hmem, rfl⟩
    rcases hdeclared last hmem group hgroup name hname with ⟨other, hother, hsame, hcolumn⟩
    exact ⟨other, hother, hsame, Or.inl hcolumn⟩
  · rw [hfst]
    exact List.mem_map_of_mem hig
  · exact fun hresolve => hlacks ((hown ig hig).mp hresolve)

/-- An integration whose group names no column at all. -/
def dangling : Config :=
  { empty with integrations := [.withTable "a" ⟨"t", [⟨"x", "int"⟩], [["nope"]]⟩] }

/-- The group is accepted, and no statement of the plan declares its column. -/
theorem not_indexesResolve :
    ¬ ∀ c : Config, c.validate.2 = .ok () → IndexesResolve c.validate.1.plan ∧
      ∀ ig ∈ c.validate.1.integrations, IndexesResolve ig.table.statements := by
  intro hall
  rcases hall dangling rfl with ⟨hplan, _⟩
  have hsplit : dangling.validate.1.plan =
      dangling.validate.1.plan.dropLast ++ .createIndex "u_t" "t" ["nope"] :: [] := by
    decide +kernel
  have hnone : ¬ ∃ s ∈ dangling.validate.1.plan.dropLast, s.Declares "t" "nope" := by
    decide +kernel
  exact hnone (hplan _ _ _ _ _ hsplit "nope" List.mem_cons_self)

end Config

end EventTables
