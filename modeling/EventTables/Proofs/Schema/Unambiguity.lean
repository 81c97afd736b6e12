import EventTables.Proofs.Schema.Catalog
import EventTables.Proofs.Schema.Reading
import EventTables.Proofs.Schema.Safety
import Mathlib.Data.List.Basic

/-!
# Unambiguity of Plans

What the texts of a plan tell of the tables that it was made for.

No two safe statements have one text, so texts that are alike are those of the same
statements. The statements in turn tell everything but one thing. A table is created
with its columns in their order, and there is one such statement for each table. Every
index says which table it is for, and its name says which place its group has. That
name alone would not be enough, since indexes of two tables may share one, but within
a table it is. Only groups without a column have no statement. So two plans have the
same texts exactly if their tables differ in nothing but such groups.

## Main definitions

* `Table.Alike`: Two tables differ in groups without a column at most.
* `Config.PlansAlike`: So do the planned tables of two configurations.
* `Config.AllNamed`: All texts of the declared tables can name something.
* `Config.grouped`: A configuration with some groups.

## Theorems

* `indexStatements_eq_of_alike`: Groups without a column have no statement.
* `isSafe_plan`, `plan_eq_of_ddl_eq`: A plan of texts that can all name something is
  safe, and its texts tell its statements.
* `createTable_mem_plan_iff`, `createIndex_mem_plan_iff`: What the statements of a plan
  tell of its tables.
* `ddl_eq_iff_plansAlike`: When two plans have the same texts.
-/

namespace EventTables

namespace Table

/-- The tables have the same name and the same columns in the same order, and the same
    groups in the same places, but for groups without a column. -/
structure Alike (t u : Table) : Prop where
  name : t.name = u.name
  columns : t.columns = u.columns
  groups : ∀ (place : Nat) (group : List String), group ≠ [] →
    (t.unique[place]? = some group ↔ u.unique[place]? = some group)

/-! ### Statements of one table -/

theorem indexStatements_eq_nil (t : Table) (place : Nat) (groups : List (List String))
    (h : ∀ (i : Nat) (group : List String), group ≠ [] → groups[i]? ≠ some group) :
    t.indexStatements place groups = [] := by
  refine List.eq_nil_iff_forall_not_mem.mpr fun s hs => ?_
  rcases (mem_indexStatements t place groups s).mp hs with ⟨i, group, hgroup, hne, _⟩
  exact h i group hne hgroup

-- Lists of groups with the same columns in the same places have the same statements.
theorem indexStatements_eq_of_alike (t : Table) (place : Nat) (groups others : List (List String))
    (h : ∀ (i : Nat) (group : List String), group ≠ [] →
      (groups[i]? = some group ↔ others[i]? = some group)) :
    t.indexStatements place groups = t.indexStatements place others := by
  induction groups generalizing place others with
  | nil =>
      refine (indexStatements_eq_nil t place others fun i group hne hgroup => ?_).symm
      exact absurd ((h i group hne).mpr hgroup) (by simp only [List.getElem?_nil, reduceCtorEq,
        not_false_eq_true])
  | cons first groups ih =>
      cases others with
      | nil =>
          refine indexStatements_eq_nil t place (first :: groups) fun i group hne hgroup => ?_
          exact absurd ((h i group hne).mp hgroup) (by simp only [List.getElem?_nil, reduceCtorEq,
            not_false_eq_true])
      | cons other others =>
          have hfirst : first = other := by
            have hzero : ∀ group : List String, group ≠ [] → (first = group ↔ other = group) := by
              intro group hne
              have hiff := h 0 group hne
              rw [List.getElem?_cons_zero, List.getElem?_cons_zero, Option.some.injEq,
                Option.some.injEq] at hiff
              exact hiff
            by_cases hempty : first = []
            · by_contra hne
              rw [hempty] at hne
              exact hne (hempty.symm.trans ((hzero other (Ne.symm hne)).mpr rfl))
            · exact ((hzero first hempty).mp rfl).symm
          rw [indexStatements, indexStatements, hfirst, ih (place + 1) others fun i group hne => ?_]
          have hiff := h (i + 1) group hne
          rw [List.getElem?_cons_succ, List.getElem?_cons_succ] at hiff
          exact hiff

theorem Alike.statements_eq {t u : Table} (h : t.Alike u) : t.statements = u.statements := by
  rw [statements, statements, h.name, h.columns, indexStatements_congr t u h.name,
    indexStatements_eq_of_alike u 0 t.unique u.unique h.groups]

end Table

namespace Config

/-- All names and types of the declared tables can name something, and so can the
    members of their groups. -/
def AllNamed (c : Config) : Prop :=
  (∀ t ∈ c.declaredTables, t.NamesAllowed) ∧ c.GroupsNamed

/-- The planned tables have the same names, and those of one name are alike. -/
structure PlansAlike (c d : Config) : Prop where
  names : c.mergedTables.map (·.1) = d.mergedTables.map (·.1)
  tables : ∀ name t u, c.mergedTables.find? name = some t → d.mergedTables.find? name = some u →
    t.Alike u

/-! ### From texts to statements -/

theorem mem_plan_iff (c : Config) (s : Statement) :
    s ∈ c.plan ↔ ∃ t, c.mergedTables.find? t.name = some t ∧ s ∈ t.statements := by
  rw [plan_eq_flatMap, List.mem_flatMap]
  simp only [mergedTables, find?_mergeTables_iff, and_true]

/-- A plan is safe if all texts of the declared tables can name something. -/
theorem isSafe_plan (c : Config) (hc : c.AllNamed) : ∀ s ∈ c.plan, s.IsSafe := by
  intro s hs
  rw [plan_eq_flatMap] at hs
  rcases List.mem_flatMap.mp hs with ⟨merged, hmem, hs⟩
  have hmerge := mergeOf_mem_mergedList c.declaredTables merged hmem
  have hdeclared : ∀ t ∈ c.declaredTables.filter (·.name == merged.name), t ∈ c.declaredTables :=
    fun t ht => (List.mem_filter.mp ht).1
  have hnames := namesAllowed_mergeOf _ merged hmerge fun t ht => hc.1 t (hdeclared t ht)
  -- The groups are those of one declaration.
  refine (Table.isSafe_statements_iff merged hnames).mpr ?_ s hs
  rcases hmerge.top with ⟨t, ht, _, hunique, _⟩
  rcases List.mem_map.mp (hdeclared t ht) with ⟨ig, hig, rfl⟩
  rw [hunique]
  exact hc.2 ig hig

/-- The texts of such a plan tell its statements. -/
theorem plan_eq_of_ddl_eq (c d : Config) (hc : c.AllNamed) (hd : d.AllNamed)
    (h : c.ddl = d.ddl) : c.plan = d.plan := by
  have hread : ∀ r : Config, r.AllNamed → r.ddl.map Statement.ofText? = r.plan.map some := by
    intro r hr
    rw [ddl, List.map_map]
    exact List.map_congr_left fun s hs => Statement.ofText?_text s (r.isSafe_plan hr s hs)
  have hsome : c.plan.map some = d.plan.map some := by
    rw [← hread c hc, ← hread d hd, h]
  exact List.map_injective_iff.mpr (fun _ _ => Option.some.inj) hsome

/-! ### From statements to tables -/

/-- A create statement is that of the table under its name. -/
theorem createTable_mem_plan_iff (c : Config) (name : String) (columns : List Column) :
    .createTable name columns ∈ c.plan ↔
      ∃ t, c.mergedTables.find? name = some t ∧ t.columns = columns := by
  simp only [mem_plan_iff, Table.createTable_mem_statements_iff]
  constructor
  · rintro ⟨t, hfind, rfl, rfl⟩
    exact ⟨t, hfind, rfl⟩
  · rintro ⟨t, hfind, rfl⟩
    rcases (find?_mergeTables_iff _ name t).mp hfind with ⟨_, rfl⟩
    exact ⟨t, hfind, rfl, rfl⟩

/-- An index statement is that of a group of the table that it names, and its own name
    is the one for the place of the group. -/
theorem createIndex_mem_plan_iff (c : Config) (index name : String) (group : List String) :
    .createIndex index name group ∈ c.plan ↔
      ∃ t, c.mergedTables.find? name = some t ∧ group ≠ [] ∧
        ∃ place, t.unique[place]? = some group ∧ t.indexName place = index := by
  simp only [mem_plan_iff, Table.createIndex_mem_statements_iff]
  constructor
  · rintro ⟨t, hfind, rfl, hgroup⟩
    exact ⟨t, hfind, hgroup⟩
  · rintro ⟨t, hfind, hgroup⟩
    rcases (find?_mergeTables_iff _ name t).mp hfind with ⟨_, rfl⟩
    exact ⟨t, hfind, rfl, hgroup⟩

-- A group of a planned table is known by an index statement, since no other place of
-- the table has an index of that name.
theorem getElem?_unique_iff_mem_plan (c : Config) (name : String) (t : Table)
    (ht : c.mergedTables.find? name = some t) (place : Nat) (group : List String)
    (hne : group ≠ []) :
    t.unique[place]? = some group ↔
      .createIndex (t.indexName place) name group ∈ c.plan := by
  rw [createIndex_mem_plan_iff]
  constructor
  · exact fun hgroup => ⟨t, ht, hne, place, hgroup, rfl⟩
  · rintro ⟨t', ht', _, place', hgroup, hindex⟩
    rw [ht, Option.some.injEq] at ht'
    rw [← ht'] at hgroup hindex
    rw [← Table.indexName_injective t _ _ hindex]
    exact hgroup

-- Plans with the same statements are those of tables that are alike.
theorem plansAlike_of_plan_eq (c d : Config) (h : c.plan = d.plan) : c.PlansAlike d := by
  have hcolumns : ∀ name, (c.mergedTables.find? name).map (·.columns) =
      (d.mergedTables.find? name).map (·.columns) := by
    intro name
    refine Option.ext fun columns => ?_
    rw [Option.map_eq_some_iff, Option.map_eq_some_iff, ← createTable_mem_plan_iff, h,
      createTable_mem_plan_iff]
  constructor
  · have hkeyed := Keyed.map_eq_of_find?_eq (·.columns) _ _
      (ascending_mergeTables c.declaredTables) (ascending_mergeTables d.declaredTables) hcolumns
    have hkeys := congrArg (List.map (·.1)) hkeyed
    rw [List.map_map, List.map_map] at hkeys
    exact hkeys
  · intro name t u ht hu
    have htname := ((find?_mergeTables_iff _ name t).mp ht).2
    have huname := ((find?_mergeTables_iff _ name u).mp hu).2
    have hname : t.name = u.name := htname.trans huname.symm
    have hsame := hcolumns name
    rw [ht, hu, Option.map_some, Option.map_some, Option.some.injEq] at hsame
    refine ⟨hname, hsame, fun place group hne => ?_⟩
    have hindex : t.indexName place = u.indexName place := by
      rw [Table.indexName, Table.indexName, hname]
    rw [c.getElem?_unique_iff_mem_plan name t ht place group hne, h, hindex,
      d.getElem?_unique_iff_mem_plan name u hu place group hne]

-- Tables that are alike have plans with the same statements.
theorem plan_eq_of_plansAlike (c d : Config) (h : c.PlansAlike d) : c.plan = d.plan := by
  have hstatements : ∀ name, (c.mergedTables.find? name).map Table.statements =
      (d.mergedTables.find? name).map Table.statements := by
    intro name
    have hnone : c.mergedTables.find? name = none ↔ d.mergedTables.find? name = none := by
      rw [Keyed.find?_eq_none_iff, Keyed.find?_eq_none_iff, h.names]
    rcases ht : c.mergedTables.find? name with _ | t
    · rw [hnone.mp ht]
    · rcases hu : d.mergedTables.find? name with _ | u
      · rw [hnone.mpr hu] at ht
        exact nomatch ht
      · rw [Option.map_some, Option.map_some, (h.tables name t u ht hu).statements_eq]
  have hkeyed := Keyed.map_eq_of_find?_eq Table.statements _ _
    (ascending_mergeTables c.declaredTables) (ascending_mergeTables d.declaredTables) hstatements
  have hplan := congrArg (List.flatMap (·.2)) hkeyed
  rw [List.flatMap_map, List.flatMap_map] at hplan
  exact hplan

/-- Two plans have the same texts exactly if they are for the same tables, with the same
    columns in the same order and the same groups in the same places, but for groups
    without a column. -/
theorem ddl_eq_iff_plansAlike (c d : Config) (hc : c.AllNamed) (hd : d.AllNamed) :
    c.ddl = d.ddl ↔ c.PlansAlike d := by
  constructor
  · exact fun h => plansAlike_of_plan_eq c d (plan_eq_of_ddl_eq c d hc hd h)
  · intro h
    rw [ddl, ddl, plan_eq_of_plansAlike c d h]

/-- A configuration with some groups of two columns. -/
def grouped (groups : List (List String)) : Config :=
  { empty with
    integrations := [.withTable "a" ⟨"t", [⟨"x", "int"⟩, ⟨"y", "int"⟩], groups⟩] }

/-- A group without a column makes no difference to the texts behind the others, but
    before one of them it does. -/
theorem ddl_eq_iff_plansAlike_grouped :
    (grouped [["x"], []]).AllNamed ∧ (grouped [["x"]]).AllNamed ∧ (grouped [[], ["x"]]).AllNamed ∧
      (grouped [["x"], []]).PlansAlike (grouped [["x"]]) ∧
      ¬ (grouped [[], ["x"]]).PlansAlike (grouped [["x"]]) := by
  have hnamed : ∀ groups ∈ [[["x"], []], [["x"]], [[], ["x"]]], (grouped groups).AllNamed := by
    unfold AllNamed Table.NamesAllowed Column.IsDeclarable GroupsNamed
    decide +kernel
  have hbehind := hnamed [["x"], []] (by decide)
  have hone := hnamed [["x"]] (by decide)
  have hbefore := hnamed [[], ["x"]] (by decide)
  refine ⟨hbehind, hone, hbefore, (ddl_eq_iff_plansAlike _ _ hbehind hone).mp (by decide +kernel),
    fun halike => ?_⟩
  have hddl := (ddl_eq_iff_plansAlike _ _ hbefore hone).mpr halike
  exact absurd hddl (by decide +kernel)

end Config

end EventTables
