import EventTables.Proofs.Schema.Catalog
import EventTables.Proofs.Schema.ClosedForm

/-!
# Reported Type Conflicts

Which differences in type are reported while tables are put together.

A conflict is met between two tables, the newest declaration and what the earlier ones
have led to. The second is not a declaration: it may have the type of a column from far
back, past declarations that do not mention the column. What is reported of one column
can all the same be told of its declared types alone. A union keeps the type of its first
table, and else that of its second (`type?_union`), so the type that a declaration meets
is always the one before it among the types that are declared for the column. One more
declaration then adds one step to the list of types, and the conflict, if there is one, is
the one between its last two (`typeChanges_step`).

This takes tables that repeat no name. A union absorbs columns one by one, and of two that
have one name the second meets what the first has left.

## Main definitions

* `Config.declaredTypes`: The types that are declared for a column.
* `typeChanges`: A conflict for each type that another one follows.
* `Config.conflictsOf`: What is reported of a column.

## Theorems

* `filter_conflictsWith`: What is reported of a column in one union.
* `typeChanges_step`: What one more declaration adds.
* `filter_mergeConflictsFrom`: What is reported of a column on the way.
* `conflictsOf_eq_typeChanges`: What is reported of a column in the end.
-/

namespace EventTables

/-- One conflict for each type in a list that is followed by a different one, in order. The
    later type is the one that stays. -/
def typeChanges (table column : String) (types : List String) : List Conflict :=
  ((types.zip types.tail).filter fun change => change.1 ≠ change.2).map fun change =>
    ⟨table, column, change.2, change.1⟩

/-- The conflict between the type that stays, if there is one, and the one before it. -/
def typeClash (table column : String) : Option String → Option String → List Conflict
  | some kept, some dropped => if kept = dropped then [] else [⟨table, column, kept, dropped⟩]
  | _, _ => []

theorem typeClash_none (table column : String) (kept? : Option String) :
    typeClash table column kept? none = [] := by
  cases kept? <;> rfl

theorem typeChanges_cons_cons (table column first second : String) (types : List String) :
    typeChanges table column (first :: second :: types) =
      typeClash table column (some second) (some first) ++
        typeChanges table column (second :: types) := by
  rw [typeChanges, List.tail_cons, List.zip_cons_cons, List.filter_cons, typeClash]
  by_cases h : second = first
  · rw [if_pos h, if_neg (by simp only [h, ne_eq, not_true, decide_false, Bool.false_eq_true,
      not_false_eq_true])]
    rfl
  · rw [if_neg h, if_pos (decide_eq_true (Ne.symm h)), List.map_cons]
    rfl

/-- One more declaration, with a type or without, adds the conflict with the type that was
    there before. After it, its own type is there, or else the same as before. -/
theorem typeChanges_step (table column : String) (before? now? : Option String)
    (types : List String) :
    typeChanges table column (before?.toList ++ (now?.toList ++ types)) =
      typeClash table column now? before? ++
        typeChanges table column ((now?.or before?).toList ++ types) := by
  rcases before? with _ | before
  · rw [typeClash_none, Option.or_none]
    rfl
  · rcases now? with _ | now
    · rfl
    · exact typeChanges_cons_cons table column before now types

/-- Nothing is reported exactly if all types are the same. -/
theorem typeChanges_eq_nil_iff (table column : String) (types : List String) :
    typeChanges table column types = [] ↔ ∀ x ∈ types, ∀ y ∈ types, x = y := by
  induction types with
  | nil => exact iff_of_true rfl (List.forall_mem_nil _)
  | cons first rest ih =>
      rcases rest with _ | ⟨second, rest⟩
      · refine iff_of_true rfl fun x hx y hy => ?_
        rw [List.mem_singleton.mp hx, List.mem_singleton.mp hy]
      · rw [typeChanges_cons_cons, List.append_eq_nil_iff, ih, typeClash]
        constructor
        · rintro ⟨hclash, hrest⟩
          have hsame : first = second := by
            by_contra hne
            rw [if_neg (Ne.symm hne)] at hclash
            exact List.cons_ne_nil _ _ hclash
          -- The first type is the second one, which is among the others.
          subst hsame
          have hall : ∀ x ∈ first :: first :: rest, x ∈ first :: rest :=
            List.forall_mem_cons.mpr ⟨List.mem_cons_self, fun _ hx => hx⟩
          exact fun x hx y hy => hrest x (hall x hx) y (hall y hy)
        · intro h
          refine ⟨if_pos ?_, fun x hx y hy => ?_⟩
          · exact h second (List.mem_cons_of_mem _ List.mem_cons_self) first List.mem_cons_self
          · exact h x (List.mem_cons_of_mem _ hx) y (List.mem_cons_of_mem _ hy)

/-! ### One union -/

namespace Table

/-- The type of a column in a union is that of the first table, and else that of the
    second. -/
theorem type?_union (a b : Table) (column : String) :
    (a.union b).type? column = (a.type? column).or (b.type? column) := by
  rw [type?, type?, type?, ← Catalog.declared_append, Catalog.declared, columns_union,
    show a.columnNames = a.columns.map (·.name) from rfl, find?_unseen]
  rfl

theorem type?_absorb_of_ne (t : Table) (c : Column) (column : String) (h : column ≠ c.name) :
    (t.absorb c).type? column = t.type? column := by
  rw [absorb]
  split
  · rfl
  · rw [type?, addColumn, Catalog.declared_append, Catalog.declared_cons, if_neg h]
    exact Option.or_none

theorem conflict?_eq (t : Table) (c : Column) :
    (t.conflict? c).toList = typeClash t.name c.name (t.type? c.name) (some c.type) := by
  have htype : t.type? c.name = (t.column? c.name).map (·.type) := rfl
  rw [conflict?, htype]
  rcases t.column? c.name with _ | kept
  · rfl
  · by_cases h : kept.type = c.type
    · simp only [Option.map_some, typeClash, if_pos h, Option.toList_none]
    · simp only [Option.map_some, typeClash, if_neg h, Option.toList_some]

theorem table_of_mem_typeClash (table column : String) (kept? dropped? : Option String)
    (k : Conflict) (hk : k ∈ typeClash table column kept? dropped?) :
    k.table = table ∧ k.column = column := by
  rcases kept? with _ | kept
  · exact absurd hk List.not_mem_nil
  · rcases dropped? with _ | dropped
    · exact absurd hk List.not_mem_nil
    · rw [typeClash] at hk
      split at hk
      · exact absurd hk List.not_mem_nil
      · rw [List.mem_singleton.mp hk]
        exact ⟨rfl, rfl⟩

/-- All conflicts of a union are reported of the first table. -/
theorem table_of_mem_conflictsWith (t : Table) (cs : List Column) (k : Conflict)
    (hk : k ∈ t.conflictsWith cs) : k.table = t.name := by
  induction cs generalizing t with
  | nil => exact absurd hk List.not_mem_nil
  | cons c cs ih =>
      rw [conflictsWith, conflict?_eq] at hk
      rcases List.mem_append.mp hk with hk | hk
      · exact (table_of_mem_typeClash _ _ _ _ k hk).1
      · exact (ih _ hk).trans (absorb_name t c)

/-- What is reported of one column is the conflict between its two types. -/
theorem filter_conflictsWith (t : Table) (cs : List Column) (hcs : (cs.map (·.name)).Nodup)
    (column : String) :
    (t.conflictsWith cs).filter (·.column == column) =
      typeClash t.name column (t.type? column) (Catalog.declared cs column) := by
  induction cs generalizing t with
  | nil => exact (typeClash_none _ _ _).symm
  | cons c cs ih =>
      rcases List.nodup_cons.mp hcs with ⟨hnew, hrest⟩
      have hcolumn : ∀ k ∈ (t.conflict? c).toList, k.column = c.name := by
        intro k hk
        rw [conflict?_eq] at hk
        exact (table_of_mem_typeClash _ _ _ _ k hk).2
      rw [conflictsWith, List.filter_append, ih _ hrest, absorb_name, Catalog.declared_cons]
      by_cases h : column = c.name
      · -- No later column has the name, so there is only this one to report on.
        have hnone : Catalog.declared cs column = none := by
          rw [← Option.not_isSome_iff_eq_none, Catalog.isSome_declared, h]
          exact hnew
        rw [if_pos h, hnone, typeClash_none, List.append_nil, h, ← conflict?_eq]
        exact List.filter_eq_self.mpr fun k hk => beq_iff_eq.mpr (hcolumn k hk)
      · have hnil : (t.conflict? c).toList.filter (·.column == column) = [] :=
          List.filter_eq_nil_iff.mpr fun k hk heq =>
            h ((beq_iff_eq.mp heq).symm.trans (hcolumn k hk))
        rw [if_neg h, hnil, List.nil_append, type?_absorb_of_ne t c column h]

end Table

/-! ### One more declaration -/

/-- The conflict is reported of this column of this table. -/
def Conflict.isOf (table column : String) (k : Conflict) : Bool :=
  k.table == table && k.column == column

namespace Table

/-- The conflicts met when a declaration is laid over what was put together before. -/
def conflictsOver (t : Table) : Option Table → List Conflict
  | some earlier => t.conflicts earlier
  | none => []

theorem type?_over (t : Table) (earlier? : Option Table) (column : String) :
    (t.over earlier?).type? column =
      (t.type? column).or (earlier?.bind (·.type? column)) := by
  cases earlier? with
  | none => exact Option.or_none.symm
  | some earlier => exact type?_union t earlier column

theorem nodup_over (t : Table) (earlier? : Option Table) (ht : t.columnNames.Nodup) :
    (t.over earlier?).columnNames.Nodup := by
  cases earlier? with
  | none => exact ht
  | some earlier => exact nodup_union t earlier ht

/-- A declaration reports of a column of its own table, if at all, that it changes the
    type. -/
theorem filter_conflictsOver (t : Table) (earlier? : Option Table)
    (hearlier : ∀ earlier, earlier? = some earlier → earlier.columnNames.Nodup)
    (table column : String) :
    (t.conflictsOver earlier?).filter (·.isOf table column) =
      if t.name = table then
        typeClash table column (t.type? column) (earlier?.bind (·.type? column))
      else [] := by
  rcases earlier? with _ | earlier
  · rw [Option.bind_none, typeClash_none, ite_self]
    rfl
  · have htable : ∀ k ∈ t.conflicts earlier, k.table = t.name :=
      t.table_of_mem_conflictsWith earlier.columns
    rw [conflictsOver, Option.bind_some]
    by_cases h : t.name = table
    · subst h
      rw [if_pos rfl]
      refine Eq.trans (List.filter_congr fun k hk => ?_)
        (filter_conflictsWith t earlier.columns (hearlier earlier rfl) column)
      rw [Conflict.isOf, beq_iff_eq.mpr (htable k hk), Bool.true_and]
    · rw [if_neg h, List.filter_eq_nil_iff]
      intro k hk hof
      rw [Conflict.isOf, Bool.and_eq_true, beq_iff_eq] at hof
      exact h ((htable k hk).symm.trans hof.1)

end Table

theorem mergeConflictsFrom_cons (tables : Keyed String Table) (t : Table) (rest : List Table) :
    mergeConflictsFrom tables (t :: rest) =
      t.conflictsOver (tables.find? t.name) ++ mergeConflictsFrom (mergeTable tables t) rest := by
  rw [mergeConflictsFrom]
  cases tables.find? t.name <;> rfl

/-! ### All declarations -/

/-- What is reported of a column while declarations are added to the tables so far: the
    changes of its type, from the one that it has so far through those that are
    declared. -/
theorem filter_mergeConflictsFrom (tables : Keyed String Table) (declared : List Table)
    (htables : ∀ name t, tables.find? name = some t → t.columnNames.Nodup)
    (hdeclared : ∀ t ∈ declared, t.columnNames.Nodup) (table column : String) :
    (mergeConflictsFrom tables declared).filter (·.isOf table column) =
      typeChanges table column
        (((tables.find? table).bind (·.type? column)).toList ++
          (declared.filter (·.name == table)).filterMap (·.type? column)) := by
  induction declared generalizing tables with
  | nil =>
      rw [List.filter_nil, List.filterMap_nil, List.append_nil]
      cases (tables.find? table).bind (·.type? column) <;> rfl
  | cons t rest ih =>
      rcases List.forall_mem_cons.mp hdeclared with ⟨ht, hrest⟩
      have hnext : ∀ name u, (mergeTable tables t).find? name = some u → u.columnNames.Nodup := by
        intro name u hu
        rw [find?_mergeTable] at hu
        split at hu
        · exact Option.some.inj hu ▸ t.nodup_over _ ht
        · exact htables name u hu
      rw [mergeConflictsFrom_cons, List.filter_append,
        t.filter_conflictsOver _ (htables t.name) table column, ih _ hnext hrest,
        find?_mergeTable]
      by_cases h : t.name = table
      · -- The declaration takes the place of what was there before, in the tables and in
        -- the list of types.
        subst h
        rw [if_pos rfl, if_pos rfl, Option.bind_some, Table.type?_over, ← typeChanges_step,
          List.filter_cons, if_pos (beq_self_eq_true t.name), List.filterMap_cons]
        cases t.type? column <;> rfl
      · rw [if_neg h, if_neg h, List.nil_append, List.filter_cons,
          if_neg fun heq => h (beq_iff_eq.mp heq)]

namespace Config

/-- The types that are declared for a column of a table, in the order of declaration. A
    declaration of the table that has no such column is passed over. -/
def declaredTypes (c : Config) (table column : String) : List String :=
  (c.declarationsOf table).filterMap (·.type? column)

/-- The conflicts that are reported of a column of a table while the tables of the
    configuration are put together, in order. -/
def conflictsOf (c : Config) (table column : String) : List Conflict :=
  c.mergeConflicts.filter (·.isOf table column)

/-- Of each column of each table exactly the changes of its declared type are reported,
    from one declaration that has the column to the next one that has it. So nothing is
    reported of it exactly if all that have it agree. -/
theorem conflictsOf_eq_typeChanges (c : Config)
    (h : ∀ ig ∈ c.integrations, ig.table.columnNames.Nodup) (table column : String) :
    c.conflictsOf table column =
        typeChanges table column (c.declaredTypes table column) ∧
      (c.conflictsOf table column = [] ↔
        ∀ x ∈ c.declaredTypes table column, ∀ y ∈ c.declaredTypes table column, x = y) := by
  have hdeclared : ∀ t ∈ c.declaredTables, t.columnNames.Nodup := by
    intro t ht
    rcases List.mem_map.mp ht with ⟨ig, hig, rfl⟩
    exact h ig hig
  have hchanges : c.conflictsOf table column =
      typeChanges table column (c.declaredTypes table column) :=
    filter_mergeConflictsFrom [] c.declaredTables (fun _ _ hfind => nomatch hfind) hdeclared
      table column
  rw [hchanges, typeChanges_eq_nil_iff]
  exact ⟨rfl, Iff.rfl⟩

/-- Four declarations of a table, the second of which does not have the column whose type
    changes twice among the others, and one of another table with a column of its name. -/
def repriced : Config :=
  { Config.empty with
    integrations := [
      Integration.withTable "first" ⟨"prices", [⟨"bid", "numeric"⟩, ⟨"note", "text"⟩], []⟩,
      Integration.withTable "notes" ⟨"prices", [⟨"note", "text"⟩], []⟩,
      Integration.withTable "other" ⟨"offers", [⟨"bid", "bytea"⟩], []⟩,
      Integration.withTable "second" ⟨"prices", [⟨"bid", "text"⟩], []⟩,
      Integration.withTable "third" ⟨"prices", [⟨"bid", "numeric"⟩], []⟩] }

/-- The column is reported twice, the column that all agree on is not. -/
theorem conflictsOf_eq_typeChanges_repriced :
    (∀ ig ∈ repriced.integrations, ig.table.columnNames.Nodup) ∧
      repriced.conflictsOf "prices" "bid" =
        [⟨"prices", "bid", "text", "numeric"⟩, ⟨"prices", "bid", "numeric", "text"⟩] ∧
      repriced.conflictsOf "prices" "note" = [] := by
  have h : ∀ ig ∈ repriced.integrations, ig.table.columnNames.Nodup := by
    simp only [repriced, List.forall_mem_cons, List.not_mem_nil, IsEmpty.forall_iff, implies_true,
      and_true]
    decide
  refine ⟨h, (conflictsOf_eq_typeChanges repriced h "prices" "bid").1.trans (by decide), ?_⟩
  exact (conflictsOf_eq_typeChanges repriced h "prices" "note").2.mpr (by decide)

end Config

end EventTables
