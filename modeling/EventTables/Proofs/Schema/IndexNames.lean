import EventTables.Proofs.Schema.Convergence
import EventTables.Proofs.Schema.Latest
import Mathlib.Data.List.Pairwise

/-!
# Names of Indexes

When the indexes of a plan have different names.

An index is named after its table, and after the place of its group unless that is
the first. Within a table no name is used twice. But a table's name may itself end
the way such a name does, with an underscore and a number, and then the first index
of that table and a later one of another table have the same name. There is no other
way, since a number has no underscore in it: the last underscore of a name is where
its number begins. So the names of a plan are all different exactly if no table with
a first index is named after another table's later one.

A name that is used twice is an index too few. A statement finds its name taken and
does nothing, so of all statements with a name only the first one has an effect.

## Main definitions

* `Statement.createdIndex?`: The name of the index that a statement creates.
* `Table.HasIndexAt`: There is an index for a place.
* `Table.suffixed`: A name with a number.
* `Table.indexNames`, `Config.indexNames`: The names of all indexes.
* `Config.neighbouring`: Two tables.

## Theorems

* `indexName_eq_iff`: When two indexes have one name.
* `nodup_indexNames`: A table repeats no name.
* `nodup_flatMap_indexNames_iff_suffixed`: When several tables repeat none.
* `indexes_applyAll`: Of several statements with one name the first one counts.
* `nodup_indexNames_iff`: When a plan repeats none, and what follows for its indexes.
* `not_nodup_indexNames`: A plan may repeat one.
-/

namespace EventTables

/-- The name of the index that the statement creates. -/
def Statement.createdIndex? : Statement → Option String
  | .createTable _ _ => none
  | .addColumn _ _ => none
  | .createIndex index _ _ => some index

/-! ### Names of one table -/

-- What is behind the last underscore can be read from behind.
theorem takeWhile_reverse_underscore (a x : List Char) (hx : '_' ∉ x) :
    (a ++ '_' :: x).reverse.takeWhile (· ≠ '_') = x.reverse := by
  have hbehind : ∀ c ∈ x.reverse, decide (c ≠ '_') = true := by
    intro c hc
    exact decide_eq_true fun heq => hx (heq ▸ List.mem_reverse.mp hc)
  rw [List.reverse_append, List.reverse_cons, List.append_assoc,
    List.takeWhile_append_of_pos hbehind, List.singleton_append,
    List.takeWhile_cons_of_neg (by decide), List.append_nil]

theorem eq_of_append_underscore (a b x y : List Char) (hx : '_' ∉ x) (hy : '_' ∉ y)
    (h : a ++ '_' :: x = b ++ '_' :: y) : a = b ∧ x = y := by
  have hbehind := takeWhile_reverse_underscore a x hx
  rw [h, takeWhile_reverse_underscore b y hy, List.reverse_inj] at hbehind
  rw [hbehind] at h
  exact ⟨List.append_cancel_right h, hbehind.symm⟩

theorem underscore_not_mem_toDigits (n : Nat) : '_' ∉ Nat.toDigits 10 n := by
  intro hmem
  exact absurd (Nat.isDigit_of_mem_toDigits (by decide) (by decide) hmem) (by decide)

namespace Table

/-- There is an index for the place: a group with a column. -/
def HasIndexAt (t : Table) (place : Nat) : Prop :=
  ∃ group, t.unique[place]? = some group ∧ group ≠ []

/-- The name of a later index, for a table of the name. -/
def suffixed (name : String) (place : Nat) : String :=
  name ++ "_" ++ toString place

theorem toList_suffixed (name : String) (place : Nat) :
    (suffixed name place).toList = name.toList ++ '_' :: Nat.toDigits 10 place := by
  rw [suffixed, String.toList_append, String.toList_append,
    show toString place = place.repr from rfl, Nat.toList_repr, List.append_assoc]
  rfl

theorem indexName_of_ne_zero (t : Table) (place : Nat) (h : place ≠ 0) :
    t.indexName place = "u_" ++ suffixed t.name place := by
  rw [indexName, if_neg h, suffixed, String.append_assoc, String.append_assoc,
    String.append_assoc]

theorem suffixed_injective (name other : String) (i j : Nat)
    (h : suffixed name i = suffixed other j) : name = other ∧ i = j := by
  have hlist := congrArg String.toList h
  rw [toList_suffixed, toList_suffixed] at hlist
  rcases eq_of_append_underscore _ _ _ _ (underscore_not_mem_toDigits i)
    (underscore_not_mem_toDigits j) hlist with ⟨hname, hplace⟩
  rw [← Nat.toList_repr, ← Nat.toList_repr, String.toList_inj] at hplace
  exact ⟨String.toList_inj.mp hname, Nat.repr_injective hplace⟩

/-- Two indexes have one name if they are the same, or if one table is named like a
    later index of the other. -/
theorem indexName_eq_iff (t u : Table) (i j : Nat) :
    t.indexName i = u.indexName j ↔ (t.name = u.name ∧ i = j) ∨
      (i ≠ 0 ∧ j = 0 ∧ u.name = suffixed t.name i) ∨
      (i = 0 ∧ j ≠ 0 ∧ t.name = suffixed u.name j) := by
  by_cases hi : i = 0
  · by_cases hj : j = 0
    · rw [hi, hj, indexName, indexName, if_pos rfl, if_pos rfl, String.append_right_inj]
      simp only [and_true, ne_eq, not_true_eq_false, false_and, and_false, or_false]
    · rw [indexName_of_ne_zero u j hj, hi, indexName, if_pos rfl, String.append_right_inj]
      simp only [hj, Ne.symm hj, ne_eq, not_true_eq_false, not_false_eq_true, and_false, false_and,
        true_and, false_or]
  · by_cases hj : j = 0
    · rw [indexName_of_ne_zero t i hi, hj, indexName, if_pos rfl, String.append_right_inj]
      simp only [hi, ne_eq, not_true_eq_false, not_false_eq_true, and_false, false_and,
        true_and, false_or, or_false, eq_comm]
    · rw [indexName_of_ne_zero t i hi, indexName_of_ne_zero u j hj, String.append_right_inj]
      simp only [hi, hj, ne_eq, not_false_eq_true, false_and, and_false, or_false]
      constructor
      · exact suffixed_injective _ _ i j
      · rintro ⟨hname, hplace⟩
        rw [hname, hplace]

/-- The names of the indexes that the statements of a table create. -/
def indexNames (t : Table) : List String :=
  t.statements.filterMap Statement.createdIndex?

theorem mem_indexNames (t : Table) (index : String) :
    index ∈ t.indexNames ↔ ∃ place, t.HasIndexAt place ∧ t.indexName place = index := by
  rw [indexNames, List.mem_filterMap]
  constructor
  · rintro ⟨s, hs, hindex⟩
    rcases (mem_statements t s).mp hs with rfl | ⟨c, _, rfl⟩ | ⟨place, group, hplace, hne, rfl⟩
    · exact nomatch hindex
    · exact nomatch hindex
    · exact ⟨place, ⟨group, hplace, hne⟩, Option.some.inj hindex⟩
  · rintro ⟨place, ⟨group, hplace, hne⟩, hindex⟩
    exact ⟨.createIndex index t.name group, (createIndex_mem_statements_iff t _ _ group).mpr
      ⟨rfl, hne, place, hplace, hindex⟩, rfl⟩

theorem nodup_indexNames_groups (t : Table) (place : Nat) (groups : List (List String)) :
    ((t.indexStatements place groups).filterMap Statement.createdIndex?).Nodup := by
  induction groups generalizing place with
  | nil => exact List.nodup_nil
  | cons group groups ih =>
      rw [indexStatements, List.filterMap_append]
      by_cases h : group = []
      · rw [h]
        exact ih (place + 1)
      · rw [List.isEmpty_eq_false_iff.mpr h]
        refine List.nodup_cons.mpr ⟨fun hmem => ?_, ih (place + 1)⟩
        -- A later group has a later place.
        rcases List.mem_filterMap.mp hmem with ⟨s, hs, hindex⟩
        rcases (mem_indexStatements t (place + 1) groups s).mp hs with ⟨i, later, _, _, rfl⟩
        have hplace := indexName_injective t _ _ (Option.some.inj hindex)
        omega

/-- No two indexes of a table have one name. -/
theorem nodup_indexNames (t : Table) : t.indexNames.Nodup := by
  have hcolumns : (t.columns.map (Statement.addColumn t.name)).filterMap
      Statement.createdIndex? = [] := by
    rw [List.filterMap_map]
    exact List.filterMap_eq_nil_iff.mpr fun _ _ => rfl
  rw [indexNames, statements, List.cons_append, List.filterMap_cons_none rfl,
    List.filterMap_append, hcolumns, List.nil_append]
  exact nodup_indexNames_groups t 0 t.unique

end Table

/-! ### Names of several tables -/

-- No table repeats a name, so names are different if no two tables share one.
theorem nodup_flatMap_indexNames_iff (ts : List Table) (hts : (ts.map (·.name)).Nodup) :
    (ts.flatMap Table.indexNames).Nodup ↔
      ∀ t ∈ ts, ∀ u ∈ ts, ∀ index ∈ t.indexNames, index ∈ u.indexNames → t = u := by
  have hsymm : Std.Symm (Function.onFun List.Disjoint Table.indexNames) :=
    ⟨fun _ _ hdisjoint _ hleft hright => hdisjoint hright hleft⟩
  rw [List.nodup_flatMap]
  constructor
  · rintro ⟨_, hpairwise⟩ t ht u hu index hindext hindexu
    by_contra hne
    exact hpairwise.forall ht hu hne hindext hindexu
  · intro h
    refine ⟨fun t _ => t.nodup_indexNames, hts.of_map.pairwise_of_forall_ne ?_⟩
    exact fun t ht u hu hne index hindext hindexu => hne (h t ht u hu index hindext hindexu)

/-- Tables of different names repeat the name of an index only if one of them that has
    a first index is named like a later index of another one. -/
theorem nodup_flatMap_indexNames_iff_suffixed (ts : List Table)
    (hts : (ts.map (·.name)).Nodup) :
    (ts.flatMap Table.indexNames).Nodup ↔
      ∀ t ∈ ts, ∀ place, place ≠ 0 → t.HasIndexAt place →
        ∀ u ∈ ts, u.name = Table.suffixed t.name place → ¬ u.HasIndexAt 0 := by
  rw [nodup_flatMap_indexNames_iff ts hts]
  constructor
  · intro h t ht place hplace hindex u hu hname hfirst
    have heq : t.indexName place = u.indexName 0 :=
      (Table.indexName_eq_iff t u place 0).mpr (Or.inr (Or.inl ⟨hplace, rfl, hname⟩))
    have hsame : t = u := h t ht u hu _ ((Table.mem_indexNames t _).mpr ⟨place, hindex, rfl⟩)
      ((Table.mem_indexNames u _).mpr ⟨0, hfirst, heq.symm⟩)
    -- One table has one name for each place.
    rw [← hsame] at heq
    exact hplace (Table.indexName_injective t _ _ heq)
  · intro h t ht u hu index hindext hindexu
    rcases (Table.mem_indexNames t index).mp hindext with ⟨i, hi, rfl⟩
    rcases (Table.mem_indexNames u _).mp hindexu with ⟨j, hj, heq⟩
    rcases (Table.indexName_eq_iff u t j i).mp heq with ⟨hname, _⟩ | ⟨hj', rfl, hname⟩ |
      ⟨rfl, hi', hname⟩
    · exact List.inj_on_of_nodup_map hts ht hu hname.symm
    · exact absurd hi (h u hu j hj' hj t ht hname)
    · exact absurd hj (h t ht i hi' hi u hu hname)

/-! ### Effects of index statements -/

namespace Catalog

-- Whatever else a statement does, it adds at most the index of its own.
theorem indexes_apply (c d : Catalog) (s : Statement) (h : c.apply s = some d) (name : String) :
    d.indexes name = (c.indexes name).or (s.index? name) := by
  cases s with
  | createTable table columns =>
      have hindexes : d.indexes = c.indexes := by
        rw [apply] at h
        split at h
        · rw [← Option.some.inj h]
        · rw [← Option.some.inj (Option.ite_none_right_eq_some.mp h).2]
          rfl
      rw [hindexes, Statement.index?, Option.or_none]
  | addColumn table column =>
      have hindexes : d.indexes = c.indexes := by
        rw [apply] at h
        split at h
        · exact absurd h (by simp only [reduceCtorEq, not_false_eq_true])
        · split at h
          · rw [← Option.some.inj h]
          · rw [← Option.some.inj h]
            rfl
      rw [hindexes, Statement.index?, Option.or_none]
  | createIndex index table columns =>
      rw [apply] at h
      by_cases hthere : (c.indexes index).isSome = true
      · -- The name is taken, and the statement does nothing.
        rw [if_pos hthere, Option.some.injEq] at h
        rw [← h, Statement.index?]
        by_cases hname : index = name
        · rw [← hname, Option.or_of_isSome hthere]
        · rw [if_neg hname, Option.or_none]
      · rw [if_neg hthere] at h
        rw [← Option.some.inj (Option.ite_none_right_eq_some.mp h).2, Statement.index?]
        by_cases hname : index = name
        · rw [← hname, if_pos rfl, Option.not_isSome_iff_eq_none.mp hthere, Option.none_or]
          exact if_pos rfl
        · rw [if_neg hname, Option.or_none]
          exact if_neg (Ne.symm hname)

/-- Of several statements with one name the first one counts, unless the name was
    taken before. -/
theorem indexes_applyAll (c d : Catalog) (stmts : List Statement)
    (h : c.applyAll stmts = some d) (name : String) :
    d.indexes name = (c.indexes name).or (stmts.findSome? (Statement.index? name)) := by
  induction stmts generalizing c with
  | nil =>
      rw [← Option.some.inj h]
      exact Option.or_none.symm
  | cons s rest ih =>
      rw [applyAll, List.foldlM_cons] at h
      rcases Option.bind_eq_some_iff.mp h with ⟨between, hfirst, hrest⟩
      rw [ih between hrest, indexes_apply c between s hfirst, Option.or_assoc, List.findSome?_cons]
      cases s.index? name <;> rfl

end Catalog

namespace Statement

-- A statement that declares an index under a name creates it under that name.
theorem createdIndex?_of_index? (s : Statement) (name : String) (x : String × List String)
    (h : s.index? name = some x) : s.createdIndex? = some name := by
  cases s with
  | createTable table columns => exact nomatch h
  | addColumn table column => exact nomatch h
  | createIndex index table columns =>
      exact congrArg some (Option.ite_none_right_eq_some.mp h).1

-- Where no name is repeated, every index is the first one of its name.
theorem findSome?_index?_of_mem (stmts : List Statement)
    (hstmts : (stmts.filterMap createdIndex?).Nodup) (index table : String)
    (columns : List String) (hmem : .createIndex index table columns ∈ stmts) :
    stmts.findSome? (Statement.index? index) = some (table, columns) := by
  induction stmts with
  | nil => exact absurd hmem List.not_mem_nil
  | cons s rest ih =>
      rw [List.findSome?_cons]
      rcases List.mem_cons.mp hmem with rfl | hmem
      · rw [Statement.index?, if_pos rfl]
      · cases hs : s.index? index with
        | none =>
            refine ih (List.Nodup.sublist ?_ hstmts) hmem
            exact (List.sublist_cons_self s rest).filterMap createdIndex?
        | some x =>
            -- Then this one has the name, and it is repeated.
            rw [List.filterMap_cons_some (createdIndex?_of_index? s index x hs),
              List.nodup_cons] at hstmts
            have hrepeated : index ∈ rest.filterMap createdIndex? :=
              List.mem_filterMap.mpr ⟨_, hmem, rfl⟩
            exact absurd hrepeated hstmts.1

end Statement

/-! ### Names of a plan -/

namespace Table

theorem hasIndexAt_derive (ig : Integration) (place : Nat) (hplace : place ≠ 0) :
    ig.derive.table.HasIndexAt place ↔ ig.table.HasIndexAt place := by
  rw [HasIndexAt, HasIndexAt, Integration.derive_unique]
  by_cases h : ig.table.unique = []
  · -- One inferred group has no later place.
    rw [if_pos h, h, List.getElem?_nil, List.getElem?_singleton, if_neg hplace]
  · rw [if_neg h]

theorem hasIndexAt_derive_zero (ig : Integration) :
    ig.derive.table.HasIndexAt 0 ↔ ig.table.unique.head? ≠ some [] := by
  rw [HasIndexAt, Integration.derive_unique]
  rcases hunique : ig.table.unique with _ | ⟨group, groups⟩
  · rw [if_pos rfl]
    refine iff_of_true ⟨_, rfl, ?_⟩ (Option.some_ne_none []).symm
    exact List.ne_nil_of_mem (Integration.ig_name_mem_inferredGroup_derive ig)
  · rw [if_neg (List.cons_ne_nil group groups), List.head?_cons, ne_eq, Option.some.injEq]
    simp only [List.getElem?_cons_zero, Option.some.injEq, exists_eq_left']

-- A table with the groups of a derived one, as a merged table is, has its indexes where
-- the declared one has its groups.
theorem hasIndexAt_of_last (last : Integration) (t : Table)
    (hunique : t.unique = last.derive.table.unique) :
    (∀ place, place ≠ 0 → (t.HasIndexAt place ↔ last.table.HasIndexAt place)) ∧
      (t.HasIndexAt 0 ↔ last.table.unique.head? ≠ some []) := by
  have hsame : ∀ place, t.HasIndexAt place ↔ last.derive.table.HasIndexAt place := by
    intro place
    rw [HasIndexAt, HasIndexAt, hunique]
  refine ⟨fun place hplace => ?_, ?_⟩
  · exact (hsame place).trans (hasIndexAt_derive last place hplace)
  · exact (hsame 0).trans (hasIndexAt_derive_zero last)

end Table

namespace Config

/-- The names of the indexes that the statements of a plan create. -/
def indexNames (c : Config) : List String :=
  c.plan.filterMap Statement.createdIndex?

theorem indexNames_eq (c : Config) :
    c.indexNames = (mergedList c.declaredTables).flatMap Table.indexNames := by
  rw [indexNames, plan_eq_flatMap, List.filterMap_flatMap]
  rfl

-- The condition on the tables of a plan, told of the integrations that declare them.
theorem nodup_indexNames_validate (c : Config) (h : c.validate.2 = .ok ()) :
    c.validate.1.indexNames.Nodup ↔
      ∀ table last, c.lastDeclaring? table = some last → ∀ place, place ≠ 0 →
        last.table.HasIndexAt place → ∀ other,
          c.lastDeclaring? (Table.suffixed table place) = some other →
          other.table.unique.head? = some [] := by
  rw [indexNames_eq, nodup_flatMap_indexNames_iff_suffixed _ (nodup_names_mergedList _)]
  constructor
  · intro hall table last hlast place hplace hindex other hother
    rcases c.exists_merged_validate h table last hlast with ⟨t, hfind, hunique⟩
    rcases c.exists_merged_validate h _ other hother with ⟨u, hfindu, huniqueu⟩
    rcases (find?_mergeTables_iff _ table t).mp hfind with ⟨ht, rfl⟩
    rcases (find?_mergeTables_iff _ _ u).mp hfindu with ⟨hu, hsuffixed⟩
    have hlater := ((Table.hasIndexAt_of_last last t hunique).1 place hplace).mpr hindex
    have hnot := hall t ht place hplace hlater u hu hsuffixed
    exact not_not.mp fun hhead => hnot ((Table.hasIndexAt_of_last other u huniqueu).2.mpr hhead)
  · intro hall t ht place hplace hindex u hu hsuffixed hzero
    have hfind := (find?_mergeTables_iff _ t.name t).mpr ⟨ht, rfl⟩
    have hfindu := (find?_mergeTables_iff _ _ u).mpr ⟨hu, hsuffixed⟩
    rcases c.exists_last_validate h _ t hfind with ⟨last, hlast, hunique⟩
    rcases c.exists_last_validate h _ u hfindu with ⟨other, hother, huniqueu⟩
    have hlater := ((Table.hasIndexAt_of_last last t hunique).1 place hplace).mp hindex
    exact (Table.hasIndexAt_of_last other u huniqueu).2.mp hzero
      (hall _ last hlast place hplace hlater other hother)

-- Two tables with an index of one name cannot both have it.
theorem nodup_indexNames_of_effect (c : Config) (final : Catalog)
    (hall : ∀ index table columns, .createIndex index table columns ∈ c.plan →
      final.indexes index = some (table, columns)) : c.indexNames.Nodup := by
  rw [indexNames_eq, nodup_flatMap_indexNames_iff _ (nodup_names_mergedList _)]
  have heffect : ∀ t ∈ mergedList c.declaredTables, ∀ index ∈ t.indexNames,
      ∃ columns, final.indexes index = some (t.name, columns) := by
    intro t ht index hindex
    rcases (Table.mem_indexNames t index).mp hindex with ⟨place, ⟨group, hgroup, hne⟩, hname⟩
    refine ⟨group, hall index t.name group ?_⟩
    rw [plan_eq_flatMap]
    exact List.mem_flatMap.mpr ⟨t, ht, (Table.createIndex_mem_statements_iff t _ _ _).mpr
      ⟨rfl, hne, place, hgroup, hname⟩⟩
  intro t ht u hu index hindext hindexu
  rcases heffect t ht index hindext with ⟨_, hefft⟩
  rcases heffect u hu index hindexu with ⟨_, heffu⟩
  rw [hefft, Option.some.injEq, Prod.mk.injEq] at heffu
  exact eq_of_name_eq_mergedList _ t u ht hu heffu.1

/-- The indexes of a plan have different names exactly if no table with a first index is
    named like a later index of another table. Which indexes a table has is what the
    last integration of the table declares; if that declares none, it is a first one.
    Where the names are different, and only there, every index statement has its
    effect on any database in which none of the names is taken. -/
theorem nodup_indexNames_iff (c : Config) (h : c.validate.2 = .ok ()) :
    (c.validate.1.indexNames.Nodup ↔
      ∀ table last, c.lastDeclaring? table = some last → ∀ place, place ≠ 0 →
        last.table.HasIndexAt place → ∀ other,
          c.lastDeclaring? (Table.suffixed table place) = some other →
          other.table.unique.head? = some []) ∧
    ∀ start final : Catalog, start.applyAll c.validate.1.plan = some final →
      (∀ index ∈ c.validate.1.indexNames, start.indexes index = none) →
      (c.validate.1.indexNames.Nodup ↔
        ∀ index table columns, .createIndex index table columns ∈ c.validate.1.plan →
          final.indexes index = some (table, columns)) := by
  refine ⟨c.nodup_indexNames_validate h, fun start final hrun hfree =>
    ⟨fun hnodup index table columns hmem => ?_, c.validate.1.nodup_indexNames_of_effect final⟩⟩
  have hname : index ∈ c.validate.1.indexNames := List.mem_filterMap.mpr ⟨_, hmem, rfl⟩
  rw [Catalog.indexes_applyAll start final _ hrun, hfree index hname, Option.none_or]
  exact Statement.findSome?_index?_of_mem _ hnodup index table columns hmem

/-- A table with two indexes, and another table. -/
def neighbouring (name : String) : Config :=
  { empty with
    integrations := [
      .withTable "wide" ⟨"a", [⟨"x", "int"⟩, ⟨"y", "int"⟩], [["x"], ["y"]]⟩,
      .withTable "narrow" ⟨name, [⟨"z", "int"⟩], [["z"]]⟩] }

/-- Another table of a similar name, planned for a database with another index. -/
theorem nodup_indexNames_neighbouring :
    (neighbouring "a_2").validate.2 = .ok () ∧
      ∃ final : Catalog,
        occupied.applyAll (neighbouring "a_2").validate.1.plan = some final ∧
        final.indexes "u_a_1" = some ("a", ["y"]) ∧
        final.indexes "u_a_2" = some ("a_2", ["z"]) := by
  have hnames : (neighbouring "a_2").validate.1.indexNames = ["u_a", "u_a_1", "u_a_2"] := by
    decide +kernel
  have hrun : ∃ final,
      occupied.applyAll (neighbouring "a_2").validate.1.plan = some final := ⟨_, rfl⟩
  rcases hrun with ⟨final, hrun⟩
  have hfree : ∀ index ∈ (neighbouring "a_2").validate.1.indexNames,
      occupied.indexes index = none := by
    rw [hnames]
    decide
  have hnodup : (neighbouring "a_2").validate.1.indexNames.Nodup := by
    rw [hnames]
    decide
  have heffect :=
    ((nodup_indexNames_iff (neighbouring "a_2") rfl).2 occupied final hrun hfree).mp hnodup
  exact ⟨rfl, final, hrun, heffect _ _ _ (by decide +kernel), heffect _ _ _ (by decide +kernel)⟩

/-- A table that is named like the second index of another one, and its own index has
    that name, too. -/
theorem not_nodup_indexNames :
    ¬ ∀ c : Config, c.validate.2 = .ok () → c.validate.1.indexNames.Nodup := by
  intro hall
  have hnames : (neighbouring "a_1").validate.1.indexNames = ["u_a", "u_a_1", "u_a_1"] := by
    decide +kernel
  have hnodup := hall (neighbouring "a_1") rfl
  rw [hnames] at hnodup
  exact absurd hnodup (by decide)

end Config

end EventTables
