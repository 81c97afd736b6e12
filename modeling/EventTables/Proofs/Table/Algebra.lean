import EventTables.Proofs.Schema.ClosedForm

/-!
# The Algebra of Unions

Which unions of the same tables are the same table.

A union prefers its first table, so it does not commute, and its columns are in an
order, so even where the types agree two unions are only alike as sets. All other laws
hold as they stand, for tables that repeat names as well. They rest on two facts about
the scan that a union is. A table that brings no new name changes nothing
(`union_eq_left`), which is why a union absorbs both of its tables. And a scan may be
repeated for more names, so that it plays no part whether a third table is laid under the
second one before the first is laid over both (`union_assoc`).

What commuting takes is that the second table repeats no name, since a union takes only
the first column of each name from it, and that shared columns have one type
(`mem_columns_union_iff`).

## Main definitions

* `Table.AgreesWith`: Columns that two tables share have one type.

## Theorems

* `union_eq_left`: What brings no new name changes nothing.
* `union_assoc`: Unions may be put together in any order of steps.
* `mem_columns_union_iff`: The columns of a union, where the types agree.
* `union_laws`: The laws of unions.
-/

namespace EventTables

theorem unseen_eq_nil (seen : List String) (cs : List Column)
    (h : ∀ name ∈ cs.map (·.name), name ∈ seen) : unseen seen cs = [] := by
  induction cs with
  | nil => rfl
  | cons c cs ih =>
      rcases List.forall_mem_cons.mp h with ⟨hname, hrest⟩
      rw [unseen, if_pos hname, ih hrest]

-- Where no name is repeated, only the names that have come up before hide a column.
theorem mem_unseen_iff (seen : List String) (cs : List Column) (hcs : (cs.map (·.name)).Nodup)
    (d : Column) : d ∈ unseen seen cs ↔ d ∈ cs ∧ d.name ∉ seen := by
  induction cs generalizing seen with
  | nil => simp only [unseen, List.not_mem_nil, false_and]
  | cons c cs ih =>
      rcases List.nodup_cons.mp hcs with ⟨hnew, hrest⟩
      rw [unseen, List.mem_cons]
      by_cases h : c.name ∈ seen
      · rw [if_pos h, ih seen hrest]
        constructor
        · exact fun hd => ⟨Or.inr hd.1, hd.2⟩
        · rintro ⟨rfl | hd, hname⟩
          · exact absurd h hname
          · exact ⟨hd, hname⟩
      · rw [if_neg h, List.mem_cons, ih _ hrest, List.mem_cons, not_or]
        constructor
        · rintro (rfl | ⟨hd, _, hname⟩)
          · exact ⟨Or.inl rfl, h⟩
          · exact ⟨Or.inr hd, hname⟩
        · rintro ⟨rfl | hd, hname⟩
          · exact Or.inl rfl
          · -- A later column has another name, as none is repeated.
            have hne : d.name ≠ c.name := fun heq => hnew (List.mem_map.mpr ⟨d, hd, heq⟩)
            exact Or.inr ⟨hd, hne, hname⟩

namespace Table

/-- A table is known by its name, its columns and its unique groups. -/
theorem eq_of_columns_eq {t u : Table} (hname : t.name = u.name) (hunique : t.unique = u.unique)
    (hcolumns : t.columns = u.columns) : t = u := by
  rcases t with ⟨name, columns, unique⟩
  subst hname hunique hcolumns
  rfl

theorem columns_isPrefix_union (a b : Table) : a.columns <+: (a.union b).columns :=
  ⟨_, (columns_union a b).symm⟩

/-- A table that brings no new name changes nothing. -/
theorem union_eq_left (a b : Table) (h : ∀ name ∈ b.columnNames, name ∈ a.columnNames) :
    a.union b = a := by
  refine eq_of_columns_eq (union_name a b) (union_unique a b) ?_
  rw [columns_union, unseen_eq_nil _ _ h, List.append_nil]

theorem union_self (a : Table) : a.union a = a :=
  union_eq_left a a fun _ hname => hname

theorem union_union_right (a b : Table) : (a.union b).union b = a.union b :=
  union_eq_left _ b fun name hname => (mem_columnNames_union a b name).mpr (Or.inr hname)

theorem union_union_left (a b : Table) : (a.union b).union a = a.union b :=
  union_eq_left _ a fun name hname => (mem_columnNames_union a b name).mpr (Or.inl hname)

/-- Three tables lead to one union, whichever two are put together first. -/
theorem union_assoc (a b c : Table) : (a.union b).union c = a.union (b.union c) := by
  refine eq_of_columns_eq ?_ ?_ ?_
  · rw [union_name, union_name, union_name]
  · rw [union_unique, union_unique, union_unique]
  · -- After the columns of the second table, both sides scan the third for the same
    -- names.
    have hnames : ∀ name, name ∈ (a.union b).columnNames ↔
        name ∈ a.columnNames ++ b.columnNames := by
      intro name
      rw [mem_columnNames_union, List.mem_append]
    have hmore : ∀ name ∈ b.columnNames, name ∈ a.columnNames ++ b.columnNames :=
      fun name hname => List.mem_append_right _ hname
    calc ((a.union b).union c).columns
        = a.columns ++ (unseen a.columnNames b.columns ++
            unseen (a.columnNames ++ b.columnNames) c.columns) := by
          rw [columns_union, columns_union, unseen_congr _ _ hnames, List.append_assoc]
      _ = a.columns ++ (unseen a.columnNames b.columns ++
            unseen (a.columnNames ++ b.columnNames) (unseen b.columnNames c.columns)) := by
          rw [unseen_unseen _ _ hmore]
      _ = (a.union (b.union c)).columns := by
          rw [columns_union, columns_union, unseen_append]
          rfl

/-! ### Two tables in either order -/

theorem mem_columnNames_union_comm (a b : Table) (name : String) :
    name ∈ (a.union b).columnNames ↔ name ∈ (b.union a).columnNames := by
  rw [mem_columnNames_union, mem_columnNames_union]
  exact or_comm

/-- Columns that both tables have are of one type. -/
def AgreesWith (a b : Table) : Prop :=
  ∀ c ∈ a.columns, ∀ d ∈ b.columns, c.name = d.name → c.type = d.type

instance (a b : Table) : Decidable (a.AgreesWith b) :=
  inferInstanceAs (Decidable (∀ c ∈ a.columns, ∀ d ∈ b.columns, c.name = d.name → c.type = d.type))

theorem AgreesWith.symm {a b : Table} (h : a.AgreesWith b) : b.AgreesWith a :=
  fun d hd c hc hname => (h c hc d hd hname.symm).symm

/-- Where the types agree and the second table repeats no name, a union has the columns
    of both. -/
theorem mem_columns_union_iff (a b : Table) (hb : b.columnNames.Nodup) (hagree : a.AgreesWith b)
    (d : Column) : d ∈ (a.union b).columns ↔ d ∈ a.columns ∨ d ∈ b.columns := by
  rw [columns_union, List.mem_append, mem_unseen_iff _ _ hb]
  refine or_congr_right' fun hnot => ⟨fun h => h.1, fun hd => ⟨hd, fun hname => hnot ?_⟩⟩
  -- The column of its name in the first table has its type too.
  rcases List.mem_map.mp hname with ⟨c, hc, heq⟩
  have hsame : c = d := by
    rcases c with ⟨cname, ctype⟩
    have htype := hagree _ hc d hd heq
    subst heq htype
    rfl
  exact hsame ▸ hc

/-- The laws of unions. Unions are associative, a union absorbs both of its tables, and
    the first one is its front part. Its names are those of both tables, and it repeats
    none that the first one does not repeat. Two tables that repeat no name and agree on
    the types of shared columns have the same columns in either order. -/
theorem union_laws (a b c : Table) :
    (a.union b).union c = a.union (b.union c) ∧
    a.union a = a ∧ (a.union b).union b = a.union b ∧ (a.union b).union a = a.union b ∧
    (a.union b).name = a.name ∧ (a.union b).unique = a.unique ∧
    a.columns <+: (a.union b).columns ∧
    (∀ name, name ∈ (a.union b).columnNames ↔ name ∈ a.columnNames ∨ name ∈ b.columnNames) ∧
    (∀ name, name ∈ (a.union b).columnNames ↔ name ∈ (b.union a).columnNames) ∧
    (a.columnNames.Nodup → (a.union b).columnNames.Nodup) ∧
    (a.columnNames.Nodup → b.columnNames.Nodup → a.AgreesWith b →
      ∀ d, d ∈ (a.union b).columns ↔ d ∈ (b.union a).columns) := by
  refine ⟨union_assoc a b c, union_self a, union_union_right a b, union_union_left a b,
    union_name a b, union_unique a b, columns_isPrefix_union a b, mem_columnNames_union a b,
    mem_columnNames_union_comm a b, nodup_union a b, fun ha hb hagree d => ?_⟩
  rw [mem_columns_union_iff a b hb hagree, mem_columns_union_iff b a ha hagree.symm]
  exact or_comm

/-- A declaration that shares a column with `Config.earlierPrices`. -/
def asks : Table := ⟨"prices", [⟨"note", "text"⟩, ⟨"ask", "numeric"⟩], []⟩

/-- The two agree, so their unions have the same columns, each in an order of its own. With
    a third table that repeats a name they lead to one table, whichever union is made
    first. -/
theorem union_laws_prices :
    Config.earlierPrices.columnNames.Nodup ∧ asks.columnNames.Nodup ∧
      Config.earlierPrices.AgreesWith asks ∧
      (∀ d, d ∈ (Config.earlierPrices.union asks).columns ↔
        d ∈ (asks.union Config.earlierPrices).columns) ∧
      (Config.earlierPrices.union asks).columns ≠ (asks.union Config.earlierPrices).columns ∧
      (Config.earlierPrices.union asks).union Config.laterPrices =
        Config.earlierPrices.union (asks.union Config.laterPrices) := by
  have hearlier : Config.earlierPrices.columnNames.Nodup := by decide
  have hasks : asks.columnNames.Nodup := by decide
  have hagree : Config.earlierPrices.AgreesWith asks := by decide
  rcases union_laws Config.earlierPrices asks Config.laterPrices with
    ⟨hassoc, _, _, _, _, _, _, _, _, _, hcomm⟩
  exact ⟨hearlier, hasks, hagree, hcomm hearlier hasks hagree, by decide, hassoc⟩

end Table

end EventTables
