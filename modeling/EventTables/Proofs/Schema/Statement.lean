import EventTables.Schema.Statement
import EventTables.Proofs.Identifier
import Std.Data.String.ToNat

/-!
# Laws of Statements

Which statements a table has, and which characters their texts are made of.

A statement is a template with texts put into it. If those texts can name
something, the text of the statement has no other characters than theirs and
the template's own four: the blank, the two brackets and the comma. Nothing that
ends a statement, opens a quotation or begins a comment is among them.

## Main definitions

* `Statement.IsSafe`: All texts that are put into the template can name
  something.
* `Statement.indexColumns`: The columns that an index statement lists.
* `Table.NamesAllowed`: The name and the columns of a table can name something.
* `Table.GroupsWithin`: The groups of a table name only columns of its own.
* `harmfulCharacters`: Characters that change how a text is read.

## Theorems

* `mem_indexStatements`, `mem_statements`: The statements of a table.
* `createTable_mem_statements_iff`, `createIndex_mem_statements_iff`: Those that create
  something, each told by its own texts.
* `indexName_injective`: No two places of a table share an index name.
* `isSafe_statements_iff`, `isSafe_of_groupsWithin`: When the statements of a table
  are safe.
* `not_mem_text_of_isSafe`: The text of a safe statement is harmless.
-/

namespace EventTables

namespace Statement

/-- All texts that the statement is made of can name something. -/
def IsSafe : Statement → Prop
  | .createTable table columns => IsIdentifier table ∧ ∀ c ∈ columns, c.IsDeclarable
  | .addColumn table column => IsIdentifier table ∧ column.IsDeclarable
  | .createIndex index table columns =>
    IsIdentifier index ∧ IsIdentifier table ∧ ∀ name ∈ columns, IsIdentifier name

/-- The columns that an index statement lists. -/
def indexColumns : Statement → List String
  | .createTable _ _ => []
  | .addColumn _ _ => []
  | .createIndex _ _ columns => columns

end Statement

namespace Table

/-! ### The statements of a table -/

/-- The index statements are those of the groups with a column, each named by its
    place among all groups. -/
theorem mem_indexStatements (t : Table) (place : Nat) (groups : List (List String))
    (s : Statement) :
    s ∈ t.indexStatements place groups ↔ ∃ i group, groups[i]? = some group ∧ group ≠ [] ∧
      s = .createIndex (t.indexName (place + i)) t.name group := by
  induction groups generalizing place with
  | nil =>
      simp only [indexStatements, List.not_mem_nil, List.getElem?_nil, reduceCtorEq, false_and,
        exists_false]
  | cons first rest ih =>
      have hhead : s ∈ (if first.isEmpty then []
          else [Statement.createIndex (t.indexName place) t.name first]) ↔
          first ≠ [] ∧ s = .createIndex (t.indexName place) t.name first := by
        by_cases h : first = []
        · simp only [h, List.isEmpty_nil, if_true, List.not_mem_nil, ne_eq, not_true_eq_false,
            false_and]
        · simp only [List.isEmpty_eq_false_iff.mpr h, Bool.false_eq_true, if_false,
            List.mem_singleton, ne_eq, h, not_false_eq_true, true_and]
      -- The first group has place zero here, and every other one has one more than
      -- its place in the rest.
      rw [indexStatements, List.mem_append, hhead, ih]
      constructor
      · rintro (⟨hne, hs⟩ | ⟨i, group, hget, hne, hs⟩)
        · exact ⟨0, first, rfl, hne, hs⟩
        · exact ⟨i + 1, group, hget, hne, by rw [hs, Nat.add_assoc, Nat.add_comm 1 i]⟩
      · rintro ⟨i, group, hget, hne, hs⟩
        cases i with
        | zero =>
            rw [List.getElem?_cons_zero, Option.some.injEq] at hget
            rw [← hget] at hne hs
            exact Or.inl ⟨hne, hs⟩
        | succ i =>
            rw [List.getElem?_cons_succ] at hget
            exact Or.inr ⟨i, group, hget, hne, by rw [hs, Nat.add_assoc, Nat.add_comm 1 i]⟩

theorem mem_statements (t : Table) (s : Statement) :
    s ∈ t.statements ↔ s = .createTable t.name t.columns ∨
      (∃ c ∈ t.columns, s = .addColumn t.name c) ∨
      ∃ place group, t.unique[place]? = some group ∧ group ≠ [] ∧
        s = .createIndex (t.indexName place) t.name group := by
  simp only [statements, List.cons_append, List.mem_cons, List.mem_append, List.mem_map,
    mem_indexStatements, Nat.zero_add, eq_comm (a := s)]

theorem createTable_mem_statements_iff (t : Table) (table : String) (columns : List Column) :
    .createTable table columns ∈ t.statements ↔ table = t.name ∧ columns = t.columns := by
  rw [mem_statements]
  constructor
  · rintro (h | ⟨_, _, h⟩ | ⟨_, _, _, _, h⟩)
    · exact Statement.createTable.inj h
    · exact nomatch h
    · exact nomatch h
  · rintro ⟨rfl, rfl⟩
    exact Or.inl rfl

theorem createIndex_mem_statements_iff (t : Table) (index table : String)
    (group : List String) :
    .createIndex index table group ∈ t.statements ↔ table = t.name ∧ group ≠ [] ∧
      ∃ place, t.unique[place]? = some group ∧ t.indexName place = index := by
  rw [mem_statements]
  constructor
  · rintro (h | ⟨_, _, h⟩ | ⟨place, _, hgroup, hne, h⟩)
    · exact nomatch h
    · exact nomatch h
    · rcases Statement.createIndex.inj h with ⟨rfl, rfl, rfl⟩
      exact ⟨rfl, hne, place, hgroup, rfl⟩
  · rintro ⟨rfl, hne, place, hgroup, rfl⟩
    exact Or.inr (Or.inr ⟨place, group, hgroup, hne, rfl⟩)

/-! ### Names of indexes -/

theorem toList_indexName (t : Table) (place : Nat) :
    (t.indexName place).toList = 'u' :: '_' :: t.name.toList ++
      if place = 0 then [] else '_' :: Nat.toDigits 10 place := by
  unfold indexName
  by_cases h : place = 0
  · rw [if_pos h, if_pos h, String.toList_append, List.append_nil]
    rfl
  · rw [if_neg h, if_neg h, String.toList_append, String.toList_append, String.toList_append,
      show toString place = place.repr from rfl, Nat.toList_repr, List.append_assoc,
      List.append_assoc]
    rfl

/-- Within one table, an index name tells the place of its group. -/
theorem indexName_injective (t : Table) (i j : Nat) (h : t.indexName i = t.indexName j) :
    i = j := by
  have hlist := congrArg String.toList h
  rw [toList_indexName, toList_indexName] at hlist
  -- The names begin alike, so it is the numbers at the end that agree.
  have hrest := List.append_cancel_left hlist
  by_cases hi : i = 0
  · by_cases hj : j = 0
    · rw [hi, hj]
    · rw [if_pos hi, if_neg hj] at hrest
      exact absurd hrest (List.cons_ne_nil _ _).symm
  · by_cases hj : j = 0
    · rw [if_neg hi, if_pos hj] at hrest
      exact absurd hrest (List.cons_ne_nil _ _)
    · rw [if_neg hi, if_neg hj, List.cons.injEq, ← Nat.toList_repr, ← Nat.toList_repr,
        String.toList_inj] at hrest
      exact Nat.repr_injective hrest.2

theorem isIdentifier_indexName (t : Table) (place : Nat) (ht : IsIdentifier t.name) :
    IsIdentifier (t.indexName place) := by
  have hlist := toList_indexName t place
  constructor
  · intro hempty
    rw [hempty] at hlist
    exact absurd hlist (by simp only [String.toList_empty, List.cons_append, reduceCtorEq,
      not_false_eq_true])
  · intro c hc
    rw [hlist] at hc
    simp only [List.cons_append, List.mem_cons, List.mem_append] at hc
    rcases hc with rfl | rfl | hc | hc
    · decide
    · decide
    · exact ht.2 c hc
    · by_cases h : place = 0
      · rw [if_pos h] at hc
        exact absurd hc List.not_mem_nil
      · rw [if_neg h, List.mem_cons] at hc
        rcases hc with rfl | hc
        · decide
        · -- What is left is a decimal digit.
          have hdigit := Nat.isDigit_of_mem_toDigits (by decide) (by decide) hc
          simp only [isAllowed, Char.isAlphanum, hdigit, Bool.or_true, Bool.true_or]

/-! ### Safe statements -/

/-- All texts of the table that its create and column statements are made of can
    name something. -/
def NamesAllowed (t : Table) : Prop :=
  IsIdentifier t.name ∧ ∀ c ∈ t.columns, c.IsDeclarable

-- The groups of a table are the only texts that its statements do not have from
-- its name and its columns.
theorem isSafe_iff_indexColumns (t : Table) (ht : t.NamesAllowed) (s : Statement)
    (hs : s ∈ t.statements) : s.IsSafe ↔ ∀ name ∈ s.indexColumns, IsIdentifier name := by
  rcases (mem_statements t s).mp hs with rfl | ⟨c, hc, rfl⟩ | ⟨place, group, _, _, rfl⟩
  · exact ⟨fun _ name hname => absurd hname List.not_mem_nil, fun _ => ht⟩
  · exact ⟨fun _ name hname => absurd hname List.not_mem_nil, fun _ => ⟨ht.1, ht.2 c hc⟩⟩
  · exact ⟨fun h => h.2.2, fun h => ⟨isIdentifier_indexName t place ht.1, ht.1, h⟩⟩

-- A member of any group stands in some statement of the table.
theorem mem_indexColumns_of_mem_unique (t : Table) (group : List String)
    (hgroup : group ∈ t.unique) (name : String) (hname : name ∈ group) :
    ∃ s ∈ t.statements, name ∈ s.indexColumns := by
  rcases List.getElem?_of_mem hgroup with ⟨place, hplace⟩
  refine ⟨.createIndex (t.indexName place) t.name group, ?_, hname⟩
  exact (createIndex_mem_statements_iff t _ _ group).mpr
    ⟨rfl, List.ne_nil_of_mem hname, place, hplace, rfl⟩

/-- The statements of a table are safe exactly if the members of its groups can
    name something. -/
theorem isSafe_statements_iff (t : Table) (ht : t.NamesAllowed) :
    (∀ s ∈ t.statements, s.IsSafe) ↔ ∀ group ∈ t.unique, ∀ name ∈ group, IsIdentifier name := by
  constructor
  · intro h group hgroup name hname
    rcases mem_indexColumns_of_mem_unique t group hgroup name hname with ⟨s, hs, hmem⟩
    exact (isSafe_iff_indexColumns t ht s hs).mp (h s hs) name hmem
  · intro h s hs
    refine (isSafe_iff_indexColumns t ht s hs).mpr fun name hname => ?_
    rcases (mem_statements t s).mp hs with rfl | ⟨c, _, rfl⟩ | ⟨place, group, hplace, _, rfl⟩
    · exact absurd hname List.not_mem_nil
    · exact absurd hname List.not_mem_nil
    · exact h group (List.mem_of_getElem? hplace) name hname

/-- The groups of the table name only columns of its own. -/
def GroupsWithin (t : Table) : Prop :=
  ∀ group ∈ t.unique, ∀ name ∈ group, name ∈ t.columnNames

/-- Groups of columns need no check of their own, because columns are checked. -/
theorem isSafe_of_groupsWithin (t : Table) (ht : t.NamesAllowed) (hgroups : t.GroupsWithin) :
    ∀ s ∈ t.statements, s.IsSafe := by
  refine (isSafe_statements_iff t ht).mpr fun group hgroup name hname => ?_
  rcases List.mem_map.mp (hgroups group hgroup name hname) with ⟨c, hc, rfl⟩
  exact (ht.2 c hc).1

end Table

/-! ### Texts of statements -/

/-- The characters that the text of a safe statement may have: those of its names
    and those of the templates. -/
def isStatementChar (c : Char) : Bool :=
  isAllowed c || [' ', '(', ')', ','].contains c

/-- Characters that end a statement, open a quotation, begin a comment or end a
    line. -/
def harmfulCharacters : List Char :=
  [';', '\x27', '\x22', '\x60', '-', '/', '*', '#', '\n', '\r', '\x00', '\\']

/-- The text has no other characters than those of statements. -/
def IsStatementText (s : String) : Prop :=
  ∀ c ∈ s.toList, isStatementChar c = true

instance (s : String) : Decidable (IsStatementText s) :=
  List.decidableBAll _ s.toList

theorem isStatementText_append (s t : String) :
    IsStatementText (s ++ t) ↔ IsStatementText s ∧ IsStatementText t := by
  simp only [IsStatementText, String.toList_append, List.mem_append, or_imp, forall_and]

theorem isStatementText_of_isIdentifier (s : String) (hs : IsIdentifier s) :
    IsStatementText s := by
  intro c hc
  rw [isStatementChar, hs.2 c hc, Bool.true_or]

theorem isStatementText_intercalate (items : List String)
    (hitems : ∀ s ∈ items, IsStatementText s) : IsStatementText (", ".intercalate items) := by
  induction items with
  | nil => exact fun c hc => absurd hc (by simp only [String.intercalate_nil, String.toList_empty,
      List.not_mem_nil, not_false_eq_true])
  | cons first rest ih =>
      rcases List.forall_mem_cons.mp hitems with ⟨hfirst, hrest⟩
      cases rest with
      | nil =>
          rw [String.intercalate_singleton]
          exact hfirst
      | cons second rest =>
          rw [String.intercalate_cons_cons, isStatementText_append, isStatementText_append]
          exact ⟨⟨hfirst, by decide⟩, ih hrest⟩

theorem isStatementText_declaration (c : Column) (hc : c.IsDeclarable) :
    IsStatementText c.declaration := by
  rw [Column.declaration, isStatementText_append, isStatementText_append]
  exact ⟨⟨isStatementText_of_isIdentifier _ hc.1, by decide⟩,
    isStatementText_of_isIdentifier _ hc.2⟩

namespace Statement

theorem text_createTable (table : String) (columns : List Column) :
    (createTable table columns).text = "create table if not exists " ++ table ++ "(" ++
      ", ".intercalate (columns.map Column.declaration) ++ ")" :=
  rfl

theorem text_addColumn (table : String) (column : Column) :
    (addColumn table column).text =
      "alter table " ++ table ++ " add column if not exists " ++ column.declaration :=
  rfl

theorem text_createIndex (index table : String) (columns : List String) :
    (createIndex index table columns).text =
      "create unique index if not exists " ++ index ++ " on " ++ table ++ " (" ++
        ", ".intercalate columns ++ ")" :=
  rfl

-- Each template adds only its own characters to those of the names.
theorem isStatementText_text (s : Statement) (hs : s.IsSafe) : IsStatementText s.text := by
  cases s with
  | createTable table columns =>
      rcases hs with ⟨htable, hcolumns⟩
      rw [text_createTable]
      simp only [isStatementText_append]
      refine ⟨⟨⟨⟨by decide, isStatementText_of_isIdentifier _ htable⟩, by decide⟩, ?_⟩, by decide⟩
      refine isStatementText_intercalate _ fun declaration hmem => ?_
      rcases List.mem_map.mp hmem with ⟨c, hc, rfl⟩
      exact isStatementText_declaration c (hcolumns c hc)
  | addColumn table column =>
      rw [text_addColumn]
      simp only [isStatementText_append]
      exact ⟨⟨⟨by decide, isStatementText_of_isIdentifier _ hs.1⟩, by decide⟩,
        isStatementText_declaration column hs.2⟩
  | createIndex index table columns =>
      rcases hs with ⟨hindex, htable, hcolumns⟩
      rw [text_createIndex]
      simp only [isStatementText_append]
      exact ⟨⟨⟨⟨⟨⟨by decide, isStatementText_of_isIdentifier _ hindex⟩, by decide⟩,
        isStatementText_of_isIdentifier _ htable⟩, by decide⟩,
        isStatementText_intercalate _ fun name hmem =>
          isStatementText_of_isIdentifier name (hcolumns name hmem)⟩, by decide⟩

/-- The text of a safe statement cannot be read as anything but one statement. -/
theorem not_mem_text_of_isSafe (s : Statement) (hs : s.IsSafe) :
    ∀ c ∈ harmfulCharacters, c ∉ s.text.toList := by
  intro c hc hmem
  have hnone : harmfulCharacters.all (fun c => !isStatementChar c) = true := by decide
  have hfalse := List.all_eq_true.mp hnone c hc
  rw [isStatementText_text s hs c hmem] at hfalse
  exact absurd hfalse (by decide)

end Statement

end EventTables
