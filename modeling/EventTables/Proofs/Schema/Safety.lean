import EventTables.Proofs.Schema.Merge
import EventTables.Proofs.Schema.Statement
import EventTables.Proofs.Validation

/-!
# Safety of Statements

Which texts of an accepted configuration reach its statements, and which of them
have been checked.

A statement is made of a table's name, its columns and the members of its unique
groups. Names and columns are checked before anything else happens, derivation
adds only names of its own, and a merged table has its parts from declared ones,
so all of these can name something wherever they end up. The members of unique
groups are put into index statements as they were declared, and no check looks at
them. `statements_safe_iff` says that this is the only gap: the statements of an
accepted configuration are safe exactly if the declared groups list nothing but
identifiers.

## Main definitions

* `Config.statements`: All statements that a configuration leads to.
* `Config.GroupsNamed`: The members of declared groups can name something.
* `Config.injecting`: A configuration that is accepted and should not be.

## Theorems

* `namesAllowed_derive`, `namesAllowed_mergeOf`: Derivation and merging keep names
  allowed.
* `isIdentifier_derive_unique`: What the groups of a derived table list.
* `statements_safe_iff`: When the statements of an accepted configuration are
  safe.
* `injecting_accepted`: A group that ends a statement is accepted.
-/

namespace EventTables

/-! ### Names of tables -/

theorem isDeclarable_requiredColumns (ig : Integration) :
    ∀ c ∈ ig.requiredColumns, c.IsDeclarable := by
  unfold Integration.requiredColumns
  cases ig.event.selected.isEmpty <;> cases ig.event.selectsUnindexed <;> decide

-- Derivation adds columns of its own names only.
theorem namesAllowed_derive (ig : Integration) (hig : ig.NamesAllowed) :
    ig.derive.table.NamesAllowed := by
  constructor
  · rw [Integration.derive_table_name]
    exact hig.2.1
  · intro c hc
    rw [Integration.derive_columns, List.mem_append] at hc
    rcases hc with hc | hc
    · exact hig.2.2 c hc
    · exact isDeclarable_requiredColumns ig c (List.mem_filter.mp hc).1

-- A merged table has its name and its columns from declarations.
theorem namesAllowed_mergeOf (declared : List Table) (merged : Table)
    (hmerge : MergeOf declared merged) (hdecl : ∀ t ∈ declared, t.NamesAllowed) :
    merged.NamesAllowed := by
  constructor
  · rcases hmerge.top with ⟨t, ht, hname, _⟩
    rw [hname]
    exact (hdecl t ht).1
  · intro c hc
    rcases hmerge.columns c hc with ⟨t, ht, hmem⟩
    exact (hdecl t ht).2 c hmem

-- The groups of a derived table list the members of declared groups, or names
-- that derivation picks from its own list.
theorem isIdentifier_derive_unique (ig : Integration)
    (hgroups : ∀ group ∈ ig.table.unique, ∀ name ∈ group, IsIdentifier name) :
    ∀ group ∈ ig.derive.table.unique, ∀ name ∈ group, IsIdentifier name := by
  have hcandidates : ∀ name ∈ Table.uniqueCandidates, IsIdentifier name := by decide
  refine (ig.forall_mem_derive_unique_iff IsIdentifier fun name hname => ?_).mpr hgroups
  exact hcandidates name ((Table.mem_inferredGroup _ name).mp hname).1

namespace Config

/-- All statements that a configuration leads to: those of the plan, and those
    with which each integration's own table is migrated. -/
def statements (c : Config) : List Statement :=
  c.plan ++ c.integrations.flatMap fun ig => ig.table.statements

/-- Every member of a declared unique group can name something. -/
def GroupsNamed (c : Config) : Prop :=
  ∀ ig ∈ c.integrations, ∀ group ∈ ig.table.unique, ∀ name ∈ group, IsIdentifier name

-- A statement of a configuration is from a declared table or from one that
-- declared tables are merged to.
theorem mem_statements (c : Config) (s : Statement) :
    s ∈ c.statements ↔ (∃ name merged, (name, merged) ∈ c.mergedTables ∧ s ∈ merged.statements) ∨
      ∃ ig ∈ c.integrations, s ∈ ig.table.statements := by
  simp only [statements, plan, List.mem_append, List.mem_flatMap, Prod.exists]

/-- Every statement of an accepted configuration is from a table whose name and
    columns can be put into statements, and whose groups are those of some
    integration. For a merged table that is its last declaration. -/
theorem table_of_mem_statements (c : Config) (h : c.validate.2 = .ok ()) (s : Statement)
    (hs : s ∈ c.validate.1.statements) :
    ∃ t : Table, t.NamesAllowed ∧ s ∈ t.statements ∧
      ∃ ig ∈ c.validate.1.integrations, t.unique = ig.table.unique := by
  have hown : ∀ ig ∈ c.validate.1.integrations, ig.table.NamesAllowed := by
    intro ig hig
    rcases mem_validate_fst c h ig hig with ⟨declared, _, rfl, hnames, _⟩
    exact namesAllowed_derive declared hnames
  -- Either the plan has the statement from a merged table, or an integration has it
  -- from its own.
  rcases (mem_statements _ s).mp hs with ⟨name, merged, hmem, hs⟩ | ⟨ig, hig, hs⟩
  · have hmerge := (mergeOf_mem _ name merged hmem).2
    have hfrom : ∀ t ∈ c.validate.1.declaredTables.filter (·.name == name),
        ∃ ig ∈ c.validate.1.integrations, ig.table = t :=
      fun t ht => List.mem_map.mp (List.mem_filter.mp ht).1
    refine ⟨merged, namesAllowed_mergeOf _ merged hmerge fun t ht => ?_, hs, ?_⟩
    · rcases hfrom t ht with ⟨ig, hig, rfl⟩
      exact hown ig hig
    · rcases hmerge.top with ⟨t, ht, _, hunique, _⟩
      rcases hfrom t ht with ⟨ig, hig, rfl⟩
      exact ⟨ig, hig, hunique⟩
  · exact ⟨ig.table, hown ig hig, hs, ig, hig, rfl⟩

/-- The texts that an accepted configuration sends are those of its statements,
    and a statement is safe exactly if the columns of its index are identifiers,
    so that creating tables and adding columns always is. All statements are safe
    exactly if the members of all declared unique groups are identifiers, and the
    text of a safe statement has no character that ends a statement, opens a
    quotation, begins a comment or breaks the line. -/
theorem statements_safe_iff (c : Config) (h : c.validate.2 = .ok ()) :
    (c.validate.1.ddl ++ c.validate.1.integrations.flatMap fun ig => ig.table.ddl) =
        c.validate.1.statements.map Statement.text ∧
      (∀ s ∈ c.validate.1.statements,
        (s.IsSafe ↔ ∀ name ∈ s.indexColumns, IsIdentifier name)) ∧
      ((∀ s ∈ c.validate.1.statements, s.IsSafe) ↔ c.GroupsNamed) ∧
      ∀ s ∈ c.validate.1.statements, s.IsSafe →
        ∀ ch ∈ harmfulCharacters, ch ∉ s.text.toList := by
  have hsafe : ∀ s ∈ c.validate.1.statements,
      (s.IsSafe ↔ ∀ name ∈ s.indexColumns, IsIdentifier name) := by
    intro s hs
    rcases table_of_mem_statements c h s hs with ⟨t, ht, hmem, _⟩
    exact Table.isSafe_iff_indexColumns t ht s hmem
  refine ⟨?_, hsafe, ⟨fun hall => ?_, fun hc s hs => ?_⟩, fun s _ => s.not_mem_text_of_isSafe⟩
  · simp only [statements, ddl, Table.ddl, List.map_append, List.map_flatMap]
  · -- A declared group is kept by derivation, and some statement lists it.
    intro declared hdecl group hgroup name hname
    have hmem : declared.derive ∈ c.validate.1.integrations := by
      rw [validate_fst c h]
      exact List.mem_map_of_mem hdecl
    have hkept : group ∈ declared.derive.table.unique := by
      rw [Integration.derive_unique, if_neg (List.ne_nil_of_mem hgroup)]
      exact hgroup
    rcases Table.mem_indexColumns_of_mem_unique _ group hkept name hname with ⟨s, hs, hcolumn⟩
    have hs := (mem_statements c.validate.1 s).mpr (Or.inr ⟨declared.derive, hmem, hs⟩)
    exact (hsafe s hs).mp (hall s hs) name hcolumn
  · -- Whatever table a statement is from, its groups are those of an integration.
    rcases table_of_mem_statements c h s hs with ⟨t, ht, hmem, ig, hig, hunique⟩
    rcases mem_validate_fst c h ig hig with ⟨declared, hdecl, rfl, _⟩
    refine (Table.isSafe_statements_iff t ht).mpr ?_ s hmem
    rw [hunique]
    exact isIdentifier_derive_unique declared (hc declared hdecl)

/-- The statements of two integrations that share a table and their groups. -/
theorem statements_safe_sharing :
    sharing.validate.2 = .ok () ∧ sharing.GroupsNamed ∧
      ∀ s ∈ sharing.validate.1.statements, s.IsSafe := by
  have hgroups : sharing.GroupsNamed := by
    unfold GroupsNamed
    decide
  exact ⟨rfl, hgroups, (statements_safe_iff sharing rfl).2.2.1.mpr hgroups⟩

/-- An integration whose unique group ends the index statement and begins another
    one. -/
def injecting : Config :=
  { empty with
    integrations := [.withTable "a" ⟨"t", [⟨"x", "int"⟩], [["x); drop table t"]]⟩] }

/-- The group passes validation and reaches the plan. -/
theorem injecting_accepted :
    injecting.validate.2 = .ok () ∧
      ∃ s ∈ injecting.validate.1.plan, ¬ s.IsSafe ∧ ';' ∈ s.text.toList ∧
        s.text = "create unique index if not exists u_t on t (x); drop table t)" := by
  refine ⟨rfl, .createIndex "u_t" "t" ["x); drop table t"], ?_, ?_, ?_, rfl⟩
  · decide +kernel
  · rintro ⟨_, _, hnames⟩
    exact absurd (hnames _ (List.mem_singleton_self _)) (by decide)
  · decide +kernel

end Config

end EventTables
