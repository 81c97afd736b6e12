import EventTables.Proofs.Schema.Merge

/-!
# Merged Tables in Closed Form

Which columns a merged table has, in which order and of which types.

The merge goes through the declarations from the first to the last and each time
puts the new one in front, so the table it ends with is read in the other
direction: the last declaration as it stands, and behind it, going back one
declaration after the other, every column whose name has not come up yet. That is
a single scan, `unseen`, and it knows nothing of unions. Each union along the way
is such a scan over columns that were scanned before. What makes them collapse
into one is that a scan may be repeated for more names without being started
over (`unseen_unseen`).

Names may be repeated, also within one declaration, and nothing here asks for a
configuration that was validated.

## Main definitions

* `unseen`: The columns of a list whose names have not come up yet.
* `LaidOver`: What a merged table is, told of its declarations.
* `Config.declarationsOf`: The declarations of one table.

## Theorems

* `columns_union`: A union as a scan.
* `laidOver_layered`: The declarations of one table as a scan.
* `mergedTables_closed_form`: The tables of a configuration.
-/

namespace EventTables

/-- The columns whose names have not come up yet, neither among those given nor
    earlier in the list. -/
def unseen (seen : List String) : List Column → List Column
  | [] => []
  | c :: cs => if c.name ∈ seen then unseen seen cs else c :: unseen (c.name :: seen) cs

-- The order and the repetitions of the names that have come up play no part.
theorem unseen_congr (seen seen' : List String) (h : ∀ name, name ∈ seen ↔ name ∈ seen')
    (cs : List Column) : unseen seen cs = unseen seen' cs := by
  induction cs generalizing seen seen' with
  | nil => rfl
  | cons c cs ih =>
      have hnext : ∀ name, name ∈ c.name :: seen ↔ name ∈ c.name :: seen' := by
        intro name
        rw [List.mem_cons, List.mem_cons, h name]
      simp only [unseen, h c.name, ih seen seen' h, ih _ _ hnext]

theorem unseen_append (seen : List String) (first second : List Column) :
    unseen seen (first ++ second) =
      unseen seen first ++ unseen (seen ++ first.map (·.name)) second := by
  induction first generalizing seen with
  | nil => rw [List.nil_append, List.map_nil, List.append_nil, unseen, List.nil_append]
  | cons c cs ih =>
      rw [List.cons_append, unseen, unseen, List.map_cons]
      by_cases h : c.name ∈ seen
      · -- Its name is known already, so it may as well be left out of the names.
        have hsame : ∀ name, name ∈ seen ++ c.name :: cs.map (·.name) ↔
            name ∈ seen ++ cs.map (·.name) := by
          intro name
          simp only [List.mem_append, List.mem_cons]
          constructor
          · rintro (hseen | heq | hcs)
            · exact Or.inl hseen
            · exact Or.inl (heq ▸ h)
            · exact Or.inr hcs
          · exact Or.imp_right Or.inr
        rw [if_pos h, if_pos h, ih, unseen_congr _ _ hsame]
      · have hsame : ∀ name, name ∈ c.name :: seen ++ cs.map (·.name) ↔
            name ∈ seen ++ c.name :: cs.map (·.name) := by
          intro name
          simp only [List.cons_append, List.mem_append, List.mem_cons, or_left_comm]
        rw [if_neg h, if_neg h, ih, unseen_congr _ _ hsame, List.cons_append]

-- A scan that knows more names need not be started over.
theorem unseen_unseen (seen known : List String) (h : ∀ name ∈ known, name ∈ seen)
    (cs : List Column) : unseen seen (unseen known cs) = unseen seen cs := by
  induction cs generalizing seen known with
  | nil => rfl
  | cons c cs ih =>
      rw [unseen, unseen]
      by_cases hknown : c.name ∈ known
      · rw [if_pos hknown, if_pos (h c.name hknown), ih seen known h]
      · rw [if_neg hknown, unseen]
        by_cases hseen : c.name ∈ seen
        · have hmore : ∀ name ∈ c.name :: known, name ∈ seen :=
            List.forall_mem_cons.mpr ⟨hseen, h⟩
          rw [if_pos hseen, if_pos hseen, ih seen _ hmore]
        · have hmore : ∀ name ∈ c.name :: known, name ∈ c.name :: seen :=
            List.forall_mem_cons.mpr ⟨List.mem_cons_self, fun name hname =>
              List.mem_cons_of_mem _ (h name hname)⟩
          rw [if_neg hseen, if_neg hseen, ih _ _ hmore]

-- A scan leaves out only columns that an earlier one of their name hides.
theorem find?_unseen (before cs : List Column) (name : String) :
    (before ++ unseen (before.map (·.name)) cs).find? (·.name == name) =
      (before ++ cs).find? (·.name == name) := by
  induction cs generalizing before with
  | nil => rfl
  | cons c cs ih =>
      rw [unseen]
      by_cases h : c.name ∈ before.map (·.name)
      · rw [if_pos h, ih before, List.find?_append, List.find?_append, List.find?_cons]
        by_cases hname : c.name = name
        · -- The name is there before, so what comes later does not count.
          rcases List.mem_map.mp h with ⟨d, hd, hdname⟩
          have hsome : (before.find? (·.name == name)).isSome = true :=
            List.find?_isSome.mpr ⟨d, hd, beq_iff_eq.mpr (hdname.trans hname)⟩
          rw [Option.or_of_isSome hsome, Option.or_of_isSome hsome]
        · rw [beq_eq_false_iff_ne.mpr hname]
      · have hnext := ih (before ++ [c])
        have hsame : ∀ n, n ∈ (before ++ [c]).map (·.name) ↔
            n ∈ c.name :: before.map (·.name) := by
          intro n
          rw [List.map_append, List.map_singleton, List.mem_append, List.mem_singleton,
            List.mem_cons, or_comm]
        rw [unseen_congr _ _ hsame, List.append_assoc, List.append_assoc] at hnext
        rw [if_neg h]
        exact hnext

/-! ### Unions -/

namespace Table

theorem columns_absorb (t : Table) (c : Column) :
    (t.absorb c).columns = t.columns ++ unseen t.columnNames [c] := by
  rw [absorb, unseen, unseen]
  by_cases h : c.name ∈ t.columnNames
  · rw [if_pos ((hasColumn_iff t c.name).mpr h), if_pos h, List.append_nil]
  · rw [if_neg fun hhas => h ((hasColumn_iff t c.name).mp hhas), if_neg h, unseen]
    rfl

/-- A union is the first table as it stands, and then a scan of the second. -/
theorem columns_union (a b : Table) :
    (a.union b).columns = a.columns ++ unseen a.columnNames b.columns := by
  unfold union
  induction b.columns generalizing a with
  | nil => exact (List.append_nil _).symm
  | cons c cs ih =>
      have hnames : ∀ name, name ∈ (a.absorb c).columnNames ↔
          name ∈ a.columnNames ++ [c].map (·.name) := by
        intro name
        rw [mem_columnNames_absorb, List.mem_append, List.map_singleton, List.mem_singleton]
      rw [List.foldl_cons, ih, columns_absorb, unseen_congr _ _ hnames, List.append_assoc,
        ← unseen_append, List.singleton_append]

end Table

/-! ### Declarations of one table -/

/-- What a merged table is, told of its declarations. It is the last one with more
    columns, those of the earlier declarations from the latest back to the first
    whose names have not come up yet. So the first column of a name that the last
    declaration with that name has is the one that counts, and no name is lost. -/
structure LaidOver (earlier : List Table) (last merged : Table) : Prop where
  name : merged.name = last.name
  unique : merged.unique = last.unique
  columns : merged.columns =
    last.columns ++ unseen last.columnNames (earlier.reverse.flatMap (·.columns))
  types : ∀ column,
    merged.column? column = (last :: earlier.reverse).findSome? (·.column? column)
  names : ∀ t ∈ earlier ++ [last], ∀ column ∈ t.columnNames, column ∈ merged.columnNames

-- The scan says which columns there are, and with them the types.
theorem column?_of_columns (earlier : List Table) (last merged : Table)
    (h : merged.columns =
      last.columns ++ unseen last.columnNames (earlier.reverse.flatMap (·.columns)))
    (column : String) :
    merged.column? column = (last :: earlier.reverse).findSome? (·.column? column) := by
  have hscan := find?_unseen last.columns (earlier.reverse.flatMap (·.columns)) column
  rw [Table.column?, h]
  refine hscan.trans ?_
  rw [← List.flatMap_cons, List.find?_flatMap]
  rfl

theorem columns_layered (earlier : List Table) (last : Table) :
    ∃ merged, layered (earlier ++ [last]) = some merged ∧ merged.columns =
      last.columns ++ unseen last.columnNames (earlier.reverse.flatMap (·.columns)) := by
  -- The last of the earlier declarations is on top of the others, so the induction
  -- takes it off the end.
  induction earlier using List.reverseRec generalizing last with
  | nil =>
      refine ⟨last, rfl, ?_⟩
      rw [List.reverse_nil, List.flatMap_nil, unseen, List.append_nil]
  | append_singleton init t ih =>
      rcases ih t with ⟨merged, hlayered, hcolumns⟩
      rw [layered_concat, hlayered]
      refine ⟨last.union merged, rfl, ?_⟩
      -- What was scanned for the table below is scanned again, for more names.
      have hmore : ∀ name ∈ t.columnNames, name ∈ last.columnNames ++ t.columns.map (·.name) :=
        fun name hname => List.mem_append_right _ hname
      rw [Table.columns_union, hcolumns, unseen_append, unseen_unseen _ _ hmore, ← unseen_append,
        List.reverse_append, List.reverse_singleton, List.singleton_append, List.flatMap_cons]

/-- The declarations of one table lead to the table that a scan of them gives. -/
theorem laidOver_layered (earlier : List Table) (last : Table) :
    ∃ merged, layered (earlier ++ [last]) = some merged ∧ LaidOver earlier last merged := by
  have htop : ∃ merged, layered (earlier ++ [last]) = some merged ∧
      merged.name = last.name ∧ merged.unique = last.unique := by
    rw [layered_concat]
    refine ⟨_, rfl, ?_⟩
    cases layered earlier with
    | none => exact ⟨rfl, rfl⟩
    | some below => exact ⟨Table.union_name last below, Table.union_unique last below⟩
  rcases columns_layered earlier last with ⟨merged, hlayered, hcolumns⟩
  rcases mergeOf_layered (earlier ++ [last]) (List.concat_ne_nil last earlier) with
    ⟨merged₁, hlayered₁, hmerge⟩
  rcases htop with ⟨merged₂, hlayered₂, hname, hunique⟩
  -- All three speak of the one table that the declarations lead to.
  rw [hlayered, Option.some.injEq] at hlayered₁ hlayered₂
  subst hlayered₁ hlayered₂
  exact ⟨merged, hlayered, hname, hunique, hcolumns,
    column?_of_columns earlier last merged hcolumns,
    fun t ht column hcolumn => (hmerge.names column).mpr ⟨t, ht, hcolumn⟩⟩

namespace Config

/-- The declarations of one table, in their order. -/
def declarationsOf (c : Config) (name : String) : List Table :=
  c.declaredTables.filter (·.name == name)

theorem mem_keys_mergedTables (c : Config) (name : String) :
    name ∈ c.mergedTables.map (·.1) ↔ ∃ ig ∈ c.integrations, ig.table.name = name := by
  constructor
  · intro h
    rcases List.mem_map.mp h with ⟨⟨key, merged⟩, hmem, rfl⟩
    rcases (mergeOf_mem c.declaredTables key merged hmem).2.top with ⟨t, ht, _⟩
    rcases (mem_declarations c.declaredTables key t).mp ht with ⟨hdecl, hname⟩
    rcases List.mem_map.mp hdecl with ⟨ig, hig, rfl⟩
    exact ⟨ig, hig, hname⟩
  · rintro ⟨ig, hig, rfl⟩
    rcases mem_mergeTables c.declaredTables ig.table (List.mem_map_of_mem hig) with
      ⟨merged, _, hmem⟩
    exact List.mem_map.mpr ⟨_, hmem, rfl⟩

-- The table under a name is made of the declarations of that name, so these are
-- all that two configurations need to have in common.
theorem mergedTables_congr (c d : Config)
    (h : ∀ name, d.declarationsOf name = c.declarationsOf name) :
    d.mergedTables = c.mergedTables := by
  refine Keyed.eq_of_find?_eq _ _ (ascending_mergeTables _) (ascending_mergeTables _) fun name => ?_
  have hname := congrArg layered (h name)
  rwa [declarationsOf, declarationsOf, ← find?_mergeTables, ← find?_mergeTables] at hname

theorem ddl_eq_flatMap (c : Config) : c.ddl = c.mergedTables.flatMap fun entry => entry.2.ddl := by
  rw [ddl, plan, List.map_flatMap]
  rfl

/-- The tables of any configuration. There is one for each declared name, and they
    are in the order of their names. Each is a scan of the declarations of its
    name, and the plan is made of their statements. Two configurations that
    declare each single table alike have the same plan, however they mix the
    declarations of different tables. -/
theorem mergedTables_closed_form (c : Config) :
    (∀ name, name ∈ c.mergedTables.map (·.1) ↔ ∃ ig ∈ c.integrations, ig.table.name = name) ∧
    (c.mergedTables.map (·.1)).Pairwise (· < ·) ∧
    (∀ name earlier last, c.declarationsOf name = earlier ++ [last] →
      ∃ merged, (name, merged) ∈ c.mergedTables ∧ merged.name = name ∧
        LaidOver earlier last merged) ∧
    c.ddl = (c.mergedTables.flatMap fun entry => entry.2.ddl) ∧
    ∀ d : Config, (∀ name, d.declarationsOf name = c.declarationsOf name) →
      d.mergedTables = c.mergedTables ∧ d.ddl = c.ddl := by
  have hascending := ascending_mergeTables c.declaredTables
  refine ⟨mem_keys_mergedTables c, ?_, ?_, ddl_eq_flatMap c, fun d h => ?_⟩
  · exact List.pairwise_map.mpr (hascending.imp fun hlt => compareOfLessAndEq_eq_lt.mp hlt)
  · intro name earlier last hdecl
    rcases laidOver_layered earlier last with ⟨merged, hlayered, hover⟩
    rw [← hdecl, declarationsOf, ← find?_mergeTables] at hlayered
    have hmem := (Keyed.mem_iff_find? name merged _ hascending).mpr hlayered
    exact ⟨merged, hmem, (mergeOf_mem c.declaredTables name merged hmem).1, hover⟩
  · have htables := mergedTables_congr c d h
    exact ⟨htables, by rw [ddl_eq_flatMap, ddl_eq_flatMap, htables]⟩

/-- The first of two declarations of a table. -/
def earlierPrices : Table := ⟨"prices", [⟨"bid", "numeric"⟩, ⟨"note", "text"⟩], [["bid"]]⟩

/-- The second one, which repeats a name of its own and one of the first. -/
def laterPrices : Table := ⟨"prices", [⟨"note", "bytea"⟩, ⟨"note", "int"⟩], [["note"]]⟩

/-- A declaration of another table. -/
def approvals : Table := ⟨"approvals", [⟨"owner", "bytea"⟩], []⟩

/-- The configuration of three tables as they are declared. -/
def ofTables (first second third : Table) : Config :=
  { Config.empty with
    integrations := [Integration.withTable "a" first, Integration.withTable "b" second,
      Integration.withTable "c" third] }

/-- Two declarations of one table, with another table between them or before
    them. -/
theorem mergedTables_closed_form_interleaved :
    (ofTables earlierPrices approvals laterPrices).declarationsOf "prices" =
        [earlierPrices] ++ [laterPrices] ∧
      (∃ merged, ("prices", merged) ∈ (ofTables earlierPrices approvals laterPrices).mergedTables ∧
        merged = ⟨"prices", [⟨"note", "bytea"⟩, ⟨"note", "int"⟩, ⟨"bid", "numeric"⟩],
          [["note"]]⟩) ∧
      (ofTables approvals earlierPrices laterPrices).ddl =
        (ofTables earlierPrices approvals laterPrices).ddl := by
  rcases mergedTables_closed_form (ofTables earlierPrices approvals laterPrices) with
    ⟨_, _, hmerged, _, hmixed⟩
  have hdecl : (ofTables earlierPrices approvals laterPrices).declarationsOf "prices" =
      [earlierPrices] ++ [laterPrices] := by decide
  rcases hmerged "prices" [earlierPrices] laterPrices hdecl with ⟨merged, hmem, _, hover⟩
  refine ⟨hdecl, ⟨merged, hmem, ?_⟩, (hmixed _ fun name => ?_).2⟩
  · rw [show merged = ⟨merged.name, merged.columns, merged.unique⟩ from rfl, hover.name,
      hover.columns, hover.unique]
    decide
  · -- The two tables have different names, so no list of declarations has both.
    by_cases h : approvals.name = name
    · subst h
      decide
    · have hnot : ¬ (approvals.name == name) = true := fun heq => h (beq_iff_eq.mp heq)
      simp only [declarationsOf, declaredTables, ofTables, Integration.withTable, List.map_cons,
        List.map_nil, List.filter_cons, if_neg hnot]

end Config

end EventTables
