import EventTables.Proofs.Store.Effective
import EventTables.Validation

/-!
# Integrations by Source

Which integrations are listed under which source.

Grouping goes through the effective integrations in the order of their names, and
through the sources of each, and every source puts its integration at the end of one
group. A group is therefore a list that only grows at its end, and what it grows by
does not depend on what is in it or in the others. `find?_groupBySource` takes the two
loops apart by that argument: the group of a source is one pass over the integrations,
each taken as often as it lists the source. There is no group where that pass gives
nothing.

The integrations that the pass goes through are those that count. A declared
integration that another one of its name is declared behind does not, so it is listed
nowhere, whatever validation made of the two: validation looks at each integration for
itself and never at the names of two.

## Main definitions

* `Integration.Reads`: An integration lists a source of that name.
* `readersOf`: The integrations that read a source, in order.
* `IsGrouping`: What groups of integrations have from the integrations that count.

## Theorems

* `find?_groupBySource`: A group is a pass over the integrations.
* `Config.integrationsBySource_isGrouping`: The effective integrations by source.
* `Config.listed_iff_no_later`: Which declared integrations are listed.
* `Config.not_all_declared_listed`: Not all of them are.
-/

namespace EventTables

/-- The integration lists a source of that name. -/
def Integration.Reads (ig : Integration) (source : String) : Prop :=
  ∃ s ∈ ig.sources, s.name = source

/-- The integrations that read the source of a name, in their order, each as often as
    it lists one of that name. -/
def readersOf (source : String) (igs : List Integration) : List Integration :=
  igs.flatMap fun ig => (ig.sources.filter (·.name == source)).map fun _ => ig

theorem mem_readersOf (source : String) (igs : List Integration) (r : Integration) :
    r ∈ readersOf source igs ↔ r ∈ igs ∧ r.Reads source := by
  simp only [readersOf, List.mem_flatMap, List.mem_map, List.mem_filter, beq_iff_eq]
  constructor
  · rintro ⟨ig, hig, s, hs, rfl⟩
    exact ⟨hig, s, hs⟩
  · rintro ⟨hr, s, hs⟩
    exact ⟨r, hr, s, hs, rfl⟩

-- Only copies of one integration stand next to each other in a group without being
-- in the order of the list.
theorem pairwise_readersOf (source : String) (igs : List Integration)
    (h : igs.Pairwise fun a b => a.name < b.name) :
    (readersOf source igs).Pairwise fun a b => a.name ≤ b.name := by
  refine List.pairwise_flatMap.mpr ⟨fun ig _ => ?_, h.imp fun hlt a ha b hb => ?_⟩
  · exact List.pairwise_map.mpr (List.pairwise_of_forall fun _ _ => String.le_refl _)
  · rcases List.mem_map.mp ha with ⟨_, _, rfl⟩
    rcases List.mem_map.mp hb with ⟨_, _, rfl⟩
    exact String.not_lt.mp (String.lt_asymm hlt)

/-! ### Groups -/

/-- The group with more integrations at its end. There is none before it gets one. -/
def extended (group : Option (List Integration)) : List Integration → Option (List Integration)
  | [] => group
  | more => some (group.getD [] ++ more)

theorem extended_extended (group : Option (List Integration)) (first second : List Integration) :
    extended (extended group first) second = extended group (first ++ second) := by
  cases first with
  | nil => rfl
  | cons a as =>
      cases second with
      | nil => rw [List.append_nil]; rfl
      | cons b bs => exact congrArg some (List.append_assoc _ _ _)

theorem extended_none_eq_some_iff (more group : List Integration) :
    extended none more = some group ↔ more ≠ [] ∧ group = more := by
  cases more with
  | nil => exact ⟨fun h => (nomatch h), fun h => absurd rfl h.1⟩
  | cons a as =>
      exact ⟨fun h => ⟨List.cons_ne_nil a as, (Option.some.inj h).symm⟩,
        fun h => congrArg some h.2.symm⟩

-- One step: only the group of the source grows.
theorem find?_appendTo (groups : Keyed String (List Integration)) (key source : String)
    (ig : Integration) :
    (appendTo groups key ig).find? source =
      extended (groups.find? source) (if key == source then [ig] else []) := by
  rw [appendTo, Keyed.find?_put]
  by_cases h : key = source
  · rw [if_pos (Std.compare_eq_iff_eq.mpr h.symm), if_pos (beq_iff_eq.mpr h), h]
    rfl
  · rw [if_neg fun heq => h (Std.compare_eq_iff_eq.mp heq).symm,
      if_neg fun heq => h (beq_iff_eq.mp heq)]
    rfl

-- The sources of one integration.
theorem find?_foldl_appendTo (ig : Integration) (sources : List Source)
    (groups : Keyed String (List Integration)) (source : String) :
    (sources.foldl (fun groups s => appendTo groups s.name ig) groups).find? source =
      extended (groups.find? source) ((sources.filter (·.name == source)).map fun _ => ig) := by
  induction sources generalizing groups with
  | nil => rfl
  | cons s rest ih =>
      rw [List.foldl_cons, ih, find?_appendTo, extended_extended, List.filter_cons]
      cases s.name == source <;> rfl

theorem find?_foldl_group (igs : List Integration) (groups : Keyed String (List Integration))
    (source : String) :
    (igs.foldl (fun groups ig =>
        ig.sources.foldl (fun groups s => appendTo groups s.name ig) groups) groups).find? source =
      extended (groups.find? source) (readersOf source igs) := by
  induction igs generalizing groups with
  | nil => rfl
  | cons ig rest ih =>
      rw [List.foldl_cons, ih, find?_foldl_appendTo, extended_extended]
      rfl

/-- The group of a source is one pass over the integrations. -/
theorem find?_groupBySource (igs : List Integration) (source : String) :
    (groupBySource igs).find? source = extended none (readersOf source igs) :=
  find?_foldl_group igs [] source

theorem ascending_foldl_appendTo (ig : Integration) (sources : List Source)
    (groups : Keyed String (List Integration)) (h : groups.Ascending) :
    (sources.foldl (fun groups s => appendTo groups s.name ig) groups).Ascending := by
  induction sources generalizing groups with
  | nil => exact h
  | cons s rest ih => exact ih _ (Keyed.ascending_put _ _ _ h)

theorem ascending_groupBySource (igs : List Integration) : (groupBySource igs).Ascending := by
  -- The groups made so far are any that are in order.
  have hfrom : ∀ groups : Keyed String (List Integration), groups.Ascending →
      Keyed.Ascending (igs.foldl (fun groups ig =>
        ig.sources.foldl (fun groups s => appendTo groups s.name ig) groups) groups) := by
    induction igs with
    | nil => exact fun groups h => h
    | cons ig rest ih =>
        exact fun groups h => ih _ (ascending_foldl_appendTo ig ig.sources groups h)
  exact hfrom [] Keyed.ascending_nil

theorem mem_groupBySource_iff (igs : List Integration) (source : String)
    (group : List Integration) :
    (source, group) ∈ groupBySource igs ↔
      readersOf source igs ≠ [] ∧ group = readersOf source igs := by
  rw [Keyed.mem_iff_find? _ _ _ (ascending_groupBySource igs), find?_groupBySource,
    extended_none_eq_some_iff]

/-! ### Groups of what counts -/

/-- What groups of integrations have from the integrations that count: a source has a
    group exactly if one of them reads it, the group holds exactly those that do, and
    it is in the order of names. -/
structure IsGrouping (Counts : Integration → Prop) (groups : Keyed String (List Integration)) :
    Prop where
  ascending : groups.Ascending
  sources : ∀ source, source ∈ groups.map (·.1) ↔ ∃ r, Counts r ∧ r.Reads source
  members : ∀ source group, (source, group) ∈ groups →
    ∀ r, r ∈ group ↔ Counts r ∧ r.Reads source
  ordered : ∀ source group, (source, group) ∈ groups →
    group.Pairwise fun a b => a.name ≤ b.name

theorem isGrouping_groupBySource (igs : List Integration)
    (hnames : igs.Pairwise fun a b => a.name < b.name) :
    IsGrouping (· ∈ igs) (groupBySource igs) where
  ascending := ascending_groupBySource igs
  sources source := by
    simp only [← mem_readersOf]
    constructor
    · intro h
      rcases List.mem_map.mp h with ⟨⟨_, group⟩, hgroup, rfl⟩
      exact List.exists_mem_of_ne_nil _ ((mem_groupBySource_iff igs _ group).mp hgroup).1
    · rintro ⟨r, hr⟩
      exact List.mem_map.mpr ⟨(source, readersOf source igs),
        (mem_groupBySource_iff igs source _).mpr ⟨List.ne_nil_of_mem hr, rfl⟩, rfl⟩
  members source group hgroup r := by
    rw [((mem_groupBySource_iff igs source group).mp hgroup).2, mem_readersOf]
  ordered source group hgroup := by
    rw [((mem_groupBySource_iff igs source group).mp hgroup).2]
    exact pairwise_readersOf source igs hnames

theorem IsGrouping.congr {P Q : Integration → Prop} {groups : Keyed String (List Integration)}
    (h : IsGrouping P groups) (hiff : ∀ r, P r ↔ Q r) : IsGrouping Q groups where
  ascending := h.ascending
  sources source := by simp only [h.sources source, hiff]
  members source group hgroup r := by rw [h.members source group hgroup r, hiff]
  ordered := h.ordered

namespace Config

/-- The integration counts over those that are stored. -/
def Counts (c : Config) (stored : List Integration) (r : Integration) : Prop :=
  effective? (·.name) c.integrations stored r.name = some r

/-- The groups that a configuration makes over integrations that are stored. -/
def groupsOver (c : Config) (stored : List Integration) : Keyed String (List Integration) :=
  groupBySource ((effectiveIntegrations c.integrations stored).map (·.2))

theorem isGrouping_groupsOver (c : Config) (stored : List Integration) :
    IsGrouping (c.Counts stored) (c.groupsOver stored) := by
  have hnames := pairwise_effectiveRecords (·.name) c.integrations stored
  exact (isGrouping_groupBySource _ (hnames.imp compareOfLessAndEq_eq_lt.mp)).congr
    (mem_effectiveRecords_iff _ _ _)

theorem integrationsBySource_eq_ok (c : Config) (store : Store) (stored : List Integration)
    (h : store.integrations = .ok stored) :
    c.integrationsBySource store = .ok (c.groupsOver stored) := by
  rw [integrationsBySource, h]
  rfl

/-- The effective integrations by source. If the store cannot be read, its error is the
    result. Otherwise the groups are made of the integrations that count: of each
    name the last one that is declared, as it is declared, or else the last one that
    is stored. -/
theorem integrationsBySource_isGrouping (c : Config) (store : Store) :
    (∀ e, store.integrations = .error e → c.integrationsBySource store = .error e) ∧
    ∀ stored, store.integrations = .ok stored →
      ∃ groups, c.integrationsBySource store = .ok groups ∧
        IsGrouping (c.Counts stored) groups := by
  refine ⟨fun e he => ?_, fun stored hstored => ?_⟩
  · rw [integrationsBySource, he]
    rfl
  · exact ⟨c.groupsOver stored, c.integrationsBySource_eq_ok store stored hstored,
      c.isGrouping_groupsOver stored⟩

/-- An integration of transfers that writes to one column. -/
def transfers (column : String) : Integration :=
  { Integration.withTable "transfers" ⟨"transfers", [⟨column, "numeric"⟩], []⟩ with
    sources := [Source.named "mainnet" 1 ⟨""⟩] }

/-- Two integrations that are declared under one name. -/
def doubled : Config :=
  { Config.empty with integrations := [transfers "amount", transfers "fee"] }

/-- The two integrations over one that is stored under their name and one that is
    stored under a name of its own, and over a store that cannot be read. -/
theorem integrationsBySource_isGrouping_doubled :
    doubled.integrationsBySource (.failing "querying integrations" "down") =
        .error (.storage "querying integrations" "down") ∧
      ∃ groups, doubled.integrationsBySource
          ⟨.ok [], .ok [transfers "old", { transfers "gas" with name := "blocks" }]⟩ = .ok groups ∧
        IsGrouping (doubled.Counts [transfers "old", { transfers "gas" with name := "blocks" }])
          groups ∧
        groups = [("mainnet", [{ transfers "gas" with name := "blocks" }, transfers "fee"])] := by
  have hfails := (integrationsBySource_isGrouping doubled
    (.failing "querying integrations" "down")).1 _ rfl
  rcases (integrationsBySource_isGrouping doubled ⟨.ok [], .ok
    [transfers "old", { transfers "gas" with name := "blocks" }]⟩).2 _ rfl with
    ⟨groups, hgroups, hgrouping⟩
  exact ⟨hfails, groups, hgroups, hgrouping, (Except.ok.inj hgroups).symm⟩

/-! ### Declared integrations -/

-- A declared integration counts if it is the last one declared under its name,
-- whatever is stored.
theorem counts_of_declared_iff (c : Config) (stored : List Integration) (ig : Integration)
    (hig : ig ∈ c.integrations) :
    c.Counts stored ig ↔ ∃ before after, c.integrations = before ++ ig :: after ∧
      ∀ later ∈ after, later.name ≠ ig.name := by
  rcases hlatest : latest? (·.name) c.integrations ig.name with _ | last
  · exact absurd (List.mem_map_of_mem hig) ((latest?_eq_none_iff _ _ _).mp hlatest)
  · rw [Counts, effective?, hlatest, Option.some_or, ← hlatest, latest?_eq_some_iff]
    exact ⟨fun h => h.2, fun h => ⟨rfl, h⟩⟩

/-- An integration that validation leaves is listed under each of its sources exactly
    if no other one of its name is declared behind it. -/
theorem listed_iff_no_later (c : Config) (store : Store) (stored : List Integration)
    (hread : store.integrations = .ok stored) (ig : Integration)
    (hig : ig ∈ c.validate.1.integrations) (s : Source) (hs : s ∈ ig.sources) :
    ∃ groups, c.validate.1.integrationsBySource store = .ok groups ∧
      ((∃ group, groups.find? s.name = some group ∧ ig ∈ group) ↔
        ∃ before after, c.validate.1.integrations = before ++ ig :: after ∧
          ∀ later ∈ after, later.name ≠ ig.name) := by
  have hgrouping := c.validate.1.isGrouping_groupsOver stored
  refine ⟨_, integrationsBySource_eq_ok _ store stored hread, ?_⟩
  rw [← counts_of_declared_iff _ stored ig hig]
  simp only [← Keyed.mem_iff_find? _ _ _ hgrouping.ascending]
  constructor
  · rintro ⟨group, hgroup, hmem⟩
    exact ((hgrouping.members s.name group hgroup ig).mp hmem).1
  · intro hcounts
    have hreads : ig.Reads s.name := ⟨s, hs, rfl⟩
    rcases List.mem_map.mp ((hgrouping.sources s.name).mpr ⟨ig, hcounts, hreads⟩) with
      ⟨⟨_, group⟩, hgroup, rfl⟩
    exact ⟨group, hgroup, (hgrouping.members _ group hgroup ig).mpr ⟨hcounts, hreads⟩⟩

/-- The second of the two integrations is listed, in spite of one that is stored under
    their name. -/
theorem listed_iff_no_later_doubled :
    (transfers "fee").derive ∈ doubled.validate.1.integrations ∧
      ∃ groups, doubled.validate.1.integrationsBySource
          ⟨.ok [], .ok [transfers "amount"]⟩ = .ok groups ∧
        ∃ group, groups.find? "mainnet" = some group ∧ (transfers "fee").derive ∈ group := by
  have hmem : (transfers "fee").derive ∈ doubled.validate.1.integrations :=
    List.mem_cons_of_mem _ List.mem_cons_self
  rcases listed_iff_no_later doubled ⟨.ok [], .ok [transfers "amount"]⟩ _ rfl _ hmem
    (Source.named "mainnet" 1 ⟨""⟩) List.mem_cons_self with ⟨groups, hgroups, hiff⟩
  exact ⟨hmem, groups, hgroups, hiff.mpr
    ⟨[(transfers "amount").derive], [], rfl, List.forall_mem_nil _⟩⟩

/-- Not every integration of a configuration that was accepted is listed under its
    sources: the first of the two is not. -/
theorem not_all_declared_listed :
    ¬ ∀ (c : Config) (store : Store) (stored : List Integration), c.validate.2 = .ok () →
      store.integrations = .ok stored → ∀ ig ∈ c.validate.1.integrations, ∀ s ∈ ig.sources,
        ∃ groups group, c.validate.1.integrationsBySource store = .ok groups ∧
          groups.find? s.name = some group ∧ ig ∈ group := by
  intro hall
  rcases hall doubled ⟨.ok [], .ok []⟩ [] rfl rfl (transfers "amount").derive List.mem_cons_self
    (Source.named "mainnet" 1 ⟨""⟩) List.mem_cons_self with ⟨groups, group, hgroups, hgroup, hmem⟩
  have hlisted : groups.find? "mainnet" = some [(transfers "fee").derive] := by
    rw [← Except.ok.inj hgroups]
    rfl
  rw [← Option.some.inj (hlisted.symm.trans hgroup), List.mem_singleton] at hmem
  -- The two integrations have different columns.
  have hcolumns : (transfers "amount").derive.table.columnNames =
      (transfers "fee").derive.table.columnNames := by rw [hmem]
  exact absurd hcolumns (by decide)

end Config

end EventTables
