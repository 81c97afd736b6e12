import EventTables.Proofs.Store.Grouping

/-!
# Repeated Listings

How often an integration is listed under a source.

Of several integrations of one name only one counts, so two different ones in a list never
have the same name. That alone does not make the names of a list ascend strictly. Every
entry in an integration's own list of sources puts the integration into a group, and nothing
keeps two of these entries from having the same name: neither validation nor reading looks
for that. A list is therefore made of blocks, one for each integration that reads the source
and as long as the integration names it often (`readersOf_eq_replicate`). It ascends strictly
exactly if all blocks have one member.

## Main definitions

* `Integration.timesReading`: How often an integration names a source.
* `Config.twice`: An integration that names one source twice.

## Theorems

* `readersOf_eq_replicate`: A group as blocks of equal integrations.
* `pairwise_readersOf_iff`: When the names in a group ascend strictly.
* `Config.listed_ascending_iff`: The lists of effective integrations.
* `Config.not_listed_ascending`: They need not ascend strictly.
-/

namespace EventTables

/-- How often the integration names a source of that name. -/
def Integration.timesReading (ig : Integration) (source : String) : Nat :=
  ig.sources.countP fun s => s.name == source

theorem Integration.timesReading_pos_iff (ig : Integration) (source : String) :
    0 < ig.timesReading source ↔ ig.Reads source := by
  unfold Integration.timesReading Integration.Reads
  rw [List.countP_pos_iff]
  simp only [beq_iff_eq]

/-- A group is made of the integrations that read the source, each as often as it names it. -/
theorem readersOf_eq_replicate (source : String) (igs : List Integration) :
    readersOf source igs = igs.flatMap fun ig => List.replicate (ig.timesReading source) ig := by
  unfold readersOf
  refine congrArg (List.flatMap · igs) (funext fun ig => ?_)
  rw [List.map_const', Integration.timesReading, List.countP_eq_length_filter]

/-- Where different integrations have ascending names, a group ascends exactly if no
    integration names the source more than once. -/
theorem pairwise_readersOf_iff (source : String) (igs : List Integration)
    (hnames : igs.Pairwise fun a b => a.name < b.name) :
    ((readersOf source igs).Pairwise fun a b => a.name < b.name) ↔
      ∀ r ∈ igs, r.timesReading source ≤ 1 := by
  have hblocks : ∀ r : Integration,
      (List.replicate (r.timesReading source) r).Pairwise (fun a b => a.name < b.name) ↔
        r.timesReading source ≤ 1 := by
    intro r
    rw [List.pairwise_replicate]
    exact or_iff_left (String.lt_irrefl r.name)
  -- Members of different blocks are in the order of the integrations.
  have hapart : igs.Pairwise fun a b =>
      ∀ x ∈ List.replicate (a.timesReading source) a,
        ∀ y ∈ List.replicate (b.timesReading source) b, x.name < y.name := by
    refine hnames.imp fun hlt x hx y hy => ?_
    rw [List.eq_of_mem_replicate hx, List.eq_of_mem_replicate hy]
    exact hlt
  rw [readersOf_eq_replicate, List.pairwise_flatMap]
  simp only [hblocks]
  exact and_iff_left hapart

namespace Config

/-- Every list is in the order of names, and has each integration that counts as often as that
    names the source, one copy behind the other. So the names ascend strictly exactly if none
    of the listed integrations names the source more than once. -/
theorem listed_ascending_iff (c : Config) (store : Store) (stored : List Integration)
    (hread : store.integrations = .ok stored) :
    ∃ (groups : Keyed String (List Integration)) (effective : List Integration),
      c.integrationsBySource store = .ok groups ∧
      (∀ r, r ∈ effective ↔ c.Counts stored r) ∧
      (effective.Pairwise fun a b => a.name < b.name) ∧
      ∀ source group, (source, group) ∈ groups →
        group = effective.flatMap (fun r => List.replicate (r.timesReading source) r) ∧
        (group.Pairwise fun a b => a.name ≤ b.name) ∧
        ((group.Pairwise fun a b => a.name < b.name) ↔
          ∀ r ∈ group, r.timesReading source = 1) := by
  have hnames : ((effectiveIntegrations c.integrations stored).map (·.2)).Pairwise
      fun a b => a.name < b.name :=
    (pairwise_effectiveRecords (·.name) c.integrations stored).imp compareOfLessAndEq_eq_lt.mp
  refine ⟨c.groupsOver stored, (effectiveIntegrations c.integrations stored).map (·.2),
    c.integrationsBySource_eq_ok store stored hread, mem_effectiveRecords_iff _ _ _, hnames,
    fun source group hgroup => ?_⟩
  rw [((mem_groupBySource_iff _ source group).mp hgroup).2]
  refine ⟨readersOf_eq_replicate source _, pairwise_readersOf source _ hnames, ?_⟩
  rw [pairwise_readersOf_iff source _ hnames]
  constructor
  · intro h r hr
    rcases (mem_readersOf source _ r).mp hr with ⟨hmem, hreads⟩
    have hpos := (r.timesReading_pos_iff source).mpr hreads
    have hle := h r hmem
    omega
  · intro h r hr
    by_cases hreads : r.Reads source
    · exact Nat.le_of_eq (h r ((mem_readersOf source _ r).mpr ⟨hr, hreads⟩))
    · -- An integration that does not read the source names it not even once.
      have hzero := mt (r.timesReading_pos_iff source).mp hreads
      omega

/-- A configuration with an integration that names one source twice, and one that names it
    once. -/
def twice : Config :=
  { empty with integrations :=
      [{ transfers "amount" with
          sources := [Source.named "mainnet" 1 ⟨""⟩, Source.named "mainnet" 1 ⟨""⟩] },
        { transfers "fee" with name := "blocks" }] }

-- The list of the source, which is the only one.
theorem integrationsBySource_twice :
    ∃ group, twice.validate.1.integrationsBySource ⟨.ok [], .ok []⟩ = .ok [("mainnet", group)] ∧
      group.map (·.name) = ["blocks", "transfers", "transfers"] :=
  ⟨_, rfl, rfl⟩

theorem not_pairwise_of_names (group : List Integration)
    (hnames : group.map (·.name) = ["blocks", "transfers", "transfers"]) :
    ¬ group.Pairwise fun a b => a.name < b.name := by
  intro h
  have hpairwise : (group.map (·.name)).Pairwise (· < ·) := List.pairwise_map.mpr h
  rw [hnames] at hpairwise
  exact absurd hpairwise (by decide)

/-- The integration that names the source twice stands in the list two times, behind the
    other one. -/
theorem listed_ascending_iff_twice :
    twice.validate.2 = .ok () ∧
      ∃ group, twice.validate.1.integrationsBySource ⟨.ok [], .ok []⟩ =
          .ok [("mainnet", group)] ∧
        group.map (·.name) = ["blocks", "transfers", "transfers"] ∧
        (group.Pairwise fun a b => a.name ≤ b.name) ∧
        ¬ ∀ r ∈ group, r.timesReading "mainnet" = 1 := by
  rcases listed_ascending_iff twice.validate.1 ⟨.ok [], .ok []⟩ [] rfl with
    ⟨groups, _, hgroups, _, _, hlists⟩
  rcases integrationsBySource_twice with ⟨group, hgroup, hnames⟩
  have hmem : ("mainnet", group) ∈ groups := by
    rw [Except.ok.inj (hgroups.symm.trans hgroup)]
    exact List.mem_cons_self
  rcases hlists "mainnet" group hmem with ⟨_, hascending, hstrictly⟩
  refine ⟨rfl, group, hgroup, hnames, hascending, fun honce => ?_⟩
  exact not_pairwise_of_names group hnames (hstrictly.mpr honce)

/-- The lists of a configuration that was accepted need not ascend strictly: the integration
    that names its source twice is listed there twice. -/
theorem not_listed_ascending :
    ¬ ∀ (c : Config) (store : Store) (groups : Keyed String (List Integration)),
      c.validate.2 = .ok () → c.validate.1.integrationsBySource store = .ok groups →
        ∀ source group, (source, group) ∈ groups →
          group.Pairwise fun a b => a.name < b.name := by
  intro hall
  rcases integrationsBySource_twice with ⟨group, hgroup, hnames⟩
  exact not_pairwise_of_names group hnames
    (hall twice _ _ rfl hgroup "mainnet" group List.mem_cons_self)

end Config

end EventTables
