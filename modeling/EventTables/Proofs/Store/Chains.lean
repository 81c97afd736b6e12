import EventTables.Proofs.Store.Effective
import Mathlib.Data.List.Perm.Basic

/-!
# Effective Sources

Which sources are listed over a store.

What is listed is described here without the way in which it comes about: there is no
history and no looking up. A source prevails if it is the last one of its chain in one of
two lists, where the stored ones are only asked for chains that are not declared at all.
The list has one source for every chain that occurs, in the order of the chains, and each
of them prevails. Since no two sources of one chain prevail, there is no more than one such
list (`InEffect.eq`), so nothing about the result is left open by that description. A
source is listed as it stands in its own list. That a declared one takes the place of a
stored one does not mean that anything of the two is put together.

## Main definitions

* `IsLastOf`: No record behind this one has its key.
* `Prevails`: The record is the one that is left under its key.
* `InEffect`: What is listed of declared and stored sources.

## Theorems

* `effective?_eq_some_iff`: What counts is what prevails.
* `inEffect_effectiveRecords`: The effective sources are such a list.
* `InEffect.eq`: There is only one.
* `Config.allSources_inEffect`: The effective sources over any store.
-/

namespace EventTables

/-! ### Records that prevail -/

section Records

variable {κ β : Type} (key : β → κ)

/-- The record stands at a place behind which no other one has its key. -/
def IsLastOf (records : List β) (r : β) : Prop :=
  ∃ before after, records = before ++ r :: after ∧ ∀ later ∈ after, key later ≠ key r

/-- The record is the last one that is declared under its key, or none is and it is the
    last one that is stored. -/
def Prevails (declared stored : List β) (r : β) : Prop :=
  IsLastOf key declared r ∨ key r ∉ declared.map key ∧ IsLastOf key stored r

variable [BEq κ] [LawfulBEq κ] (declared stored : List β) (k : κ)

theorem latest?_eq_some_iff_isLastOf (records : List β) (r : β) :
    latest? key records k = some r ↔ key r = k ∧ IsLastOf key records r := by
  rw [latest?_eq_some_iff]
  constructor
  · rintro ⟨rfl, h⟩
    exact ⟨rfl, h⟩
  · rintro ⟨rfl, h⟩
    exact ⟨rfl, h⟩

/-- What counts under a key is what prevails there. -/
theorem effective?_eq_some_iff (r : β) :
    effective? key declared stored k = some r ↔ key r = k ∧ Prevails key declared stored r := by
  rw [effective?, Option.or_eq_some_iff, latest?_eq_none_iff, latest?_eq_some_iff_isLastOf,
    latest?_eq_some_iff_isLastOf]
  constructor
  · rintro (⟨rfl, hlast⟩ | ⟨hundeclared, rfl, hlast⟩)
    · exact ⟨rfl, Or.inl hlast⟩
    · exact ⟨rfl, Or.inr ⟨hundeclared, hlast⟩⟩
  · rintro ⟨rfl, hlast | ⟨hundeclared, hlast⟩⟩
    · exact Or.inl ⟨rfl, hlast⟩
    · exact Or.inr ⟨hundeclared, rfl, hlast⟩

theorem effective?_eq_none_iff :
    effective? key declared stored k = none ↔ k ∉ declared.map key ∧ k ∉ stored.map key := by
  rw [effective?, Option.or_eq_none_iff, latest?_eq_none_iff, latest?_eq_none_iff]

-- Some record prevails under every key that occurs, and under no other one.
theorem exists_prevails_iff :
    (∃ r, key r = k ∧ Prevails key declared stored r) ↔
      k ∈ declared.map key ∨ k ∈ stored.map key := by
  simp only [← effective?_eq_some_iff]
  rw [← Option.isSome_iff_exists, ← Option.ne_none_iff_isSome, ne_eq, effective?_eq_none_iff,
    not_and_or, not_not, not_not]

end Records

/-! ### Lists of sources -/

/-- What is listed of sources that are declared and sources that are stored. -/
structure InEffect (declared stored listed : List Source) : Prop where
  /-- There is one source for a chain, and the chains ascend. -/
  ascending : listed.Pairwise fun a b => a.chainId < b.chainId
  /-- The chains are those that occur. -/
  chains : ∀ chain, chain ∈ listed.map (·.chainId) ↔
    chain ∈ declared.map (·.chainId) ∨ chain ∈ stored.map (·.chainId)
  /-- Each source is, as a whole, the one that is left of its chain. -/
  prevails : ∀ s ∈ listed, Prevails (·.chainId) declared stored s

/-- The effective sources are such a list. -/
theorem inEffect_effectiveRecords (declared stored : List Source) :
    InEffect declared stored ((effectiveRecords (·.chainId) declared stored).map (·.2)) := by
  have hmem : ∀ s : Source, s ∈ (effectiveRecords (·.chainId) declared stored).map (·.2) ↔
      Prevails (·.chainId) declared stored s := by
    intro s
    rw [mem_effectiveRecords_iff, effective?_eq_some_iff]
    exact and_iff_right rfl
  refine ⟨?_, fun chain => ?_, fun s hs => (hmem s).mp hs⟩
  · exact (pairwise_effectiveRecords (·.chainId) declared stored).imp Std.compare_eq_lt.mp
  · rw [← exists_prevails_iff, List.mem_map]
    simp only [hmem, and_comm]

namespace InEffect

variable {declared stored listed : List Source}

/-- All sources that prevail are listed. The list has one of that chain, which prevails as
    well, and two of one chain cannot. -/
theorem mem_iff (h : InEffect declared stored listed) (s : Source) :
    s ∈ listed ↔ Prevails (·.chainId) declared stored s := by
  refine ⟨h.prevails s, fun hs => ?_⟩
  have hoccurs := (exists_prevails_iff (·.chainId) declared stored s.chainId).mp ⟨s, rfl, hs⟩
  rcases List.mem_map.mp ((h.chains s.chainId).mpr hoccurs) with ⟨t, ht, hchain⟩
  have hcounts := (effective?_eq_some_iff (·.chainId) declared stored s.chainId s).mpr ⟨rfl, hs⟩
  have hcounts' := (effective?_eq_some_iff (·.chainId) declared stored s.chainId t).mpr
    ⟨hchain, h.prevails t ht⟩
  exact Option.some.inj (hcounts.symm.trans hcounts') ▸ ht

theorem nodup (h : InEffect declared stored listed) : listed.Nodup := by
  refine h.ascending.imp fun {a b} hlt heq => ?_
  rw [heq] at hlt
  exact UInt64.lt_irrefl _ hlt

/-- Only one list is in effect: its members and their order are settled. -/
theorem eq {listed' : List Source} (h : InEffect declared stored listed)
    (h' : InEffect declared stored listed') : listed = listed' := by
  have hperm : listed.Perm listed' := (List.perm_ext_iff_of_nodup h.nodup h'.nodup).mpr fun s =>
    (h.mem_iff s).trans (h'.mem_iff s).symm
  refine hperm.eq_of_pairwise (fun a b _ _ hab hba => ?_) h.ascending h'.ascending
  exact absurd (UInt64.lt_trans hab hba) (UInt64.lt_irrefl _)

end InEffect

namespace Config

/-- The effective sources over a store. If the store cannot be read, its error is the
    result. Otherwise there is a result, and it is the one list that is in effect. -/
theorem allSources_inEffect (c : Config) (store : Store) :
    (∀ e, store.sources = .error e → c.allSources store = .error e) ∧
    ∀ stored, store.sources = .ok stored →
      (∃ listed, c.allSources store = .ok listed) ∧
      ∀ listed, c.allSources store = .ok listed ↔ InEffect c.sources stored listed := by
  refine ⟨fun e he => ?_, fun stored hstored => ?_⟩
  · rw [allSources, he]
    rfl
  · have hlisted := c.allSources_eq_ok store stored hstored
    have heffect := inEffect_effectiveRecords c.sources stored
    refine ⟨⟨_, hlisted⟩, fun listed => ⟨fun h => ?_, fun h => ?_⟩⟩
    · exact Except.ok.inj (hlisted.symm.trans h) ▸ heffect
    · rw [hlisted, heffect.eq h]

/-- Two sources that are declared for one chain, of which only the first one says where to
    start. -/
def redeclared : Config :=
  { Config.empty with
    sources := [{ Source.named "old" 7 ⟨"https://old"⟩ with start := 5 },
      Source.named "new" 7 ⟨"https://new"⟩] }

/-- The last chain there is, one that is stored twice, and one that is declared. -/
def storedChains : List Source :=
  [Source.named "last" 18446744073709551615 ⟨"https://last"⟩, Source.named "a" 2 ⟨"https://a"⟩,
    Source.named "lost" 7 ⟨"https://lost"⟩, Source.named "b" 2 ⟨"https://b"⟩]

/-- The two declared sources over a store that cannot be read and over one that can. -/
theorem allSources_inEffect_redeclared :
    redeclared.allSources (.failing "querying sources" "down") =
        .error (.storage "querying sources" "down") ∧
      (∃ listed, redeclared.allSources ⟨.ok storedChains, .ok []⟩ = .ok listed) ∧
      InEffect redeclared.sources storedChains
        [Source.named "b" 2 ⟨"https://b"⟩, Source.named "new" 7 ⟨"https://new"⟩,
          Source.named "last" 18446744073709551615 ⟨"https://last"⟩] := by
  have hfails := (allSources_inEffect redeclared (.failing "querying sources" "down")).1 _ rfl
  rcases (allSources_inEffect redeclared ⟨.ok storedChains, .ok []⟩).2 storedChains rfl with
    ⟨hsucceeds, hiff⟩
  exact ⟨hfails, hsucceeds, (hiff _).mp rfl⟩

end Config

end EventTables
