import EventTables.Proofs.Outcome
import EventTables.Proofs.Store.Effective
import EventTables.Store.Relations
import Mathlib.Data.List.Nodup
import Mathlib.Data.List.Perm.Basic

/-!
# Order of Rows

When the effective sources do not depend on the order in which rows are read.

Nothing says in which order a database gives the rows of a relation, while of several
stored records under one key the last one counts. So the order shows as soon as two
different records are stored under one key, unless one that is declared takes their
place, and it shows in no other way (`effectiveRecords_order_free_iff`). The relation
of sources keeps rows of one chain apart by their names, but a source is known by its
chain alone. Two rows that the relation takes for different ones may thus be two
records for one source.

Where a row cannot be understood there is no list in any order, though the row that is
reported may be another one.

## Main definitions

* `Relations.IsUnique`: No two rows of sources have one name and one chain.
* `Config.listedOver`: The effective sources over the rows of a database.

## Theorems

* `effectiveRecords_order_free_iff`: When the order of what is stored plays no part.
* `Relations.exists_holds_of_perm`, `Relations.exists_rows_of_perm`: Rows in another
  order hold the same in another order, and the other way round.
* `Config.row_order_free_iff`: When the order of rows plays no part.
* `Config.not_row_order_free`: It may play one.
-/

namespace EventTables

/-! ### Effective records -/

section Records

variable {κ β : Type} [BEq κ] [LawfulBEq κ] (key : β → κ)

-- Where all records of the key are one record, it is the last one in any order.
theorem latest?_eq_of_perm (records records' : List β) (hperm : records'.Perm records) (k : κ)
    (halike : ∀ a ∈ records, ∀ b ∈ records, key a = k → key b = k → a = b) :
    latest? key records' k = latest? key records k := by
  rcases h : latest? key records k with _ | r
  · rw [latest?_eq_none_iff] at h ⊢
    exact fun hmem => h ((hperm.map key).mem_iff.mp hmem)
  · rcases mem_of_latest? h with ⟨hr, hkey⟩
    rcases h' : latest? key records' k with _ | r'
    · have hmem : key r ∈ records'.map key := List.mem_map_of_mem (hperm.mem_iff.mpr hr)
      exact absurd (hkey ▸ hmem) ((latest?_eq_none_iff key records' k).mp h')
    · rcases mem_of_latest? h' with ⟨hr', hkey'⟩
      exact congrArg some (halike r' (hperm.mem_iff.mp hr') r hr hkey' hkey)

variable [Ord κ] [Std.LawfulEqOrd κ] [Std.TransOrd κ]

-- Some order has the record at its end, and there it counts if none is declared.
theorem exists_perm_mem (declared stored : List β) (r : β) (hr : r ∈ stored)
    (hundeclared : key r ∉ declared.map key) :
    ∃ stored', stored'.Perm stored ∧
      r ∈ (effectiveRecords key declared stored').map (·.2) := by
  rcases List.append_of_mem hr with ⟨before, after, rfl⟩
  refine ⟨before ++ after ++ [r], ?_, ?_⟩
  · exact (List.perm_append_singleton r _).trans List.perm_middle.symm
  · rw [mem_effectiveRecords_iff, effective?,
      (latest?_eq_none_iff key declared _).mpr hundeclared, Option.none_or, latest?_concat,
      if_pos (beq_self_eq_true _)]

/-- The order of what is stored plays no part exactly if any two records that are
    stored under one key, and under which none is declared, are the same. -/
theorem effectiveRecords_order_free_iff (declared stored : List β) :
    (∀ stored', stored'.Perm stored →
      (effectiveRecords key declared stored').map (·.2) =
        (effectiveRecords key declared stored).map (·.2)) ↔
    ∀ a ∈ stored, ∀ b ∈ stored, key a = key b → key a ∉ declared.map key → a = b := by
  constructor
  · intro hfree a ha b hb hkey hundeclared
    rcases exists_perm_mem key declared stored a ha hundeclared with ⟨first, hfirst, hmema⟩
    rcases exists_perm_mem key declared stored b hb (hkey ▸ hundeclared) with
      ⟨second, hsecond, hmemb⟩
    -- Both are in the one result, and it has one record under their key.
    rw [hfree first hfirst, mem_effectiveRecords_iff] at hmema
    rw [hfree second hsecond, mem_effectiveRecords_iff, ← hkey, hmema] at hmemb
    exact Option.some.inj hmemb
  · intro halike stored' hperm
    refine congrArg (List.map (·.2)) (effectiveRecords_congr key declared _ _ fun k hk => ?_)
    exact latest?_eq_of_perm key stored stored' hperm k fun a ha b hb hak hbk =>
      halike a ha b hb (hak.trans hbk.symm) (hak ▸ hk)

end Records

-- The keys are different ones if the records under a key are the same one.
theorem nodup_filter_map_iff {κ β : Type} [DecidableEq κ] (key : β → κ) (records : List β)
    (others : List κ) (hnodup : records.Nodup) :
    ((records.map key).filter (· ∉ others)).Nodup ↔
      ∀ a ∈ records, ∀ b ∈ records, key a = key b → key a ∉ others → a = b := by
  rw [List.filter_map, List.nodup_map_iff_inj_on (hnodup.filter _)]
  simp only [List.mem_filter, Function.comp_apply, decide_eq_true_eq]
  constructor
  · intro h a ha b hb hkey hother
    exact h a ⟨ha, hother⟩ b ⟨hb, hkey ▸ hother⟩ hkey
  · intro h a ha b hb hkey
    exact h a ha.1 b hb.1 hkey ha.2

/-! ### Rows -/

namespace Relations

/-- The relations hold these sources: every row can be understood. -/
def Holds (r : Relations) (held : List Source) : Prop :=
  (database.store r).sources = .ok held

/-- No two rows of sources have the same name and the same chain. -/
def IsUnique (r : Relations) : Prop :=
  ∀ held, r.Holds held → (held.map fun s => (s.name, s.chainId)).Nodup

/-- The relations with other rows of sources. -/
def withSources (r : Relations) (rows : List (String × String × String)) : Relations :=
  { r with sources := rows }

theorem holds_iff (r : Relations) (held : List Source) :
    r.Holds held ↔
      List.Forall₂ (fun row s => SourceRow.source ⟨some row.1, some row.2.1, some row.2.2⟩ = .ok s)
        r.sources held := by
  have hread : (database.store r).sources =
      (r.sources.map fun row => (⟨some row.1, some row.2.1, some row.2.2⟩ : SourceRow)).mapM
        SourceRow.source := rfl
  rw [Holds, hread, mapM_eq_ok_iff, List.forall₂_map_left_iff]

/-- Rows in another order hold the same in another order. -/
theorem exists_holds_of_perm (r : Relations) (held : List Source) (h : r.Holds held)
    (rows : List (String × String × String)) (hperm : rows.Perm r.sources) :
    ∃ held', (r.withSources rows).Holds held' ∧ held'.Perm held := by
  rcases List.perm_comp_forall₂ hperm ((holds_iff r held).mp h) with ⟨held', hheld', hperm'⟩
  exact ⟨held', (holds_iff (r.withSources rows) held').mpr hheld', hperm'⟩

/-- Every order of what is held is one of the rows. -/
theorem exists_rows_of_perm (r : Relations) (held : List Source) (h : r.Holds held)
    (held' : List Source) (hperm : held'.Perm held) :
    ∃ rows, rows.Perm r.sources ∧ (r.withSources rows).Holds held' := by
  rcases List.perm_comp_forall₂ hperm ((holds_iff r held).mp h).flip with ⟨rows, hrows, hperm'⟩
  exact ⟨rows, hperm', (holds_iff (r.withSources rows) held').mpr hrows.flip⟩

/-- Two rows of one chain, which differ in their names. -/
def twoFeeds : Relations :=
  ⟨[("main", "1", "https://main"), ("spare", "1", "https://spare")], []⟩

theorem holds_twoFeeds : twoFeeds.Holds
    [Source.named "main" 1 ⟨"https://main"⟩, Source.named "spare" 1 ⟨"https://spare"⟩] := rfl

theorem isUnique_twoFeeds : twoFeeds.IsUnique := by
  intro held hheld
  rw [← Except.ok.inj (holds_twoFeeds.symm.trans hheld)]
  decide

end Relations

namespace Config

/-- The effective sources over the rows of a database, if all of them can be
    understood. -/
def listedOver (c : Config) (r : Relations) : Option (List Source) :=
  (c.allSources (Relations.database.store r)).toOption

theorem listedOver_of_holds (c : Config) (r : Relations) (held : List Source) (h : r.Holds held) :
    c.listedOver r = some ((effectiveRecords (·.chainId) c.sources held).map (·.2)) := by
  rw [listedOver, c.allSources_eq_ok _ held h, toOption_ok]

theorem listedOver_eq_none (c : Config) (r : Relations) (h : ∀ held, ¬ r.Holds held) :
    c.listedOver r = none := by
  rw [listedOver, allSources]
  rcases hread : (Relations.database.store r).sources with e | held
  · rfl
  · exact absurd hread (h held)

-- What can be said of all orders of the rows can be said of all orders of what they
-- hold.
theorem listedOver_order_free_iff (c : Config) (r : Relations) (held : List Source)
    (h : r.Holds held) :
    (∀ rows, rows.Perm r.sources → c.listedOver (r.withSources rows) = c.listedOver r) ↔
      ∀ held', held'.Perm held →
        (effectiveRecords (·.chainId) c.sources held').map (·.2) =
          (effectiveRecords (·.chainId) c.sources held).map (·.2) := by
  constructor
  · intro hfree held' hperm
    rcases r.exists_rows_of_perm held h held' hperm with ⟨rows, hrows, hheld'⟩
    have hsame := hfree rows hrows
    rw [c.listedOver_of_holds _ held' hheld', c.listedOver_of_holds r held h] at hsame
    exact Option.some.inj hsame
  · intro hfree rows hrows
    rcases r.exists_holds_of_perm held h rows hrows with ⟨held', hheld', hperm⟩
    rw [c.listedOver_of_holds _ held' hheld', c.listedOver_of_holds r held h, hfree held' hperm]

-- A row that cannot be understood is there in every order.
theorem listedOver_withSources_eq_none (c : Config) (r : Relations) (h : ∀ held, ¬ r.Holds held)
    (rows : List (String × String × String)) (hrows : rows.Perm r.sources) :
    c.listedOver (r.withSources rows) = none := by
  refine c.listedOver_eq_none _ fun held hheld => ?_
  rcases (r.withSources rows).exists_holds_of_perm held hheld r.sources hrows.symm with
    ⟨held', hheld', _⟩
  exact h held' hheld'

/-- The order of the rows plays no part exactly if no two of them have the same chain,
    those with a declared chain left aside. -/
theorem row_order_free_iff (c : Config) (r : Relations) (hunique : r.IsUnique) :
    (∀ rows, rows.Perm r.sources → c.listedOver (r.withSources rows) = c.listedOver r) ↔
      ∀ held, r.Holds held →
        ((held.map (·.chainId)).filter (· ∉ c.sources.map (·.chainId))).Nodup := by
  by_cases hread : ∃ held, r.Holds held
  · rcases hread with ⟨held, h⟩
    have hnodup := nodup_filter_map_iff (·.chainId) held (c.sources.map (·.chainId))
      (List.Nodup.of_map _ (hunique held h))
    rw [c.listedOver_order_free_iff r held h, effectiveRecords_order_free_iff, ← hnodup]
    exact ⟨fun hheld held' h' => Except.ok.inj (h.symm.trans h') ▸ hheld, fun hall => hall held h⟩
  · rw [not_exists] at hread
    refine ⟨fun _ held h => absurd h (hread held), fun _ rows hrows => ?_⟩
    rw [c.listedOver_eq_none r hread, c.listedOver_withSources_eq_none r hread rows hrows]

/-- A configuration that declares the chain of the two rows and no other one. -/
def declaringChain : Config :=
  { Config.empty with sources := [Source.named "mainnet" 1 ⟨"https://mainnet"⟩] }

/-- Where the chain of the two rows is declared, their order plays no part. -/
theorem row_order_free_iff_declared :
    Relations.twoFeeds.IsUnique ∧ ∀ rows, rows.Perm Relations.twoFeeds.sources →
      declaringChain.listedOver (Relations.twoFeeds.withSources rows) =
        declaringChain.listedOver Relations.twoFeeds := by
  refine ⟨Relations.isUnique_twoFeeds,
    (row_order_free_iff declaringChain _ Relations.isUnique_twoFeeds).mpr fun held hheld => ?_⟩
  rw [← Except.ok.inj (Relations.holds_twoFeeds.symm.trans hheld)]
  decide

/-- The order of rows may play a part: of two rows of one chain, read in two orders,
    first one is left and then the other. -/
theorem not_row_order_free :
    ¬ ∀ (c : Config) (r : Relations) (rows : List (String × String × String)), r.IsUnique →
      rows.Perm r.sources → c.listedOver (r.withSources rows) = c.listedOver r := by
  intro hall
  have hsame := hall Config.empty Relations.twoFeeds _ Relations.isUnique_twoFeeds
    (List.Perm.swap ("main", "1", "https://main") ("spare", "1", "https://spare") [])
  have hmain : Config.empty.listedOver (Relations.twoFeeds.withSources
      [("spare", "1", "https://spare"), ("main", "1", "https://main")]) =
        some [Source.named "main" 1 ⟨"https://main"⟩] := rfl
  have hspare : Config.empty.listedOver Relations.twoFeeds =
      some [Source.named "spare" 1 ⟨"https://spare"⟩] := rfl
  rw [hmain, hspare] at hsame
  exact absurd hsame (by decide)

end Config

end EventTables
