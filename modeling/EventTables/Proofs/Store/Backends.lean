import EventTables.Proofs.Store.Grouping
import EventTables.Proofs.Store.Saving

/-!
# Two Stores after the Same Saves

Whether it shows in the effective sources and integrations where they are stored.

The store in memory puts off what to do with a repeated key until records are put
together, and then the last one counts. The relations deal with it at once, and by keys
of their own. Integrations have one key in both, their name, and both keep the last one,
so no difference is left in the end. Sources are told apart by name and chain when they
are saved and by chain alone when they are put together. The relation leaves alone the
row of a name and a chain that is there, so a source that is saved once more, with
another address or only behind another source of its chain, counts in memory and not in
the relations. `backends_agree_iff` says exactly when this shows.

## Main definitions

* `Store.inMemory`, `Store.inRelations`: What reading either store gives after saves.
* `firstSources`: The saved sources without those that repeat a name and chain.

## Theorems

* `Config.backends_agree_iff`: When both stores come to the same.
* `Config.not_backends_agree`: They may not.
-/

namespace EventTables

open Json

/-- What reading a store in memory gives after some saves. -/
def Store.inMemory (saves : List Save) : Store :=
  (Memory.empty.saveAll saves).store

/-- What reading the relations gives after some saves. -/
def Store.inRelations (saves : List Save) : Store :=
  Relations.database.store (Relations.database.saveAll Relations.empty saves)

/-- The saved sources, those left out that have the name and the chain of an earlier one. -/
def firstSources (saves : List Save) : List Source :=
  (savedSources saves).foldl (keepFirst Relations.sourceKey) []

/-! ### Reading after saves -/

theorem sources_inMemory (saves : List Save) :
    (Store.inMemory saves).sources = .ok ((savedSources saves).map Source.kept) :=
  congrArg Except.ok (Memory.sources_saveAll Memory.empty saves)

theorem integrations_inMemory (saves : List Save)
    (hsaves : ∀ ig ∈ savedIntegrations saves, ig.ReadsBack) :
    (Store.inMemory saves).integrations = .ok (savedIntegrations saves) :=
  Memory.integrations_saveAll Memory.empty [] rfl saves hsaves

theorem inRelations_eq (saves : List Save) :
    Store.inRelations saves = Relations.database.store (Relations.ofRecords (firstSources saves)
      ((savedIntegrations saves).foldl (keepLast (·.name)) [])) :=
  congrArg Relations.database.store (Relations.saveAll_ofRecords [] [] saves)

theorem sources_inRelations (saves : List Save) :
    (Store.inRelations saves).sources = .ok ((firstSources saves).map Source.kept) := by
  rw [inRelations_eq, Relations.sources_ofRecords]

theorem integrations_inRelations (saves : List Save)
    (hsaves : ∀ ig ∈ savedIntegrations saves, ig.ReadsBack) :
    (Store.inRelations saves).integrations =
      .ok ((savedIntegrations saves).foldl (keepLast (·.name)) []) := by
  rw [inRelations_eq]
  refine Relations.integrations_ofRecords _ _ fun ig hig => hsaves ig ?_
  exact (mem_foldl_keepLast _ _ [] ig hig).resolve_left List.not_mem_nil

namespace Config

/-! ### Both stores -/

/-- After the same saves, both stores can be read for the effective sources, which are the
    same exactly if under each chain that is not declared the last source that was saved
    is, as far as it is kept, the last one of those that repeated no name and chain. If
    the integrations that were saved come back from their documents, both stores can be
    read for the effective integrations by source, and they are the same. -/
theorem backends_agree_iff (c : Config) (saves : List Save) :
    (∃ fromMemory fromRelations,
      c.allSources (Store.inMemory saves) = .ok fromMemory ∧
      c.allSources (Store.inRelations saves) = .ok fromRelations ∧
      (fromMemory = fromRelations ↔ ∀ chain, chain ∉ c.sources.map (·.chainId) →
        (latest? (·.chainId) (savedSources saves) chain).map Source.kept =
          (latest? (·.chainId) (firstSources saves) chain).map Source.kept)) ∧
    ((∀ ig ∈ savedIntegrations saves, ig.ReadsBack) → ∃ groups,
      c.integrationsBySource (Store.inMemory saves) = .ok groups ∧
      c.integrationsBySource (Store.inRelations saves) = .ok groups) := by
  refine ⟨⟨_, _, c.allSources_eq_ok _ _ (sources_inMemory saves),
    c.allSources_eq_ok _ _ (sources_inRelations saves), ?_⟩, fun hsaves => ?_⟩
  · -- What is kept of a source has its chain.
    rw [map_effectiveRecords_eq_iff]
    simp only [latest?_map]
    rfl
  · refine ⟨_, c.integrationsBySource_eq_ok _ _ (integrations_inMemory saves hsaves), ?_⟩
    rw [c.integrationsBySource_eq_ok _ _ (integrations_inRelations saves hsaves)]
    have hsame := effectiveRecords_congr (·.name) c.integrations
      ((savedIntegrations saves).foldl (keepLast (·.name)) []) (savedIntegrations saves)
      fun name _ => latest?_foldl_keepLast _ _ [] name
    exact congrArg (fun records => Except.ok (groupBySource (records.map (·.2)))) hsame

/-- Saves that repeat a source as it is and an integration with another column. -/
def repeatedSaves : List Save :=
  [.source (Source.named "main" 1 ⟨"https://main"⟩), .integration (transfers "amount"),
    .source (Source.named "spare" 1 ⟨"https://spare"⟩), .integration (transfers "fee"),
    .source (Source.named "spare" 1 ⟨"https://spare"⟩)]

-- It keeps nothing without a description.
theorem isSound_transfers (room : Nat) (column : String) : (transfers column).IsSound room :=
  ⟨.null _, Format.isSound_bare room "" ""⟩

theorem isExact_transfers (column : String) : (transfers column).IsExact :=
  ⟨.null, List.forall_mem_nil _, List.forall_mem_nil _⟩

theorem readsBack_transfers (column : String) : (transfers column).ReadsBack :=
  (isSound_transfers _ column).readsBack (isExact_transfers column)

/-- Both stores come to the same after these saves. -/
theorem backends_agree_iff_repeatedSaves :
    (∃ listed, Config.empty.allSources (Store.inMemory repeatedSaves) = .ok listed ∧
      Config.empty.allSources (Store.inRelations repeatedSaves) = .ok listed ∧
      listed = [Source.named "spare" 1 ⟨"https://spare"⟩]) ∧
    ∃ groups, Config.empty.integrationsBySource (Store.inMemory repeatedSaves) = .ok groups ∧
      Config.empty.integrationsBySource (Store.inRelations repeatedSaves) = .ok groups := by
  rcases backends_agree_iff Config.empty repeatedSaves with
    ⟨⟨fromMemory, fromRelations, hmemory, hrelations, hiff⟩, hgroups⟩
  have hsaved : savedSources repeatedSaves = firstSources repeatedSaves ++
      [Source.named "spare" 1 ⟨"https://spare"⟩] := rfl
  have hfirst : firstSources repeatedSaves = [Source.named "main" 1 ⟨"https://main"⟩] ++
      [Source.named "spare" 1 ⟨"https://spare"⟩] := rfl
  have hsame : fromMemory = fromRelations := hiff.mpr fun chain _ => by
    rw [hsaved, latest?_concat, hfirst, latest?_concat]
    -- The source that is repeated is the last one of its chain anyway.
    cases (Source.named "spare" 1 ⟨"https://spare"⟩).chainId == chain <;> rfl
  refine ⟨⟨fromMemory, hmemory, hsame ▸ hrelations, (Except.ok.inj hmemory).symm⟩, hgroups ?_⟩
  exact List.forall_mem_cons.mpr ⟨readsBack_transfers "amount",
    List.forall_mem_singleton.mpr (readsBack_transfers "fee")⟩

/-! ### Different results -/

/-- A source that is saved with one address and then with another one. -/
def movedSaves : List Save :=
  [.source (Source.named "main" 1 ⟨"https://a"⟩), .source (Source.named "main" 1 ⟨"https://b"⟩)]

/-- An integration whose event keeps a member with the name of a described one, as none
    does that was read from a document. -/
def renamed : Integration :=
  { transfers "amount" with
    event := { Event.blank with extra := [("name", .string "Transfer")] } }

-- Its only kept value is a text.
theorem isExact_renamed : renamed.IsExact :=
  ⟨.null, List.forall_mem_singleton.mpr (.string _), List.forall_mem_nil _⟩

-- In its document a member comes twice, which is refused. A value has it once.
theorem ofBytes_renamed (context : String) :
    ∃ e, Integration.ofBytes context renamed.bytes = .error e := by
  rw [Integration.ofBytes, Integration.bytes, Codec.ofBytes, Codec.ofGlyphs, Glyph.ofBytes_bytes,
    Document.ofGlyphs_text (Format.isExact_encode_integration renamed isExact_renamed)]
  exact ⟨_, rfl⟩

theorem integrationsBySource_inMemory_renamed (c : Config) :
    ∃ e, c.integrationsBySource (Store.inMemory [.integration renamed]) = .error e := by
  rcases ofBytes_renamed "integration row 0" with ⟨e, he⟩
  have hread : (Store.inMemory [.integration renamed]).integrations =
      (Integration.ofBytes "integration row 0" renamed.bytes >>= fun ig =>
        Memory.readDocuments 1 [] >>= fun igs => pure (ig :: igs)) := rfl
  refine ⟨e, ?_⟩
  rw [integrationsBySource, hread, he]
  rfl

/-- The two stores may come to different sources, if one of a name and a chain is saved
    with two addresses, and to different integrations, if one is saved that does not
    come back from its document. -/
theorem not_backends_agree :
    (¬ ∀ (c : Config) (saves : List Save),
      c.allSources (Store.inMemory saves) = c.allSources (Store.inRelations saves)) ∧
    ¬ ∀ (c : Config) (saves : List Save),
      c.integrationsBySource (Store.inMemory saves) =
        c.integrationsBySource (Store.inRelations saves) := by
  refine ⟨fun hall => ?_, fun hall => ?_⟩
  · have hmemory : Config.empty.allSources (Store.inMemory movedSaves) =
        .ok [Source.named "main" 1 ⟨"https://b"⟩] := rfl
    have hrelations : Config.empty.allSources (Store.inRelations movedSaves) =
        .ok [Source.named "main" 1 ⟨"https://a"⟩] := rfl
    have hsame := hmemory.symm.trans ((hall Config.empty movedSaves).trans hrelations)
    exact absurd (Except.ok.inj hsame) (by decide)
  · rcases integrationsBySource_inMemory_renamed Config.empty with ⟨e, hmemory⟩
    have hrelations : ∃ groups, Config.empty.integrationsBySource
        (Store.inRelations [.integration renamed]) = .ok groups := ⟨_, rfl⟩
    rcases hrelations with ⟨groups, hrelations⟩
    exact nomatch hmemory.symm.trans ((hall Config.empty [.integration renamed]).trans hrelations)

end Config

end EventTables
