import EventTables.Proofs.Json.Reading
import EventTables.Proofs.Store.Backends

/-!
# Saving What Is in Effect

A store in memory to which the effective sources and integrations are saved is read as
before.

What is saved goes behind all that is there, so it would count from then on. Under a key
that is declared it does not, as nothing that is stored does, and this is why it does no
harm that of a declared source less is kept than was declared. Under any other key what
is in effect is the last stored record, and saving adds that same record once more, if
nothing of it is lost. A source that was stored has lost before what can be lost of it,
and an integration that was read comes back from its document. So it plays no part how
much of what is in effect is saved, how often and in which order.

What can go wrong is a declared integration whose document cannot be read, since one such
document spoils all that the store holds. It need not come back as it was declared.
Whatever its document is read as has its name (`Integration.name_of_read`), and under that
name the declared one counts. An integration that was read, or made by editing, can be
read again. One that was put together by hand may not be (`Config.not_saving_shown`).

## Main definitions

* `Memory.Reachable`: The stores in memory that come about.
* `Integration.IsReadable`: The document of an integration can be read.
* `Config.Shows`: What the effective sources and integrations list.

## Theorems

* `Memory.kept_of_reachable`: Nothing more is lost of a source that was stored.
* `Memory.isSound_of_read`: What is read is as documents have it.
* `Integration.name_of_read`: A document that is read has the name that was written.
* `Config.saving_shown_iff`: When saving what is in effect changes nothing.
* `Config.not_saving_shown`: It may change something.
-/

namespace EventTables

open Json

namespace Memory

/-- The stores in memory that come about. -/
inductive Reachable : Memory → Prop where
  | empty : Reachable Memory.empty
  | source {m : Memory} (s : Source) : Reachable m → Reachable (m.addSource s)
  | document {m : Memory} (bytes : List UInt8) : Reachable m → Reachable (m.addDocument bytes)
  | statement {m : Memory} (stmt : String) : Reachable m → Reachable (m.addStatement stmt)

/-- All that is stored of a source is kept when it is stored again. -/
theorem kept_of_reachable {m : Memory} (h : m.Reachable) : ∀ s ∈ m.sources, s.kept = s := by
  induction h with
  | empty => exact List.forall_mem_nil _
  | source s _ ih => exact List.forall_mem_append.mpr ⟨ih, List.forall_mem_singleton.mpr rfl⟩
  | document _ _ ih => exact ih
  | statement _ _ ih => exact ih

theorem Reachable.saveAll {m : Memory} (h : m.Reachable) (saves : List Save) :
    (m.saveAll saves).Reachable := by
  induction saves generalizing m with
  | nil => exact h
  | cons save rest ih =>
      cases save with
      | source s => exact ih (h.source s)
      | integration ig => exact ih (h.document ig.bytes)

/-- What the integrations that are read keep is as documents have it. -/
theorem isSound_of_read (m : Memory) (stored : List Integration)
    (hread : m.store.integrations = .ok stored) :
    ∀ ig ∈ stored, ig.IsSound (Codec.depthLimit - 4) := by
  intro ig hig
  rcases exists_of_mem_right ((readDocuments_eq_ok_iff _ _ _).mp hread) ig hig with ⟨d, _, hd⟩
  rcases (Codec.ofDocument_eq_ok_iff _ _ _).mp hd with ⟨hroot, _⟩
  exact Format.isSound_of_decode_integration _ _ ig hroot

end Memory

/-! ### Documents of integrations -/

namespace Integration

/-- There is an integration that the document of this one is read as. -/
def IsReadable (ig : Integration) : Prop :=
  ∃ r, Format.integration.ofBytes ig.bytes = .ok r

theorem ReadsBack.ofBytes_bytes {ig : Integration} (h : ig.ReadsBack) :
    Format.integration.ofBytes ig.bytes = .ok ig :=
  (mapError_eq_ok_iff _ _ _).mp (h "").1

theorem ReadsBack.isReadable {ig : Integration} (h : ig.ReadsBack) : ig.IsReadable :=
  ⟨ig, h.ofBytes_bytes⟩

theorem ReadsBack.eq_of_read {ig r : Integration} (h : ig.ReadsBack)
    (hread : Format.integration.ofBytes ig.bytes = .ok r) : r = ig :=
  Except.ok.inj (hread.symm.trans h.ofBytes_bytes)

/-- Whatever an integration is read as, if it is read at all, has its name. -/
theorem name_of_read {ig r : Integration} (hexact : ig.IsExact)
    (h : Format.integration.ofBytes ig.bytes = .ok r) : r.name = ig.name := by
  rw [Integration.bytes, Codec.ofBytes, Codec.ofGlyphs, Glyph.ofBytes_bytes,
    Document.ofGlyphs_text (Format.isExact_encode_integration ig hexact)] at h
  rcases (Codec.ofDocument_eq_ok_iff _ _ _).mp h with ⟨hroot, _⟩
  have hothers : Format.integrationShape.members.Forall fun m =>
      m.name ≠ "name" → m.Leaves Integration.name := by
    refine ⟨fun h => absurd rfl h, ?_⟩
    and_intros <;> exact fun _ => Member.leaves_of_sets (fun _ _ _ => rfl) fun _ _ => rfl
  rcases Shape.exists_store_of_encode _ Integration.name ig r (by decide) List.mem_cons_self rfl
    hothers hroot with ⟨_, a, b, hstore, hname⟩
  have hstored : Except.ok { a with name := ig.name } = Except.ok b := hstore
  rw [hname, ← Except.ok.inj hstored]

end Integration

namespace Config

/-- The effective sources or integrations over a store list what is saved. -/
def Shows (c : Config) (store : Store) : Save → Prop
  | .source s => ∃ listed, c.allSources store = .ok listed ∧ s ∈ listed
  | .integration ig => ∃ groups source group, c.integrationsBySource store = .ok groups ∧
      (source, group) ∈ groups ∧ ig ∈ group

/-! ### What counts -/

theorem counts_of_shows (c : Config) (store : Store) (stored : List Integration)
    (hread : store.integrations = .ok stored) (ig : Integration)
    (h : c.Shows store (.integration ig)) : c.Counts stored ig := by
  rcases h with ⟨groups, source, group, hgroups, hgroup, hig⟩
  rw [c.integrationsBySource_eq_ok store stored hread] at hgroups
  rw [← Except.ok.inj hgroups] at hgroup
  exact (((c.isGrouping_groupsOver stored).members source group hgroup ig).mp hig).1

-- What counts is one of those that are declared or stored.
theorem mem_of_counts {c : Config} {stored : List Integration} {ig : Integration}
    (h : c.Counts stored ig) : ig ∈ c.integrations ∨ ig ∈ stored := by
  rcases Option.or_eq_some_iff.mp h with hdeclared | ⟨_, hstored⟩
  · exact Or.inl (mem_of_latest? hdeclared).1
  · exact Or.inr (mem_of_latest? hstored).1

/-! ### Saving -/

theorem allSources_saveAll (c : Config) (m : Memory) (hm : m.Reachable) (saves : List Save)
    (hsaves : ∀ save ∈ saves, c.Shows m.store save) :
    c.allSources (m.saveAll saves).store = c.allSources m.store := by
  have hbefore := c.allSources_eq_ok m.store m.sources rfl
  have hafter := c.allSources_eq_ok (m.saveAll saves).store _ rfl
  rw [hafter, hbefore, Memory.sources_saveAll]
  rw [effectiveRecords_append (·.chainId) c.sources m.sources _ fun r hr hundeclared => ?_]
  rcases List.mem_map.mp hr with ⟨s, hs, rfl⟩
  rcases hsaves _ ((mem_savedSources saves s).mp hs) with ⟨listed, hlisted, hmem⟩
  rw [← Except.ok.inj (hbefore.symm.trans hlisted)] at hmem
  -- The source is stored under its chain, so nothing of it is lost.
  have hlatest := (latest?_eq_some_iff_mem _ _ m.sources _ hundeclared s).mpr ⟨rfl, hmem⟩
  rw [Memory.kept_of_reachable hm s (mem_of_latest? hlatest).1] at hlatest ⊢
  exact hlatest

/-- What is added under a name that is declared does not count, and what is added under any
    other name is what counts there already. -/
theorem integrationsBySource_saveAll_iff (c : Config) (hexact : c.IsExact) (m : Memory)
    (stored : List Integration) (hread : m.store.integrations = .ok stored)
    (hstored : ∀ ig ∈ stored, ig.IsExact) (saves : List Save)
    (hcounts : ∀ ig ∈ savedIntegrations saves, c.Counts stored ig) :
    c.integrationsBySource (m.saveAll saves).store = c.integrationsBySource m.store ↔
      ∀ ig ∈ savedIntegrations saves, ig ∈ c.integrations → ig.IsReadable := by
  have hbefore := c.integrationsBySource_eq_ok m.store stored hread
  constructor
  · intro h ig hig _
    -- There is a result, so all documents were read.
    rcases hafter : (m.saveAll saves).store.integrations with e | all
    · rw [hbefore, integrationsBySource, hafter] at h
      cases h
    · rcases (m.integrations_saveAll_eq_ok_iff stored hread saves all).mp hafter with
        ⟨added, _, hadded⟩
      rcases exists_of_mem_right hadded.flip ig hig with ⟨r, _, hr⟩
      exact ⟨r, hr⟩
  · intro hreadable
    have hback : ∀ ig ∈ stored, ig.ReadsBack := fun ig hig =>
      (m.isSound_of_read stored hread ig hig).readsBack (hstored ig hig)
    have hread' : ∀ ig ∈ savedIntegrations saves, ig.IsReadable := by
      intro ig hig
      rcases mem_of_counts (hcounts ig hig) with h | h
      · exact hreadable ig hig h
      · exact (hback ig h).isReadable
    rcases exists_forall₂ _ hread' with ⟨added, hadded⟩
    have hafter := (m.integrations_saveAll_eq_ok_iff stored hread saves _).mpr ⟨added, rfl, hadded⟩
    rw [c.integrationsBySource_eq_ok _ _ hafter, hbefore]
    have hsame : effectiveRecords (·.name) c.integrations (stored ++ added) =
        effectiveRecords (·.name) c.integrations stored := by
      refine effectiveRecords_append _ _ _ _ fun r hr hundeclared => ?_
      rcases exists_of_mem_right hadded r hr with ⟨ig, hig, hdocument⟩
      rcases mem_of_counts (hcounts ig hig) with h | h
      · -- It was declared, and its document has its name.
        rw [Integration.name_of_read (hexact ig h) hdocument] at hundeclared
        exact absurd (List.mem_map_of_mem h) hundeclared
      · rw [(hback ig h).eq_of_read hdocument] at hundeclared ⊢
        have hmem := (mem_effectiveRecords_iff _ c.integrations stored ig).mpr (hcounts ig hig)
        exact (latest?_eq_some_iff_mem _ _ stored _ hundeclared ig).mpr ⟨rfl, hmem⟩
    exact congrArg (fun records => Except.ok (groupBySource (records.map (·.2)))) hsame

/-- Saving sources and integrations that are in effect, any of them, in any order and any
    number of times, does not change which sources are. Nor does it change which integrations
    are, exactly if every declared one that was saved can be read from its document. All can
    that were obtained by reading and editing. What is declared and what is stored must not
    hold numbers that are not exact. -/
theorem saving_shown_iff (c : Config) (hexact : c.IsExact) (m : Memory) (hm : m.Reachable)
    (stored : List Integration) (hread : m.store.integrations = .ok stored)
    (hstored : ∀ ig ∈ stored, ig.IsExact) (saves : List Save)
    (hsaves : ∀ save ∈ saves, c.Shows m.store save) :
    c.allSources (m.saveAll saves).store = c.allSources m.store ∧
      (c.integrationsBySource (m.saveAll saves).store = c.integrationsBySource m.store ↔
        ∀ ig ∈ savedIntegrations saves, ig ∈ c.integrations → ig.IsReadable) ∧
      ((∀ ig ∈ c.integrations, ig.Obtained) →
        c.integrationsBySource (m.saveAll saves).store = c.integrationsBySource m.store) := by
  have hcounts : ∀ ig ∈ savedIntegrations saves, c.Counts stored ig := fun ig hig =>
    c.counts_of_shows m.store stored hread ig (hsaves _ ((mem_savedIntegrations saves ig).mp hig))
  have hiff := c.integrationsBySource_saveAll_iff hexact m stored hread hstored saves hcounts
  refine ⟨c.allSources_saveAll m hm saves hsaves, hiff, fun hobtained => hiff.mpr ?_⟩
  intro ig _ hdeclared
  exact ((hobtained ig hdeclared).isSound.readsBack (hexact ig hdeclared)).isReadable

/-- Two integrations that are declared under one name, and a source that also says where to
    start. -/
def declaring : Config :=
  { doubled with sources := [{ Source.named "mainnet" 1 ⟨"https://mainnet"⟩ with start := 5 }] }

theorem isExact_declaring : declaring.IsExact := List.forall_mem_cons.mpr
  ⟨isExact_transfers "amount", List.forall_mem_singleton.mpr (isExact_transfers "fee")⟩

/-- An integration of a name that is not declared. -/
def blocks : Integration :=
  { transfers "gas" with name := "blocks" }

/-- A source and an integration that others are declared in the place of, and one more of
    both. -/
def storedBefore : List Save :=
  [.source (Source.named "other" 1 ⟨"https://other"⟩), .source (Source.named "spare" 2 ⟨""⟩),
    .integration (transfers "old"), .integration blocks]

/-- What is in effect then, out of order and with one of them twice. -/
def shown : List Save :=
  [.integration blocks,
    .source { Source.named "mainnet" 1 ⟨"https://mainnet"⟩ with start := 5 },
    .integration (transfers "fee"), .source (Source.named "spare" 2 ⟨""⟩), .integration blocks]

theorem isExact_storedBefore : ∀ ig ∈ savedIntegrations storedBefore, ig.IsExact :=
  List.forall_mem_cons.mpr ⟨isExact_transfers "old", List.forall_mem_singleton.mpr
    ⟨.null, List.forall_mem_nil _, List.forall_mem_nil _⟩⟩

theorem integrations_storedBefore : (Memory.empty.saveAll storedBefore).store.integrations =
    .ok (savedIntegrations storedBefore) := by
  have hblocks : blocks.IsSound (Codec.depthLimit - 4) := ⟨.null _, Format.isSound_bare _ "" ""⟩
  rcases List.forall_mem_cons.mp isExact_storedBefore with ⟨_, hexact⟩
  refine Memory.integrations_saveAll Memory.empty [] rfl storedBefore ?_
  exact List.forall_mem_cons.mpr ⟨readsBack_transfers "old", List.forall_mem_singleton.mpr
    (hblocks.readsBack (List.forall_mem_singleton.mp hexact))⟩

/-- Its integrations are read from a document. -/
theorem obtained_declaring : ∀ ig ∈ declaring.integrations, ig.Obtained := by
  have hsound : declaring.IsSound (Codec.depthLimit - 6) := List.forall_mem_cons.mpr
    ⟨isSound_transfers _ "amount", List.forall_mem_singleton.mpr (isSound_transfers _ "fee")⟩
  have hread := declaring.ofText_written (Format.carries_config _ _ hsound isExact_declaring)
  exact fun ig hig => .declared hread hig

/-- What is in effect stays as it is when it is saved. -/
theorem saving_shown_iff_declaring :
    (∀ save ∈ shown, declaring.Shows (Memory.empty.saveAll storedBefore).store save) ∧
      declaring.allSources ((Memory.empty.saveAll storedBefore).saveAll shown).store =
        .ok [{ Source.named "mainnet" 1 ⟨"https://mainnet"⟩ with start := 5 },
          Source.named "spare" 2 ⟨""⟩] ∧
      declaring.integrationsBySource ((Memory.empty.saveAll storedBefore).saveAll shown).store =
        .ok [("mainnet", [blocks, transfers "fee"])] := by
  have hsources : declaring.allSources (Memory.empty.saveAll storedBefore).store =
      .ok [{ Source.named "mainnet" 1 ⟨"https://mainnet"⟩ with start := 5 },
        Source.named "spare" 2 ⟨""⟩] := rfl
  have hgroups : declaring.integrationsBySource (Memory.empty.saveAll storedBefore).store =
      .ok [("mainnet", [blocks, transfers "fee"])] :=
    declaring.integrationsBySource_eq_ok _ _ integrations_storedBefore
  have hshown : ∀ save ∈ shown,
      declaring.Shows (Memory.empty.saveAll storedBefore).store save := by
    simp only [shown, List.forall_mem_cons, List.not_mem_nil, IsEmpty.forall_iff, implies_true,
      and_true]
    exact ⟨⟨_, _, _, hgroups, List.mem_cons_self, List.mem_cons_self⟩,
      ⟨_, hsources, List.mem_cons_self⟩,
      ⟨_, _, _, hgroups, List.mem_cons_self, List.mem_cons_of_mem _ List.mem_cons_self⟩,
      ⟨_, hsources, List.mem_cons_of_mem _ List.mem_cons_self⟩,
      ⟨_, _, _, hgroups, List.mem_cons_self, List.mem_cons_self⟩⟩
  rcases saving_shown_iff declaring isExact_declaring (Memory.empty.saveAll storedBefore)
    (Memory.Reachable.empty.saveAll storedBefore) _ integrations_storedBefore isExact_storedBefore
    shown hshown with ⟨hsame, _, hobtained⟩
  exact ⟨hshown, hsame.trans hsources, (hobtained obtained_declaring).trans hgroups⟩

/-- A declared integration whose event keeps a member with the name of a described one. -/
def declaringRenamed : Config :=
  { Config.empty with integrations := [renamed] }

theorem integrationsBySource_declaringRenamed :
    declaringRenamed.integrationsBySource Memory.empty.store = .ok [("mainnet", [renamed])] :=
  rfl

/-- Nothing else is in effect than what it declares. -/
theorem shows_declaringRenamed_iff (save : Save) :
    declaringRenamed.Shows Memory.empty.store save ↔ save = .integration renamed := by
  have hsources : declaringRenamed.allSources Memory.empty.store = .ok [] := rfl
  have hgroups := integrationsBySource_declaringRenamed
  constructor
  · intro h
    cases save with
    | source s =>
        rcases h with ⟨listed, hlisted, hs⟩
        rw [← Except.ok.inj (hsources.symm.trans hlisted)] at hs
        exact absurd hs List.not_mem_nil
    | integration ig =>
        rcases h with ⟨groups, source, group, hlisted, hgroup, hig⟩
        rw [← Except.ok.inj (hgroups.symm.trans hlisted), List.mem_singleton] at hgroup
        rw [(Prod.mk.inj hgroup).2, List.mem_singleton] at hig
        rw [hig]
  · rintro rfl
    exact ⟨_, _, _, hgroups, List.mem_cons_self, List.mem_cons_self⟩

/-- What is in effect may not stay as it is. The integration is listed as it was declared, and
    its document is refused where it is stored. -/
theorem not_saving_shown :
    ¬ ∀ (c : Config) (m : Memory) (stored : List Integration) (saves : List Save),
      c.IsExact → m.Reachable → m.store.integrations = .ok stored →
      (∀ ig ∈ stored, ig.IsExact) → (∀ save, save ∈ saves ↔ c.Shows m.store save) →
      c.allSources (m.saveAll saves).store = c.allSources m.store ∧
        c.integrationsBySource (m.saveAll saves).store = c.integrationsBySource m.store := by
  intro hall
  have hshown : ∀ save, save ∈ [Save.integration renamed] ↔
      declaringRenamed.Shows Memory.empty.store save := fun save =>
    List.mem_singleton.trans (shows_declaringRenamed_iff save).symm
  rcases hall declaringRenamed Memory.empty [] [.integration renamed]
    (List.forall_mem_singleton.mpr isExact_renamed) .empty rfl (List.forall_mem_nil _) hshown with
    ⟨_, hsame⟩
  rcases integrationsBySource_inMemory_renamed declaringRenamed with ⟨e, hafter⟩
  exact nomatch hafter.symm.trans (hsame.trans integrationsBySource_declaringRenamed)

end Config

end EventTables
