import EventTables.Proofs.Config.RoundTrip
import EventTables.Proofs.Store.Effective
import EventTables.Proofs.Store.Rows
import EventTables.Store.Memory
import EventTables.Store.Relations

/-!
# Saving

What the two stores hold after sources and integrations were saved, and what reading
them gives.

A store in memory puts everything at the end of its lists. The relations decide when a
row comes in what becomes of one that is there under the same key: of the sources of
one name and chain the first one stays (`keepFirst`), of the integrations of one name
the last one does (`keepLast`). Both are told here of records, and not of the rows
that stand for them. That a row can be told by the name and the chain of its source
rests on it that no two chain numbers have the same text.

Reading gives back each source without what is not kept of it, and each integration as
it was saved if its own document is read as it (`Integration.ReadsBack`).

## Main definitions

* `Save`: One source or integration that is saved.
* `Memory.saveAll`, `Database.saveAll`: A store after some saves.
* `keepFirst`, `keepLast`: One more record, with two ways to deal with a repeated key.
* `Integration.ReadsBack`: An integration comes back from its own document.
* `Relations.ofRecords`: The relations that hold some records.

## Theorems

* `latest?_foldl_keepLast`: Replacing records in their places does not change which one
  is the last under a key.
* `Integration.IsSound.readsBack`: What is sound and exact comes back.
* `Memory.sources_saveAll`, `Memory.integrations_saveAll_eq_ok_iff`: A store in memory
  after saves.
* `Relations.saveAll_ofRecords`: The relations after saves.
* `Relations.sources_ofRecords`, `Relations.integrations_ofRecords`: What the relations
  are read as.
-/

namespace EventTables

/-! ### Saves -/

/-- What is saved at one time. -/
inductive Save where
  | source (s : Source)
  | integration (ig : Integration)

/-- The sources among the saves. -/
def savedSources (saves : List Save) : List Source :=
  saves.filterMap fun
    | .source s => some s
    | .integration _ => none

/-- The integrations among the saves. -/
def savedIntegrations (saves : List Save) : List Integration :=
  saves.filterMap fun
    | .source _ => none
    | .integration ig => some ig

theorem mem_savedSources (saves : List Save) (s : Source) :
    s ∈ savedSources saves ↔ Save.source s ∈ saves := by
  rw [savedSources, List.mem_filterMap]
  constructor
  · rintro ⟨save, hsave, h⟩
    cases save with
    | source s' => exact Option.some.inj h ▸ hsave
    | integration ig => exact nomatch h
  · exact fun h => ⟨_, h, rfl⟩

theorem mem_savedIntegrations (saves : List Save) (ig : Integration) :
    ig ∈ savedIntegrations saves ↔ Save.integration ig ∈ saves := by
  rw [savedIntegrations, List.mem_filterMap]
  constructor
  · rintro ⟨save, hsave, h⟩
    cases save with
    | source s => exact nomatch h
    | integration ig' => exact Option.some.inj h ▸ hsave
  · exact fun h => ⟨_, h, rfl⟩

/-- What is kept of a source. -/
def Source.kept (s : Source) : Source :=
  Source.named s.name s.chainId s.url

/-- The store after one save. -/
def Memory.save (m : Memory) : Save → Memory
  | .source s => m.addSource s
  | .integration ig => m.addIntegration ig

/-- The store after some saves. -/
def Memory.saveAll (m : Memory) (saves : List Save) : Memory :=
  saves.foldl save m

namespace Database

variable {σ : Type} (db : Database σ)

/-- The state after one save. -/
def save (state : σ) : Save → σ
  | .source s => (db.saveSource state s).2
  | .integration ig => (db.saveIntegration state ig).2

/-- The state after some saves. -/
def saveAll (state : σ) (saves : List Save) : σ :=
  saves.foldl db.save state

end Database

/-! ### Repeated keys -/

section Records

variable {κ β : Type} [BEq κ] (key : β → κ)

/-- The records with one more at the end, unless one of its key is there. -/
def keepFirst (kept : List β) (r : β) : List β :=
  if kept.any fun old => key old == key r then kept else kept ++ [r]

/-- The records with one more, in the place of the one of its key if there is one, and at
    the end otherwise. -/
def keepLast (kept : List β) (r : β) : List β :=
  if kept.any fun old => key old == key r then
    kept.map fun old => if key old == key r then r else old
  else kept ++ [r]

theorem mem_keepLast (kept : List β) (r a : β) (ha : a ∈ keepLast key kept r) :
    a ∈ kept ∨ a = r := by
  rw [keepLast] at ha
  split at ha
  · rcases List.mem_map.mp ha with ⟨old, hold, rfl⟩
    split
    · exact Or.inr rfl
    · exact Or.inl hold
  · rcases List.mem_append.mp ha with ha | ha
    · exact Or.inl ha
    · exact Or.inr (List.mem_singleton.mp ha)

theorem mem_foldl_keepLast (records kept : List β) (a : β)
    (ha : a ∈ records.foldl (keepLast key) kept) : a ∈ kept ∨ a ∈ records := by
  induction records generalizing kept with
  | nil => exact Or.inl ha
  | cons r rest ih =>
      rcases ih _ ha with ha | ha
      · rcases mem_keepLast key kept r a ha with ha | rfl
        · exact Or.inl ha
        · exact Or.inr List.mem_cons_self
      · exact Or.inr (List.mem_cons_of_mem _ ha)

variable [LawfulBEq κ]

-- Only what has the key of the new record is another one, and that is the new one.
theorem latest?_map_replace (kept : List β) (r : β) (k : κ) :
    latest? key (kept.map fun old => if key old == key r then r else old) k =
      if key r == k then (latest? key kept k).map fun _ => r else latest? key kept k := by
  have hkeys : ∀ old : β, key (if key old == key r then r else old) = key old := by
    intro old
    split
    · next h => exact (eq_of_beq h).symm
    · rfl
  rw [latest?_map]
  simp only [hkeys]
  rcases hlatest : latest? key kept k with _ | old
  · rw [Option.map_none, Option.map_none, ite_self]
  · have hold := (mem_of_latest? hlatest).2
    rw [Option.map_some, Option.map_some, hold]
    by_cases h : key r = k
    · rw [if_pos (beq_iff_eq.mpr h.symm), if_pos (beq_iff_eq.mpr h)]
    · rw [if_neg fun heq => h (eq_of_beq heq).symm, if_neg fun heq => h (eq_of_beq heq)]

/-- Whether it takes a place or gets one, the new record is the last one of its key. -/
theorem latest?_keepLast (kept : List β) (r : β) (k : κ) :
    latest? key (keepLast key kept r) k = if key r == k then some r else latest? key kept k := by
  rw [keepLast]
  split
  · next hthere =>
    rw [latest?_map_replace]
    split
    · next hkey =>
      -- There is a record to be replaced.
      rcases List.any_eq_true.mp hthere with ⟨old, hold, hsame⟩
      rcases hlatest : latest? key kept k with _ | last
      · have hmem : k ∈ kept.map key :=
          List.mem_map.mpr ⟨old, hold, (eq_of_beq hsame).trans (eq_of_beq hkey)⟩
        exact absurd hmem ((latest?_eq_none_iff key kept k).mp hlatest)
      · rfl
    · rfl
  · exact latest?_concat key kept r k

/-- Replacing records in their places leaves the last one under each key what it is if
    all of them are put one behind the other. -/
theorem latest?_foldl_keepLast (records kept : List β) (k : κ) :
    latest? key (records.foldl (keepLast key) kept) k = latest? key (kept ++ records) k := by
  induction records generalizing kept with
  | nil => rw [List.foldl_nil, List.append_nil]
  | cons r rest ih =>
      rw [List.foldl_cons, ih, List.append_cons, latest?_append, latest?_append, latest?_keepLast,
        latest?_concat]

end Records

/-! ### Documents -/

namespace Integration

/-- The integration is read from its own document, from bytes and from a value, and
    whatever is said of where the document is. -/
def ReadsBack (ig : Integration) : Prop :=
  ∀ context, ofBytes context ig.bytes = .ok ig ∧ ofValue context ig.value = .ok ig

/-- What an integration keeps may go as deep as any document of one. -/
theorem IsSound.readsBack {ig : Integration} (hsound : ig.IsSound (Json.Codec.depthLimit - 4))
    (hexact : ig.IsExact) : ig.ReadsBack := by
  have hcarries := Format.carries_integration (Json.Codec.depthLimit - 4) ig hsound hexact
  refine fun context => ⟨?_, ig.ofValue_value context hcarries⟩
  rw [ofBytes, mapError_eq_ok_iff]
  exact Format.integration.ofBytes_encode ig hcarries

end Integration

/-! ### The store in memory -/

namespace Memory

/-- Documents are read one by one. Their places only matter for what is reported. -/
theorem readDocuments_eq_ok_iff (place : Nat) (documents : List (List UInt8))
    (igs : List Integration) :
    readDocuments place documents = .ok igs ↔
      List.Forall₂ (fun d ig => Format.integration.ofBytes d = .ok ig) documents igs := by
  induction documents generalizing place igs with
  | nil =>
      rw [readDocuments, List.forall₂_nil_left_iff]
      exact ⟨fun h => (Except.ok.inj h).symm, fun h => congrArg Except.ok h.symm⟩
  | cons d rest ih =>
      rw [readDocuments, bind_eq_ok_iff, List.forall₂_cons_left_iff]
      refine exists_congr fun ig => ?_
      rw [bind_eq_ok_iff, Integration.ofBytes, mapError_eq_ok_iff]
      constructor
      · rintro ⟨hig, others, hothers, h⟩
        exact ⟨others, hig, (ih _ others).mp hothers, (Except.ok.inj h).symm⟩
      · rintro ⟨others, hig, hothers, rfl⟩
        exact ⟨hig, others, (ih _ others).mpr hothers, rfl⟩

theorem sources_saveAll (m : Memory) (saves : List Save) :
    (m.saveAll saves).sources = m.sources ++ (savedSources saves).map Source.kept := by
  induction saves generalizing m with
  | nil => exact (List.append_nil _).symm
  | cons save rest ih =>
      rw [saveAll, List.foldl_cons, ← saveAll, ih]
      cases save with
      | source s => exact List.append_assoc _ _ _
      | integration ig => rfl

theorem documents_saveAll (m : Memory) (saves : List Save) :
    (m.saveAll saves).documents =
      m.documents ++ (savedIntegrations saves).map Integration.bytes := by
  induction saves generalizing m with
  | nil => exact (List.append_nil _).symm
  | cons save rest ih =>
      rw [saveAll, List.foldl_cons, ← saveAll, ih]
      cases save with
      | source s => rfl
      | integration ig => exact List.append_assoc _ _ _

/-- What is saved is read from its documents, behind what was there. -/
theorem integrations_saveAll_eq_ok_iff (m : Memory) (stored : List Integration)
    (hstored : m.store.integrations = .ok stored) (saves : List Save) (igs : List Integration) :
    (m.saveAll saves).store.integrations = .ok igs ↔ ∃ added, igs = stored ++ added ∧
      List.Forall₂ (fun ig r => Format.integration.ofBytes ig.bytes = .ok r)
        (savedIntegrations saves) added := by
  have hbefore := (readDocuments_eq_ok_iff 0 m.documents stored).mp hstored
  rw [store, documents_saveAll, readDocuments_eq_ok_iff]
  constructor
  · intro h
    have htake := (List.forall₂_take_append igs m.documents _ h.flip).flip
    have hdrop := (List.forall₂_drop_append igs m.documents _ h.flip).flip
    -- A document is read in one way only.
    have hunique : Relator.RightUnique fun d ig => Format.integration.ofBytes d = .ok ig :=
      fun _ _ _ hb hc => Except.ok.inj (hb.symm.trans hc)
    refine ⟨igs.drop m.documents.length, ?_, List.forall₂_map_left_iff.mp hdrop⟩
    rw [List.right_unique_forall₂' hunique hbefore htake, List.take_append_drop]
  · rintro ⟨added, rfl, hadded⟩
    exact List.rel_append hbefore (List.forall₂_map_left_iff.mpr hadded)

/-- What comes back from its document is read as it was saved. -/
theorem integrations_saveAll (m : Memory) (stored : List Integration)
    (hstored : m.store.integrations = .ok stored) (saves : List Save)
    (hsaves : ∀ ig ∈ savedIntegrations saves, ig.ReadsBack) :
    (m.saveAll saves).store.integrations = .ok (stored ++ savedIntegrations saves) := by
  refine (m.integrations_saveAll_eq_ok_iff stored hstored saves _).mpr ⟨_, rfl, ?_⟩
  rw [List.forall₂_same]
  exact fun ig hig => (mapError_eq_ok_iff _ _ _).mp (hsaves ig hig "").1

end Memory

/-! ### The relations -/

namespace Relations

/-- The row of a source. -/
def sourceRow (s : Source) : String × String × String :=
  (s.name, String.ofList (Text.decimal s.chainId.toNat), s.url.text)

/-- The row of an integration. -/
def integrationRow (ig : Integration) : String × Json.Value :=
  (ig.name, ig.value)

/-- The relations that hold these sources and these integrations. -/
def ofRecords (sources : List Source) (igs : List Integration) : Relations :=
  ⟨sources.map sourceRow, igs.map integrationRow⟩

/-- By what the relation tells sources apart. -/
def sourceKey (s : Source) : String × UInt64 :=
  (s.name, s.chainId)

-- No two numbers have the same text.
theorem decimal_eq_iff (m n : UInt64) :
    String.ofList (Text.decimal m.toNat) = String.ofList (Text.decimal n.toNat) ↔ m = n := by
  refine ⟨fun h => ?_, fun h => h ▸ rfl⟩
  have hread := Text.readUInt64_decimal m
  rw [h, Text.readUInt64_decimal] at hread
  exact (Option.some.inj hread).symm

theorem insertSource_map (kept : List Source) (s : Source) :
    insertSource (kept.map sourceRow) s.name (String.ofList (Text.decimal s.chainId.toNat))
        s.url.text =
      (keepFirst sourceKey kept s).map sourceRow := by
  have hthere : (kept.map sourceRow).any (fun row =>
      row.1 = s.name && row.2.1 = String.ofList (Text.decimal s.chainId.toNat)) =
        kept.any fun old => sourceKey old == sourceKey s := by
    rw [List.any_map]
    refine List.any_congr rfl fun old => ?_
    change (decide (old.name = s.name) && decide (String.ofList (Text.decimal old.chainId.toNat) =
      String.ofList (Text.decimal s.chainId.toNat))) = _
    rw [Bool.eq_iff_iff, Bool.and_eq_true, decide_eq_true_iff, decide_eq_true_iff, decimal_eq_iff,
      beq_iff_eq]
    exact Iff.of_eq (Prod.mk.injEq _ _ _ _).symm
  rw [insertSource, hthere, keepFirst]
  split
  · rfl
  · rw [List.map_append]
    rfl

theorem insertIntegration_map (kept : List Integration) (ig : Integration) :
    insertIntegration (kept.map integrationRow) ig.name ig.value =
      (keepLast (·.name) kept ig).map integrationRow := by
  have hthere : (kept.map integrationRow).any (fun row => row.1 = ig.name) =
      kept.any fun old => old.name == ig.name := by
    rw [List.any_map]
    rfl
  rw [insertIntegration, hthere, keepLast]
  split
  · rw [List.map_map, List.map_map]
    refine List.map_congr_left fun old _ => ?_
    change (if (integrationRow old).1 = ig.name then integrationRow ig else integrationRow old) =
      integrationRow (if old.name == ig.name then ig else old)
    by_cases h : old.name = ig.name
    · rw [if_pos (beq_iff_eq.mpr h)]
      exact if_pos h
    · rw [if_neg fun heq => h (eq_of_beq heq)]
      exact if_neg h
  · rw [List.map_append]
    rfl

-- One save is one record.
theorem save_ofRecords (sources : List Source) (igs : List Integration) (save : Save) :
    database.save (ofRecords sources igs) save =
      ofRecords ((savedSources [save]).foldl (keepFirst sourceKey) sources)
        ((savedIntegrations [save]).foldl (keepLast (·.name)) igs) := by
  cases save with
  | source s => exact congrArg (Relations.mk · _) (insertSource_map sources s)
  | integration ig => exact congrArg (Relations.mk _) (insertIntegration_map igs ig)

/-- The relations after saves hold the first source of each name and chain, and the last
    integration of each name. -/
theorem saveAll_ofRecords (sources : List Source) (igs : List Integration) (saves : List Save) :
    database.saveAll (ofRecords sources igs) saves =
      ofRecords ((savedSources saves).foldl (keepFirst sourceKey) sources)
        ((savedIntegrations saves).foldl (keepLast (·.name)) igs) := by
  induction saves generalizing sources igs with
  | nil => rfl
  | cons save rest ih =>
      rw [Database.saveAll, List.foldl_cons, ← Database.saveAll, save_ofRecords, ih]
      cases save <;> rfl

-- A row is read as what is kept of its source.
theorem source_sourceRow (s : Source) :
    SourceRow.source ⟨some (sourceRow s).1, some (sourceRow s).2.1, some (sourceRow s).2.2⟩ =
      .ok s.kept :=
  (SourceRow.source_eq_ok_iff _ _).mpr (isOf_savedRow s)

-- Of the integration only its document is read.
theorem integration_integrationRow (ig : Integration) (h : ig.ReadsBack) :
    IntegrationRow.integration ⟨some (integrationRow ig).1, some (integrationRow ig).2⟩ =
      .ok ig := by
  simp only [IntegrationRow.integration, bind_eq_ok_iff]
  exact ⟨_, rfl, _, rfl, (h _).2⟩

theorem sources_ofRecords (sources : List Source) (igs : List Integration) :
    (database.store (ofRecords sources igs)).sources = .ok (sources.map Source.kept) := by
  have hread : (database.store (ofRecords sources igs)).sources =
      ((sources.map sourceRow).map fun row =>
        (⟨some row.1, some row.2.1, some row.2.2⟩ : SourceRow)).mapM SourceRow.source := rfl
  rw [hread, mapM_eq_ok_iff, List.forall₂_map_left_iff, List.forall₂_map_left_iff,
    List.forall₂_map_right_iff, List.forall₂_same]
  exact fun s _ => source_sourceRow s

theorem integrations_ofRecords (sources : List Source) (igs : List Integration)
    (higs : ∀ ig ∈ igs, ig.ReadsBack) :
    (database.store (ofRecords sources igs)).integrations = .ok igs := by
  have hread : (database.store (ofRecords sources igs)).integrations =
      ((igs.map integrationRow).map fun row =>
        (⟨some row.1, some row.2⟩ : IntegrationRow)).mapM IntegrationRow.integration := rfl
  rw [hread, mapM_eq_ok_iff, List.forall₂_map_left_iff, List.forall₂_map_left_iff,
    List.forall₂_same]
  exact fun ig hig => integration_integrationRow ig (higs ig hig)

end Relations

end EventTables
