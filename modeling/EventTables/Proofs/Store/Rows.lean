import EventTables.Proofs.Outcome
import EventTables.Proofs.Text.Decimal
import EventTables.Store.Database

/-!
# Reading Rows of Sources

What comes of the rows that a database gives for the sources.

A row is of a source if no cell of it is null and the text of its chain is a numeral of
a number with room in 64 bits. A row that is of no source has at least one fault and may
have several, in each cell one. They are not all alike: a chain that is not understood is
reported together with the name of the source, so the name has to be there for that, while
the address is only looked at when the chain is settled (`SourceRow.Fault`). One row that is
of no source is enough for nothing to be read. There is a source for every row or there is
none at all, and what is reported is the fault of the first row that has one.

A chain may be any number of 64 bits and each of them is written in digits when it is saved,
so no row that was saved is ever one of those.

## Main definitions

* `SourceRow.IsOf`, `SourceRow.IsReadable`: The row is that of a source.
* `SourceRow.Fault`: What is reported of a row.
* `ReadsRows`: What reading all rows gives.
* `Source.savedRow`: The row of a source that is saved.

## Theorems

* `source_eq_ok_iff`, `source_eq_error_iff`: What one row is read as.
* `readsRows_mapM`: What reading row by row gives.
* `isOf_savedRow`: What is saved is read.
* `Database.sources_readsRows`: The sources that a database gives.
-/

namespace EventTables

/-! ### One row -/

/-- The error of a cell of a source that is null. -/
def nullCell (column : String) : Error :=
  .storage "scanning source" ("error occurred while decoding column " ++ Text.quoteText column ++
    ": unexpected null; try decoding as an `Option`")

/-- The error of a chain that is no number of 64 bits. -/
def badChain (name text : String) : Error :=
  .storage "scanning source"
    ("source " ++ name ++ ": chain_id " ++ Text.quoteText text ++ " is not a u64")

namespace SourceRow

/-- The row is that of the source, of which nothing but name, chain and address is known. -/
def IsOf (r : SourceRow) (s : Source) : Prop :=
  ∃ name text url chain, r = ⟨some name, some text, some url⟩ ∧
    Text.IsNumeral text chain.toNat ∧ s = ⟨name, chain, ⟨url⟩, 0, 0, 0, 0⟩

/-- No cell of the row is null, and the chain is a numeral of 64 bits. -/
def IsReadable (r : SourceRow) : Prop :=
  ∃ name text url n, r = ⟨some name, some text, some url⟩ ∧ n < 2 ^ 64 ∧ Text.IsNumeral text n

/-- What is reported of a row. The cells are looked at in their order, that of the chain for
    being there and then for its text. -/
inductive Fault : SourceRow → Error → Prop where
  | name {chainId url : Option String} : Fault ⟨none, chainId, url⟩ (nullCell "name")
  | chainId {name : String} {url : Option String} :
      Fault ⟨some name, none, url⟩ (nullCell "chain_id")
  | format {name text : String} {url : Option String}
      (htext : ∀ n < 2 ^ 64, ¬ Text.IsNumeral text n) :
      Fault ⟨some name, some text, url⟩ (badChain name text)
  | url {name text : String} {n : Nat} (hn : n < 2 ^ 64) (htext : Text.IsNumeral text n) :
      Fault ⟨some name, some text, none⟩ (nullCell "url")

theorem isReadable_iff (r : SourceRow) : r.IsReadable ↔ ∃ s, r.IsOf s := by
  constructor
  · rintro ⟨name, text, url, n, rfl, hn, htext⟩
    rw [← UInt64.toNat_ofNat_of_lt' hn] at htext
    exact ⟨_, name, text, url, UInt64.ofNat n, rfl, htext, rfl⟩
  · rintro ⟨s, name, text, url, chain, rfl, htext, _⟩
    exact ⟨name, text, url, chain.toNat, rfl, chain.toNat_lt, htext⟩

theorem chainIdOf_eq_ok_iff (name text : String) (chain : UInt64) :
    chainIdOf name text = .ok chain ↔ Text.IsNumeral text chain.toNat := by
  rw [← Text.readUInt64_eq_some_iff, chainIdOf]
  cases Text.readUInt64 text with
  | none => exact iff_of_false (fun h => nomatch h) fun h => nomatch h
  | some n =>
      exact ⟨fun h => congrArg some (Except.ok.inj h),
        fun h => congrArg Except.ok (Option.some.inj h)⟩

theorem chainIdOf_eq_error_iff (name text : String) (e : Error) :
    chainIdOf name text = .error e ↔
      (∀ n < 2 ^ 64, ¬ Text.IsNumeral text n) ∧ e = badChain name text := by
  rw [← Text.readUInt64_eq_none_iff, chainIdOf]
  cases Text.readUInt64 text with
  | none =>
      exact ⟨fun h => ⟨rfl, (Except.error.inj h).symm⟩, fun h => congrArg Except.error h.2.symm⟩
  | some n => exact iff_of_false (fun h => nomatch h) fun h => nomatch h.1

/-- A row is read as the source that it is the row of. -/
theorem source_eq_ok_iff (r : SourceRow) (s : Source) : r.source = .ok s ↔ r.IsOf s := by
  have hcell : ∀ (column : String) (cell : Option String) (a : String),
      cellOf "scanning source" column cell = .ok a ↔ cell = some a := by
    intro column cell a
    cases cell with
    | none => exact iff_of_false (fun h => nomatch h) fun h => nomatch h
    | some b =>
        exact ⟨fun h => congrArg some (Except.ok.inj h),
          fun h => congrArg Except.ok (Option.some.inj h)⟩
  simp only [source, bind_eq_ok_iff, hcell, chainIdOf_eq_ok_iff]
  constructor
  · rintro ⟨name, hname, text, htext, chain, hchain, url, hurl, hs⟩
    refine ⟨name, text, url, chain, ?_, hchain, (Except.ok.inj hs).symm⟩
    rw [← hname, ← htext, ← hurl]
  · rintro ⟨name, text, url, chain, rfl, hchain, rfl⟩
    exact ⟨name, rfl, text, rfl, chain, hchain, url, rfl, rfl⟩

/-- A row that is of no source is reported with its first fault. -/
theorem source_eq_error_iff (r : SourceRow) (e : Error) : r.source = .error e ↔ r.Fault e := by
  constructor
  · intro h
    rcases r with ⟨_ | name, _ | text, url⟩
    · exact Except.error.inj h ▸ .name
    · exact Except.error.inj h ▸ .name
    · exact Except.error.inj h ▸ .chainId
    · rcases hchain : chainIdOf name text with cause | chain
      · -- The text is at fault, whatever the address is.
        have hcause : cause = e := by
          change (chainIdOf name text >>= _) = Except.error e at h
          rw [hchain] at h
          exact Except.error.inj h
        rcases (chainIdOf_eq_error_iff name text e).mp (hcause ▸ hchain) with ⟨htext, rfl⟩
        exact .format htext
      · have hnumeral := (chainIdOf_eq_ok_iff name text chain).mp hchain
        change (chainIdOf name text >>= _) = Except.error e at h
        rw [hchain] at h
        cases url with
        | none => exact Except.error.inj h ▸ .url chain.toNat_lt hnumeral
        | some url => exact nomatch h
  · intro h
    cases h with
    | name => rfl
    | chainId => rfl
    | @format name text url htext =>
        change (chainIdOf name text >>= _) = _
        rw [(chainIdOf_eq_error_iff name text _).mpr ⟨htext, rfl⟩]
        rfl
    | @url name text n hn htext =>
        rw [← UInt64.toNat_ofNat_of_lt' hn] at htext
        change (chainIdOf name text >>= _) = _
        rw [(chainIdOf_eq_ok_iff name text _).mpr htext]
        rfl

end SourceRow

/-! ### All rows -/

/-- What reading rows gives. -/
structure ReadsRows (rows : List SourceRow) (result : Except Error (List Source)) : Prop where
  /-- All rows are read or none. -/
  succeeds_iff : (∃ sources, result = .ok sources) ↔ ∀ r ∈ rows, r.IsReadable
  /-- There is one source for each row, in order. -/
  each_iff : ∀ sources, result = .ok sources ↔ List.Forall₂ SourceRow.IsOf rows sources
  /-- The error is that of the first row that cannot be read. -/
  fails_iff : ∀ e, result = .error e ↔ ∃ before r after, rows = before ++ r :: after ∧
    (∀ earlier ∈ before, earlier.IsReadable) ∧ r.Fault e

theorem readsRows_mapM (rows : List SourceRow) :
    ReadsRows rows (rows.mapM SourceRow.source) := by
  have hreadable : ∀ r : SourceRow, (∃ s, r.source = .ok s) ↔ r.IsReadable := by
    intro r
    simp only [SourceRow.source_eq_ok_iff, SourceRow.isReadable_iff]
  refine ⟨⟨?_, fun hrows => ?_⟩, fun sources => ?_, fun e => ?_⟩
  · rintro ⟨sources, h⟩ r hr
    rcases exists_of_mem_right ((mapM_eq_ok_iff _ _ _).mp h).flip r hr with ⟨s, _, hs⟩
    exact (hreadable r).mp ⟨s, hs⟩
  · rcases hresult : rows.mapM SourceRow.source with e | sources
    · rcases (mapM_eq_error_iff _ _ _).mp hresult with ⟨before, r, after, rfl, _, hr⟩
      rcases (hreadable r).mpr (hrows r (List.mem_append_right before List.mem_cons_self)) with
        ⟨s, hs⟩
      exact nomatch hr.symm.trans hs
    · exact ⟨sources, rfl⟩
  · simp only [mapM_eq_ok_iff, SourceRow.source_eq_ok_iff]
  · simp only [mapM_eq_error_iff, hreadable, SourceRow.source_eq_error_iff]

/-- The row that keeps the values that are sent to save a source. -/
def Source.savedRow (s : Source) : SourceRow :=
  match (Command.ofSource s).parameters with
  | [name, chainId, url] => ⟨some name, some chainId, some url⟩
  | _ => ⟨none, none, none⟩

/-- The row is that of the source without what is not sent. -/
theorem isOf_savedRow (s : Source) : s.savedRow.IsOf ⟨s.name, s.chainId, s.url, 0, 0, 0, 0⟩ :=
  ⟨s.name, _, s.url.text, s.chainId, rfl,
    (Text.readUInt64_eq_some_iff _ _).mp (Text.readUInt64_decimal s.chainId), rfl⟩

namespace Database

/-- A database that takes the selection of sources has all its rows read or none. There is one
    source for each row, with nothing but name, chain and address, or the first fault of the
    first row that cannot be read is the result. If the rows are those of sources that were
    saved, these are read with their names, chains and addresses. -/
theorem sources_readsRows {σ : Type} (db : Database σ) (s : σ)
    (haccepted : (db.take s .selectSources).1 = .ok ()) :
    ReadsRows (db.sourceRows (db.take s .selectSources).2) (db.sources s).1 ∧
    ∀ saved : List Source,
      db.sourceRows (db.take s .selectSources).2 = saved.map Source.savedRow →
      (db.sources s).1 =
        .ok (saved.map fun src => ⟨src.name, src.chainId, src.url, 0, 0, 0, 0⟩) := by
  have hread : (db.sources s).1 =
      (db.sourceRows (db.take s .selectSources).2).mapM SourceRow.source := by
    rw [sources, send, haccepted]
    rfl
  have hrows := readsRows_mapM (db.sourceRows (db.take s .selectSources).2)
  rw [hread]
  refine ⟨hrows, fun saved hsaved => (hrows.each_iff _).mpr ?_⟩
  rw [hsaved, List.forall₂_map_left_iff, List.forall₂_map_right_iff, List.forall₂_same]
  exact fun src _ => isOf_savedRow src

/-- A database that has these rows of sources and never changes. -/
def showing (rows : List SourceRow) : Database Unit where
  take s _ := (.ok (), s)
  sourceRows _ := rows
  integrationRows _ := []

/-- A row that can be read, one with a chain that is by one too great and without an address,
    and one without anything. -/
def spoiledRows : List SourceRow :=
  [⟨some "main", some "+0001", some "https://main"⟩,
    ⟨some "far", some "18446744073709551616", none⟩,
    ⟨none, none, none⟩]

/-- A source with the greatest chain there is. -/
def lastSource : Source := ⟨"last", 18446744073709551615, ⟨"$LAST"⟩, 5, 0, 0, 0⟩

/-- The chain of the second row is reported. The greatest chain there is comes back. -/
theorem sources_readsRows_spoiled :
    ((showing spoiledRows).take () .selectSources).1 = .ok () ∧
      (∃ before r after, spoiledRows = before ++ r :: after ∧
        (∀ earlier ∈ before, earlier.IsReadable) ∧
        r.Fault (badChain "far" "18446744073709551616")) ∧
      ((showing [lastSource.savedRow]).sources ()).1 =
        .ok [⟨"last", 18446744073709551615, ⟨"$LAST"⟩, 0, 0, 0, 0⟩] := by
  have hspoiled := (sources_readsRows (showing spoiledRows) () rfl).1
  refine ⟨rfl, (hspoiled.fails_iff _).mp rfl, ?_⟩
  exact (sources_readsRows (showing [lastSource.savedRow]) () rfl).2 [lastSource] rfl

end Database

end EventTables
