import EventTables.Proofs.Derivation
import EventTables.Proofs.Identifier
import EventTables.Proofs.Reference

/-!
# Laws of Validation

Which configurations validation accepts, and what it leaves of them.

The pass derives an integration before it checks it, so what is checked is not
what was declared. `Integration.WellReferenced` is the condition on the declared
integration that comes out of it: the same as the check's own, but for a
reference to a name that derivation provides for, which needs no column. The
columns and block fields that derivation adds are never at fault themselves. Each
has a new name, and each added block field is written to a column that is added
with it or was declared.

## Main definitions

* `Integration.WellReferenced`: What validation asks of an integration as it is
  declared.
* `Integration.pricing`, `Config.sharing`: Two integrations of one table.

## Theorems

* `derive_checkReferences_ok_iff`: When a derived integration passes its check.
* `validateAll_ok_iff`, `validateAll_fst`: The pass over all integrations.
* `forall_mem_validateAll`: What derivation keeps is kept by any pass.
* `validate_ok_iff`: The pass over a configuration.
* `validate_fst`, `mem_validate_fst`: What an accepting pass leaves.
* `validate_accepts_iff`: Acceptance, told of the configuration as declared.
-/

namespace EventTables

namespace Integration

/-- What validation asks of an integration as it is declared: no list repeats a
    name, and what is written to is a declared column or one that derivation
    provides for. -/
structure WellReferenced (ig : Integration) : Prop where
  columns : ig.table.columnNames.Nodup
  inputs : (ig.event.inputs.map (·.name)).Nodup
  block : (ig.block.map (·.name)).Nodup
  writes : ig.WritesWithin fun name => name ∈ ig.table.columnNames ∨ ig.Requires name

theorem not_requires_empty (ig : Integration) : ¬ ig.Requires "" := by
  rintro (h | ⟨h, _⟩ | ⟨h, _⟩)
  · exact absurd h (by decide)
  · exact absurd h (by decide)
  · exact absurd h (by decide)

-- What a derived integration writes is within its own columns exactly if the
-- declared one writes within the declared columns and those provided for. The
-- block fields that derivation adds are written to columns of their own
-- names.
theorem derive_writesWithin_iff (ig : Integration) :
    ig.derive.WritesWithin (· ∈ ig.derive.table.columnNames) ↔
      ig.WritesWithin fun name => name ∈ ig.table.columnNames ∨ ig.Requires name := by
  simp only [WritesWithin, derive_event, mem_columnNames_derive, mem_block_derive]
  refine and_congr_right fun _ => ⟨fun h b hb => h b (Or.inl hb), fun h b hb => ?_⟩
  -- A block field that is added has the name of its column.
  rcases hb with hb | ⟨hcolumn, hreq, _⟩
  · exact h b hb
  · rw [hcolumn]
    exact ⟨fun hempty => not_requires_empty ig (hempty ▸ hreq), Or.inr hreq⟩

theorem derive_checkReferences_ok_iff (ig : Integration) :
    ig.derive.checkReferences = .ok () ↔ ig.WellReferenced := by
  rw [checkReferences_ok_iff, nodup_columnNames_derive, nodup_blockNames_derive, derive_event,
    derive_writesWithin_iff]
  exact ⟨fun ⟨hc, hi, hb, hw⟩ => ⟨hc, hi, hb, hw⟩, fun ⟨hc, hi, hb, hw⟩ => ⟨hc, hi, hb, hw⟩⟩

end Integration

/-! ### The pass over a configuration -/

theorem validateAll_ok_iff (igs : List Integration) :
    (validateAll igs).2 = .ok () ↔ ∀ ig ∈ igs, ig.derive.checkReferences = .ok () := by
  induction igs with
  | nil => exact ⟨fun _ ig hig => absurd hig List.not_mem_nil, fun _ => rfl⟩
  | cons ig rest ih =>
      rw [List.forall_mem_cons, ← ih, validateAll]
      cases ig.derive.checkReferences with
      | ok u => exact ⟨fun h => ⟨rfl, h⟩, fun h => h.2⟩
      | error e => exact ⟨fun h => (nomatch h), fun h => (nomatch h.1)⟩

-- An accepting pass has derived every integration.
theorem validateAll_fst (igs : List Integration) (h : (validateAll igs).2 = .ok ()) :
    (validateAll igs).1 = igs.map Integration.derive := by
  induction igs with
  | nil => rfl
  | cons ig rest ih =>
      rw [validateAll] at h ⊢
      cases hcheck : ig.derive.checkReferences with
      | ok u =>
          rw [hcheck] at h
          rw [List.map_cons, ← ih h]
      | error e =>
          -- A fault ends the pass, which is then not an accepting one.
          rw [hcheck] at h
          exact absurd h (by simp only [reduceCtorEq, not_false_eq_true])

-- An integration that a pass leaves is a declared one or derived from one, whatever
-- the outcome is.
theorem forall_mem_validateAll (P : Integration → Prop) (hP : ∀ ig, P ig → P ig.derive)
    (igs : List Integration) (h : ∀ ig ∈ igs, P ig) : ∀ ig ∈ (validateAll igs).1, P ig := by
  induction igs with
  | nil => exact h
  | cons ig igs ih =>
      rcases List.forall_mem_cons.mp h with ⟨hig, higs⟩
      rw [validateAll]
      split
      · exact List.forall_mem_cons.mpr ⟨hP ig hig, ih higs⟩
      · exact List.forall_mem_cons.mpr ⟨hP ig hig, higs⟩

namespace Config

-- The pass over the integrations is taken up only if the names are allowed.
theorem validate_of_checkNames_error (c : Config) (e : Error) (h : c.checkNames = .error e) :
    c.validate = (c, .error e) := by
  rw [validate, h]

theorem validate_of_checkNames_ok (c : Config) (h : c.checkNames = .ok ()) :
    c.validate = ({ c with integrations := (validateAll c.integrations).1 },
      (validateAll c.integrations).2) := by
  rw [validate, h]

theorem validate_ok_iff (c : Config) :
    c.validate.2 = .ok () ↔
      c.NamesAllowed ∧ ∀ ig ∈ c.integrations, ig.derive.checkReferences = .ok () := by
  rw [← checkNames_ok_iff, ← validateAll_ok_iff, validate]
  cases c.checkNames with
  | ok u => exact ⟨fun h => ⟨rfl, h⟩, fun h => h.2⟩
  | error e => exact ⟨fun h => (nomatch h), fun h => (nomatch h.1)⟩

/-- An accepting pass leaves the configuration with every integration
    derived. -/
theorem validate_fst (c : Config) (h : c.validate.2 = .ok ()) :
    c.validate.1 = { c with integrations := c.integrations.map Integration.derive } := by
  rcases (validate_ok_iff c).mp h with ⟨hnames, hrefs⟩
  rw [validate, (checkNames_ok_iff c).mpr hnames]
  simp only [validateAll_fst c.integrations ((validateAll_ok_iff c.integrations).mpr hrefs)]

/-- What is known of an integration that an accepting pass leaves: it is derived
    from a declared one whose names are allowed, and it passes its own check. -/
theorem mem_validate_fst (c : Config) (h : c.validate.2 = .ok ()) (ig : Integration)
    (hig : ig ∈ c.validate.1.integrations) :
    ∃ declared ∈ c.integrations, ig = declared.derive ∧ declared.NamesAllowed ∧
      declared.WellReferenced := by
  rw [validate_fst c h] at hig
  rcases List.mem_map.mp hig with ⟨declared, hmem, rfl⟩
  rcases (validate_ok_iff c).mp h with ⟨hnames, hrefs⟩
  exact ⟨declared, hmem, rfl, hnames.1 declared hmem,
    (Integration.derive_checkReferences_ok_iff declared).mp (hrefs declared hmem)⟩

/-- Validation accepts a configuration exactly if its names are allowed and each
    of its integrations, as declared, is well referenced. A configuration whose
    integrations pass the check of references without derivation is accepted,
    and a column exists after derivation exactly if it was declared or is
    provided for. -/
theorem validate_accepts_iff (c : Config) :
    (c.validate.2 = .ok () ↔
      c.NamesAllowed ∧ ∀ ig ∈ c.integrations, ig.WellReferenced) ∧
    (c.checkNames = .ok () → (∀ ig ∈ c.integrations, ig.checkReferences = .ok ()) →
      c.validate.2 = .ok ()) ∧
    ∀ (ig : Integration) (name : String),
      ig.derive.table.hasColumn name = true ↔
        ig.table.hasColumn name = true ∨ ig.Requires name := by
  have hiff : c.validate.2 = .ok () ↔
      c.NamesAllowed ∧ ∀ ig ∈ c.integrations, ig.WellReferenced := by
    simp only [validate_ok_iff, Integration.derive_checkReferences_ok_iff]
  refine ⟨hiff, fun hnames hrefs => hiff.mpr ⟨(checkNames_ok_iff c).mp hnames, ?_⟩, ?_⟩
  · intro ig hig
    rcases (Integration.checkReferences_ok_iff ig).mp (hrefs ig hig) with ⟨hc, hi, hb, hw⟩
    exact ⟨hc, hi, hb, fun i hi name hname => Or.inl (hw.1 i hi name hname),
      fun b hb => ⟨(hw.2 b hb).1, Or.inl (hw.2 b hb).2⟩⟩
  · intro ig name
    rw [Table.hasColumn_iff, Table.hasColumn_iff, Integration.mem_columnNames_derive]

end Config

/-! ### Two integrations of one table -/

/-- An integration that writes one price of an event to a table, with a unique
    group of columns that are only derived. -/
def Integration.pricing (name column : String) : Integration :=
  { Integration.withTable name
      ⟨"prices", [⟨column, "numeric"⟩], [["block_num", "log_idx"]]⟩ with
    event := (Event.named "Quote").addInput
      { Input.plain "price" "uint256" with column := some column } }

/-- Two integrations that each declare a part of one table. -/
def Config.sharing : Config :=
  { Config.empty with
    integrations := [Integration.pricing "bids" "bid", Integration.pricing "asks" "ask"] }

end EventTables
