import EventTables.Proofs.Schema.Safety

/-!
# Validating Again

A second pass over what the first one left changes nothing and has the same outcome.

A pass that fails leaves a configuration that is derived up to some integration and as
it was declared behind it, and nothing tells a later pass where the first one stopped.
So the second pass derives integrations a second time. That leads nowhere new
(`derive_derive`): all that derivation adds has a name, and whatever has its name is not
added again. The inferred group stands in its own way, as a table that has a group gets
none. Texts that derivation adds are allowed, so the check of the names that came before
the first pass comes out as it did. What is checked is then the same integrations in
the same order, and the first that is refused is the same one.

## Theorems

* `derive_derive`: Deriving twice is deriving once.
* `validateAll_validateAll`: A second pass over the integrations.
* `Config.validate_idempotent`: A second pass over a configuration.
-/

namespace EventTables

namespace Integration

-- What is there already is not added again.
theorem provided_of_present (ig : Integration) (cs : List Column)
    (hcolumns : ∀ c ∈ cs, c.name ∈ ig.table.columnNames)
    (hblock : ∀ c ∈ cs, c.name ∈ ig.block.map (·.name)) : ig.provided cs = ig := by
  have hnoColumn : (cs.filter fun c => !ig.table.hasColumn c.name) = [] := by
    refine List.filter_eq_nil_iff.mpr fun c hc => ?_
    rw [(Table.hasColumn_iff _ _).mpr (hcolumns c hc)]
    decide
  have hnoField : (cs.filter fun c => !ig.hasBlockField c.name) = [] := by
    refine List.filter_eq_nil_iff.mpr fun c hc => ?_
    rw [(hasBlockField_iff _ _).mpr (hblock c hc)]
    decide
  rw [provided, hnoColumn, hnoField, List.map_nil, List.append_nil, List.append_nil]

-- What is required depends on the event alone, and that stays.
theorem requiredColumns_derive (ig : Integration) :
    ig.derive.requiredColumns = ig.requiredColumns := by
  rw [requiredColumns, derive_event, ← requiredColumns]

theorem addRequired_derive (ig : Integration) : ig.derive.addRequired = ig.derive := by
  have hrequires : ∀ c ∈ ig.requiredColumns, ig.Requires c.name := fun c hc =>
    (requires_iff ig c.name).mpr (List.mem_map_of_mem hc)
  rw [addRequired_eq, requiredColumns_derive]
  refine provided_of_present _ _ (fun c hc => ?_) fun c hc => ?_
  · exact (mem_columnNames_derive ig c.name).mpr (Or.inr (hrequires c hc))
  · exact (mem_blockNames_derive ig c.name).mpr (Or.inr (hrequires c hc))

theorem derive_unique_ne_nil (ig : Integration) : ig.derive.table.unique ≠ [] := by
  rw [derive_unique]
  by_cases h : ig.table.unique = []
  · rw [if_pos h]
    exact List.cons_ne_nil _ _
  · rwa [if_neg h]

/-- Deriving an integration twice is deriving it once. -/
theorem derive_derive (ig : Integration) : ig.derive.derive = ig.derive := by
  have hgroups := Table.inferUnique_of_declared _ (derive_unique_ne_nil ig)
  rw [derive, addRequired_derive, inferUnique, hgroups]

theorem NamesAllowed.derive {ig : Integration} (h : ig.NamesAllowed) : ig.derive.NamesAllowed := by
  refine ⟨?_, (namesAllowed_derive ig h).1, (namesAllowed_derive ig h).2⟩
  rw [derive_name]
  exact h.1

end Integration

/-! ### Two passes -/

/-- A second pass over the integrations stops where the first one did, and nothing is left
    to be derived up to there. -/
theorem validateAll_validateAll (igs : List Integration) :
    validateAll (validateAll igs).1 = validateAll igs := by
  induction igs with
  | nil => rfl
  | cons ig igs ih =>
      rw [validateAll]
      cases hcheck : ig.derive.checkReferences with
      | ok u =>
          simp only [validateAll, Integration.derive_derive, hcheck, ih]
      | error e =>
          simp only [validateAll, Integration.derive_derive, Integration.derive_name, hcheck]

namespace Config

/-- Validating once more what validation left, of any configuration and whatever the
    outcome was, leaves the same configuration and has the same outcome. -/
theorem validate_idempotent (c : Config) : c.validate.1.validate = c.validate := by
  rcases hnames : c.checkNames with e | u
  · -- Nothing was changed, and the names are refused again.
    rw [validate_of_checkNames_error c e hnames]
    exact validate_of_checkNames_error c e hnames
  · have hallowed := (checkNames_ok_iff c).mp hnames
    have hagain : Config.checkNames { c with integrations := (validateAll c.integrations).1 } =
        .ok () := (checkNames_ok_iff _).mpr
      ⟨forall_mem_validateAll _ (fun _ h => h.derive) c.integrations hallowed.1, hallowed.2⟩
    rw [validate_of_checkNames_ok c hnames, validate_of_checkNames_ok _ hagain]
    simp only [validateAll_validateAll]

end Config

end EventTables
