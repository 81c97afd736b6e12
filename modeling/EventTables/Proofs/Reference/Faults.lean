import EventTables.Proofs.Bookkeeping
import EventTables.Proofs.Reference

/-!
# Faults of References

Which fault is reported where an integration has several.

Everything that can be wrong with an integration's references can be wrong at once, and
only one fault is reported. The kinds of faults are tried one after the other, so a fault
shows only if there is none of an earlier kind anywhere in the integration, and of one kind
the first in the order of the list does. Of a repeated name that is not the place where it
stands first but the first place at which some name comes again (`RepeatsFirst`). There
what is in front repeats nothing, so only one name can be meant.

An input that is written to no column has no part in this but by its name. The check looks
at it when it compares names and passes over it when it looks for columns. So such inputs
may be changed, moved, added or left out, and nothing else is reported as long as the same
name is the first to be repeated.

## Main definitions

* `RepeatsFirst`: The name at the first place that repeats an earlier one.
* `Integration.Resolves`, `Integration.BlockResolves`: There is a column to write to.
* `Integration.FirstFault`: The fault that comes first.
* `Integration.withInputs`: The integration with other inputs.

## Theorems

* `firstRepeat?_eq_some_iff`: Which name is found to be repeated.
* `checkReferences_eq_error_iff`: The first fault is reported.
* `checkReferences_withInputs`: What other inputs do not change.
* `checkReferences_reports`: The whole outcome of the check.
-/

namespace EventTables

/-! ### Repeated names -/

/-- The name stands at the first place of the list that repeats an earlier one. -/
def RepeatsFirst (names : List String) (n : String) : Prop :=
  ∃ before after, names = before ++ n :: after ∧ before.Nodup ∧ n ∈ before

-- The names seen so far stand in for the part of the list that has been passed.
theorem repeatAfter?_eq_some_iff (seen names : List String) (n : String) :
    repeatAfter? seen names = some n ↔ ∃ before after, names = before ++ n :: after ∧
      before.Nodup ∧ (∀ b ∈ before, b ∉ seen) ∧ (n ∈ before ∨ n ∈ seen) := by
  induction names generalizing seen with
  | nil =>
      refine iff_of_false (fun h => nomatch h) ?_
      rintro ⟨before, after, hsplit, _⟩
      exact absurd hsplit.symm
        (List.append_ne_nil_of_right_ne_nil before (List.cons_ne_nil n after))
  | cons m rest ih =>
      by_cases hm : m ∈ seen
      · rw [repeatAfter?, if_pos hm]
        constructor
        · intro h
          rcases Option.some.inj h with rfl
          exact ⟨[], rest, rfl, List.nodup_nil, List.forall_mem_nil _, Or.inr hm⟩
        · -- Nothing can have been passed before the first name.
          rintro ⟨_ | ⟨b, before⟩, after, hsplit, _, hnew, _⟩
          · rw [(List.cons.inj hsplit).1]
          · rcases List.cons.inj hsplit with ⟨rfl, _⟩
            exact absurd hm (hnew m List.mem_cons_self)
      · rw [repeatAfter?, if_neg hm, ih]
        constructor
        · rintro ⟨before, after, rfl, hnodup, hnew, hn⟩
          refine ⟨m :: before, after, rfl, List.nodup_cons.mpr ⟨fun h => ?_, hnodup⟩,
            List.forall_mem_cons.mpr ⟨hm, fun b hb h => ?_⟩, ?_⟩
          · exact hnew m h List.mem_cons_self
          · exact hnew b hb (List.mem_cons_of_mem _ h)
          · rcases hn with hn | hn
            · exact Or.inl (List.mem_cons_of_mem _ hn)
            · rcases List.mem_cons.mp hn with rfl | hn
              · exact Or.inl List.mem_cons_self
              · exact Or.inr hn
        · rintro ⟨_ | ⟨b, before⟩, after, hsplit, hnodup, hnew, hn⟩
          · rcases List.cons.inj hsplit with ⟨rfl, _⟩
            exact absurd (hn.resolve_left List.not_mem_nil) hm
          · rcases List.cons.inj hsplit with ⟨rfl, rfl⟩
            rcases List.nodup_cons.mp hnodup with ⟨hfirst, hnodup⟩
            rcases List.forall_mem_cons.mp hnew with ⟨_, hnew⟩
            refine ⟨before, after, rfl, hnodup, fun b hb h => ?_, ?_⟩
            · rcases List.mem_cons.mp h with rfl | h
              · exact hfirst hb
              · exact hnew b hb h
            · rcases hn with hn | hn
              · rcases List.mem_cons.mp hn with rfl | hn
                · exact Or.inr List.mem_cons_self
                · exact Or.inl hn
              · exact Or.inr (List.mem_cons_of_mem _ hn)

theorem firstRepeat?_eq_some_iff (names : List String) (n : String) :
    firstRepeat? names = some n ↔ RepeatsFirst names n := by
  rw [firstRepeat?, repeatAfter?_eq_some_iff, RepeatsFirst]
  simp only [List.not_mem_nil, not_false_eq_true, implies_true, true_and, or_false]

theorem checkUnique_error_iff (kind : NameKind) (names : List String) (e : Error) :
    checkUnique kind names = .error e ↔ ∃ n, RepeatsFirst names n ∧ e = .duplicate kind n := by
  simp only [← firstRepeat?_eq_some_iff]
  rw [checkUnique]
  cases firstRepeat? names with
  | none =>
      constructor
      · intro h
        cases h
      · rintro ⟨_, h, _⟩
        cases h
  | some n =>
      constructor
      · intro h
        exact ⟨n, rfl, (Except.error.inj h).symm⟩
      · rintro ⟨_, h, rfl⟩
        rw [Option.some.inj h]

namespace Integration

/-! ### Missing columns -/

/-- If the input has a column with a name, the table has that column. -/
def Resolves (ig : Integration) (i : Input) : Prop :=
  ∀ name ∈ i.column, name ≠ "" → name ∈ ig.table.columnNames

/-- The block field has a column with a name, and the table has that column. -/
def BlockResolves (ig : Integration) (b : BlockField) : Prop :=
  b.column ≠ "" ∧ b.column ∈ ig.table.columnNames

theorem target?_eq_some_iff (i : Input) (name : String) :
    i.target? = some name ↔ name ∈ i.column ∧ name ≠ "" := by
  rw [Input.target?, Option.filter_eq_some_iff, decide_eq_true_eq, Option.mem_def]

theorem checkInput_eq_ok_iff_resolves (ig : Integration) (i : Input) (hi : i.HasTarget) :
    ig.checkInput i = .ok () ↔ ig.Resolves i := by
  simp only [checkInput_ok_iff, target?_eq_some_iff]
  constructor
  · rintro ⟨name, ⟨hname, _⟩, hmem⟩ name' hname' _
    exact Option.mem_unique hname hname' ▸ hmem
  · intro h
    rcases hi with ⟨name, hname, hne⟩
    exact ⟨name, ⟨hname, hne⟩, h name hname hne⟩

theorem checkBlockField_eq_error_iff (ig : Integration) (b : BlockField) (e : Error) :
    ig.checkBlockField b = .error e ↔
      ¬ ig.BlockResolves b ∧ e = .missingColumn ("block." ++ b.name) := by
  rw [BlockResolves, ← checkBlockField_ok_iff]
  exact ite_eq_error_iff _ _ e

/-- What the check makes of one input, which it passes over if it is not selected. -/
def checkIfSelected (ig : Integration) (i : Input) : Except Error Unit :=
  if i.isSelected then ig.checkInput i else .ok ()

theorem checkIfSelected_ok_iff (ig : Integration) (i : Input) :
    ig.checkIfSelected i = .ok () ↔ ig.Resolves i := by
  rw [checkIfSelected]
  by_cases hi : i.HasTarget
  · rw [if_pos ((Input.isSelected_iff i).mpr hi), ig.checkInput_eq_ok_iff_resolves i hi]
  · rw [if_neg fun h => hi ((Input.isSelected_iff i).mp h)]
    exact iff_of_true rfl fun name hname hne => absurd ⟨name, hname, hne⟩ hi

theorem checkIfSelected_error_iff (ig : Integration) (i : Input) (e : Error) :
    ig.checkIfSelected i = .error e ↔ ¬ ig.Resolves i ∧ e = .missingColumn i.name := by
  rw [← checkIfSelected_ok_iff, checkIfSelected]
  split
  · exact ite_eq_error_iff _ _ e
  · exact iff_of_false (fun h => nomatch h) fun h => h.1 rfl

/-! ### The first fault -/

/-- No list of the integration repeats a name. -/
structure NamesDiffer (ig : Integration) : Prop where
  columns : ig.table.columnNames.Nodup
  inputs : (ig.event.inputs.map (·.name)).Nodup
  block : (ig.block.map (·.name)).Nodup

/-- The fault that comes first. Faults of one kind only come if there is none of the kinds
    above. -/
inductive FirstFault (ig : Integration) : Error → Prop where
  | column {n : String} (hn : RepeatsFirst ig.table.columnNames n) :
      FirstFault ig (.duplicate .column n)
  | input {n : String} (hcolumns : ig.table.columnNames.Nodup)
      (hn : RepeatsFirst (ig.event.inputs.map (·.name)) n) :
      FirstFault ig (.duplicate .input n)
  | blockField {n : String} (hcolumns : ig.table.columnNames.Nodup)
      (hinputs : (ig.event.inputs.map (·.name)).Nodup)
      (hn : RepeatsFirst (ig.block.map (·.name)) n) :
      FirstFault ig (.duplicate .blockField n)
  | missingForInput {before after : List Input} {i : Input} (hnames : ig.NamesDiffer)
      (hsplit : ig.event.inputs = before ++ i :: after)
      (hbefore : ∀ earlier ∈ before, ig.Resolves earlier) (hi : ¬ ig.Resolves i) :
      FirstFault ig (.missingColumn i.name)
  | missingForBlockField {before after : List BlockField} {b : BlockField}
      (hnames : ig.NamesDiffer) (hinputs : ∀ i ∈ ig.event.inputs, ig.Resolves i)
      (hsplit : ig.block = before ++ b :: after)
      (hbefore : ∀ earlier ∈ before, ig.BlockResolves earlier) (hb : ¬ ig.BlockResolves b) :
      FirstFault ig (.missingColumn ("block." ++ b.name))

-- Inputs that are not selected are only passed over, so all of them may be gone through.
theorem forM_checkInput_eq (ig : Integration) :
    ig.event.selected.forM ig.checkInput = ig.event.inputs.forM ig.checkIfSelected :=
  forM_filter ig.checkInput (·.isSelected) ig.event.inputs

/-- The check passes if nothing is wrong. -/
theorem checkReferences_eq_ok_iff (ig : Integration) :
    ig.checkReferences = .ok () ↔ ig.NamesDiffer ∧ (∀ i ∈ ig.event.inputs, ig.Resolves i) ∧
      ∀ b ∈ ig.block, ig.BlockResolves b := by
  rw [checkReferences_ok_iff, WritesWithin]
  simp only [target?_eq_some_iff, and_imp]
  constructor
  · rintro ⟨hcolumns, hinputs, hblock, hresolve, hresolve'⟩
    exact ⟨⟨hcolumns, hinputs, hblock⟩, hresolve, hresolve'⟩
  · rintro ⟨⟨hcolumns, hinputs, hblock⟩, hresolve, hresolve'⟩
    exact ⟨hcolumns, hinputs, hblock, hresolve, hresolve'⟩

/-- What is reported is the first fault. -/
theorem checkReferences_eq_error_iff (ig : Integration) (e : Error) :
    ig.checkReferences = .error e ↔ ig.FirstFault e := by
  simp only [checkReferences, seq_eq_error_iff, forM_checkInput_eq, forM_eq_error_iff,
    forM_eq_ok_iff, checkUnique_ok_iff, checkUnique_error_iff, checkIfSelected_ok_iff,
    checkIfSelected_error_iff, checkBlockField_ok_iff, checkBlockField_eq_error_iff]
  constructor
  · rintro (⟨n, hn, rfl⟩ | ⟨hcolumns, ⟨n, hn, rfl⟩ | ⟨hinputs, ⟨n, hn, rfl⟩ | ⟨hblock, hmissing⟩⟩⟩)
    · exact .column hn
    · exact .input hcolumns hn
    · exact .blockField hcolumns hinputs hn
    · have hnames : ig.NamesDiffer := ⟨hcolumns, hinputs, hblock⟩
      rcases hmissing with ⟨before, i, after, hsplit, hbefore, hi, rfl⟩ |
        ⟨hresolve, before, b, after, hsplit, hbefore, hb, rfl⟩
      · exact .missingForInput hnames hsplit hbefore hi
      · exact .missingForBlockField hnames hresolve hsplit hbefore hb
  · intro h
    cases h with
    | column hn => exact Or.inl ⟨_, hn, rfl⟩
    | input hcolumns hn => exact Or.inr ⟨hcolumns, Or.inl ⟨_, hn, rfl⟩⟩
    | blockField hcolumns hinputs hn =>
        exact Or.inr ⟨hcolumns, Or.inr ⟨hinputs, Or.inl ⟨_, hn, rfl⟩⟩⟩
    | missingForInput hnames hsplit hbefore hi =>
        exact Or.inr ⟨hnames.columns, Or.inr ⟨hnames.inputs, Or.inr ⟨hnames.block,
          Or.inl ⟨_, _, _, hsplit, hbefore, hi, rfl⟩⟩⟩⟩
    | missingForBlockField hnames hresolve hsplit hbefore hb =>
        exact Or.inr ⟨hnames.columns, Or.inr ⟨hnames.inputs, Or.inr ⟨hnames.block,
          Or.inr ⟨hresolve, _, _, _, hsplit, hbefore, hb, rfl⟩⟩⟩⟩

/-! ### Other inputs -/

/-- The integration with other inputs. -/
def withInputs (ig : Integration) (inputs : List Input) : Integration :=
  { ig with event := { ig.event with inputs := inputs } }

/-- Other inputs do not change the outcome if the same ones of them have a target and the
    same name is the first to be repeated. -/
theorem checkReferences_withInputs (ig : Integration) (inputs : List Input)
    (htargets : inputs.filter (·.HasTarget) = ig.event.inputs.filter (·.HasTarget))
    (hrepeats : ∀ n, RepeatsFirst (inputs.map (·.name)) n ↔
      RepeatsFirst (ig.event.inputs.map (·.name)) n) :
    (ig.withInputs inputs).checkReferences = ig.checkReferences := by
  have hfirst : firstRepeat? (inputs.map (·.name)) =
      firstRepeat? (ig.event.inputs.map (·.name)) := by
    refine Option.ext fun n => ?_
    rw [firstRepeat?_eq_some_iff, firstRepeat?_eq_some_iff, hrepeats]
  have hfilter : ∀ l : List Input, l.filter (·.isSelected) = l.filter (·.HasTarget) := by
    intro l
    refine List.filter_congr fun i _ => ?_
    rw [Bool.eq_iff_iff, Input.isSelected_iff, decide_eq_true_eq]
  have hselected : (ig.withInputs inputs).event.selected = ig.event.selected :=
    (hfilter inputs).trans (htargets.trans (hfilter ig.event.inputs).symm)
  have hunique : checkUnique .input ((ig.withInputs inputs).event.inputs.map (·.name)) =
      checkUnique .input (ig.event.inputs.map (·.name)) := by
    rw [checkUnique, checkUnique, withInputs, hfirst]
  rw [checkReferences, checkReferences, hselected, hunique]
  rfl

/-- The whole outcome of the check of an integration's references, whether it is derived or
    not. It passes exactly if no list repeats a name and all that is written to is a column;
    otherwise it reports the first fault. Inputs without a target play no part but for the
    name that is the first to be repeated. -/
theorem checkReferences_reports (ig : Integration) :
    (ig.checkReferences = .ok () ↔ ig.NamesDiffer ∧ (∀ i ∈ ig.event.inputs, ig.Resolves i) ∧
      ∀ b ∈ ig.block, ig.BlockResolves b) ∧
    (∀ e, ig.checkReferences = .error e ↔ ig.FirstFault e) ∧
    ∀ inputs : List Input,
      inputs.filter (·.HasTarget) = ig.event.inputs.filter (·.HasTarget) →
      (∀ n, RepeatsFirst (inputs.map (·.name)) n ↔
        RepeatsFirst (ig.event.inputs.map (·.name)) n) →
      (ig.withInputs inputs).checkReferences = ig.checkReferences :=
  ⟨ig.checkReferences_eq_ok_iff, ig.checkReferences_eq_error_iff, ig.checkReferences_withInputs⟩

/-- An integration without columns, that writes an input to a column and a field of the block
    to none, and whose inputs repeat two names. -/
def crowded : Integration :=
  { Integration.withTable "crowded" (.empty "crowded") with
    block := [⟨"hash", ""⟩]
    event := (Event.named "Moved").addInput { Input.plain "to" "address" with column := some "t" }
      |>.addInput (.plain "memo" "string") |>.addInput (.plain "memo" "bytes")
      |>.addInput { Input.plain "to" "address" with column := some "" } }

/-- The inputs of that integration, those that are not written to a column in another place
    and with other types. -/
def rearranged : List Input :=
  [.plain "memo" "uint8", .plain "memo" "string",
    { Input.plain "to" "address" with column := some "t" }]

/-- Of all that is wrong with the integration the repeated name is reported that is the first
    to come again. That stays so with the other inputs, although they repeat only one name. -/
theorem checkReferences_reports_crowded :
    rearranged.filter (·.HasTarget) = crowded.event.inputs.filter (·.HasTarget) ∧
      crowded.FirstFault (.duplicate .input "memo") ∧
      (crowded.withInputs rearranged).checkReferences = .error (.duplicate .input "memo") := by
  rcases checkReferences_reports crowded with ⟨_, hfails, hsame⟩
  have hreported : crowded.checkReferences = .error (.duplicate .input "memo") := rfl
  have htargets : rearranged.filter (·.HasTarget) = crowded.event.inputs.filter (·.HasTarget) :=
    rfl
  have hrearranged := hsame rearranged htargets fun n => ?_
  · exact ⟨htargets, (hfails _).mp hreported, hrearranged.trans hreported⟩
  rw [← firstRepeat?_eq_some_iff, ← firstRepeat?_eq_some_iff]
  rfl

end Integration

end EventTables
