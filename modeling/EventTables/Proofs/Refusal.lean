import EventTables.Proofs.Validation

/-!
# Refused Configurations

What is reported of a configuration that is refused, and what is left of it.

There are two ways to be refused. If a text may not become part of a statement, that is
found before anything is changed, and it is reported as it is. Otherwise some derived
integration does not pass the check of its references. The pass over the integrations is
a check of every member of a list (`validateAll_snd`), so it reports the first one that
is refused, and it wraps the error with the name of that integration. Unlike a mere
check it has changed what it went through: all integrations up to that one are left
derived, itself included, and those behind it are left as they were declared
(`validateAll_of_refused`).

Whoever is told of such an error can rely on it that the configuration itself is at
fault, and neither what is stored nor the store.

## Theorems

* `isStorage_eq_false`: No fault is put down to both sides.
* `isValidation_of_checkReferences`, `isValidation_of_checkNames`: What the two checks
  report is a fault of the configuration.
* `validateAll_of_refused`: What a pass leaves that stops at an integration.
* `Config.validate_refused`: What is reported and what is left.
-/

namespace EventTables

/-! ### Faults of the configuration -/

namespace Error

/-- A fault of the configuration is not put down to the store. -/
theorem isStorage_eq_false {e : Error} (h : e.isValidation = true) : e.isStorage = false := by
  cases e with
  | storage operation reason => exact nomatch h
  | decoding context cause => exact nomatch h
  | _ => rfl

end Error

theorem isValidation_of_checkText {field value : String} {e : Error}
    (h : checkText field value = .error e) : e.isValidation = true := by
  rw [checkText] at h
  split at h
  · rw [← Except.error.inj h]
    rfl
  · cases h

theorem isValidation_of_checkName {field value : String} {e : Error}
    (h : checkName field value = .error e) : e.isValidation = true := by
  rw [checkName] at h
  split at h
  · rw [← Except.error.inj h]
    rfl
  · exact isValidation_of_checkText h

theorem isValidation_of_checkUnique {kind : NameKind} {names : List String} {e : Error}
    (h : checkUnique kind names = .error e) : e.isValidation = true := by
  rw [checkUnique] at h
  split at h
  · rw [← Except.error.inj h]
    rfl
  · cases h

namespace Integration

theorem isValidation_of_checkInput {ig : Integration} {i : Input} {e : Error}
    (h : ig.checkInput i = .error e) : e.isValidation = true := by
  rw [checkInput] at h
  split at h
  · cases h
  · rw [← Except.error.inj h]
    rfl

theorem isValidation_of_checkBlockField {ig : Integration} {b : BlockField} {e : Error}
    (h : ig.checkBlockField b = .error e) : e.isValidation = true := by
  rw [checkBlockField] at h
  split at h
  · cases h
  · rw [← Except.error.inj h]
    rfl

/-- What is wrong with references is a fault of the configuration. -/
theorem isValidation_of_checkReferences {ig : Integration} {e : Error}
    (h : ig.checkReferences = .error e) : e.isValidation = true := by
  simp only [checkReferences, seq_eq_error_iff, forM_eq_error_iff] at h
  rcases h with hcolumns | ⟨_, hinputs | ⟨_, hblock | ⟨_, hselected | ⟨_, hfields⟩⟩⟩⟩
  · exact isValidation_of_checkUnique hcolumns
  · exact isValidation_of_checkUnique hinputs
  · exact isValidation_of_checkUnique hblock
  · rcases hselected with ⟨_, i, _, _, _, hi⟩
    exact isValidation_of_checkInput hi
  · rcases hfields with ⟨_, b, _, _, _, hb⟩
    exact isValidation_of_checkBlockField hb

theorem isValidation_of_checkNames {ig : Integration} {e : Error}
    (h : ig.checkNames = .error e) : e.isValidation = true := by
  simp only [checkNames, Column.checkNames, seq_eq_error_iff, forM_eq_error_iff] at h
  rcases h with hname | ⟨_, htable | ⟨_, _, c, _, _, _, hname | ⟨_, htype⟩⟩⟩
  · exact isValidation_of_checkText hname
  · exact isValidation_of_checkName htable
  · exact isValidation_of_checkName hname
  · exact isValidation_of_checkName htype

end Integration

/-- What is wrong with names is a fault of the configuration. -/
theorem Config.isValidation_of_checkNames {c : Config} {e : Error}
    (h : c.checkNames = .error e) : e.isValidation = true := by
  simp only [checkNames, seq_eq_error_iff, forM_eq_error_iff] at h
  rcases h with ⟨_, ig, _, _, _, hig⟩ | ⟨_, _, s, _, _, _, hs⟩
  · exact Integration.isValidation_of_checkNames hig
  · exact isValidation_of_checkText hs

/-! ### The pass over the integrations -/

-- As far as its outcome goes, the pass is a check of every integration.
theorem validateAll_snd (igs : List Integration) :
    (validateAll igs).2 =
      igs.forM fun ig => ig.derive.checkReferences.mapError (Error.inIntegration ig.name) := by
  induction igs with
  | nil => rfl
  | cons ig igs ih =>
      rw [validateAll]
      change _ = (ig.derive.checkReferences.mapError (Error.inIntegration ig.name) >>= fun _ =>
        igs.forM fun ig => ig.derive.checkReferences.mapError (Error.inIntegration ig.name))
      rw [← ih]
      cases ig.derive.checkReferences <;> rfl

/-- A pass that stops at an integration has derived it and those before it, and has not
    come to those behind it. -/
theorem validateAll_of_refused (before after : List Integration) (ig : Integration)
    (cause : Error) (hbefore : ∀ earlier ∈ before, earlier.derive.checkReferences = .ok ())
    (hig : ig.derive.checkReferences = .error cause) :
    validateAll (before ++ ig :: after) =
      (before.map Integration.derive ++ ig.derive :: after,
        .error (.inIntegration ig.name cause)) := by
  induction before with
  | nil => rw [List.nil_append, validateAll, hig, List.map_nil, List.nil_append]
  | cons earlier before ih =>
      rcases List.forall_mem_cons.mp hbefore with ⟨hearlier, hbefore⟩
      simp only [List.cons_append, List.map_cons, validateAll, hearlier, ih hbefore]

namespace Config

/-- A configuration that is refused is refused for its names, which is reported as it is and
    changes nothing, or for the first of its integrations that does not pass the check of
    its references once it is derived. Then the error is that of the check, wrapped with
    the name of the integration. The integrations up to that one are derived, and
    nothing else is changed. Either way the configuration is at fault, and not the
    store. -/
theorem validate_refused (c : Config) (e : Error) (h : c.validate.2 = .error e) :
    ((c.checkNames = .error e ∧ c.validate.1 = c) ∨
      c.checkNames = .ok () ∧ ∃ before ig after cause,
        c.integrations = before ++ ig :: after ∧
        (∀ earlier ∈ before, earlier.derive.checkReferences = .ok ()) ∧
        ig.derive.checkReferences = .error cause ∧
        e = .inIntegration ig.name cause ∧
        c.validate.1 =
          { c with integrations := before.map Integration.derive ++ ig.derive :: after }) ∧
      e.isValidation = true ∧ e.isStorage = false := by
  rcases hnames : c.checkNames with e' | u
  · rw [validate_of_checkNames_error c e' hnames] at h ⊢
    rw [Except.error.inj h] at hnames ⊢
    have hfault := isValidation_of_checkNames hnames
    exact ⟨Or.inl ⟨rfl, rfl⟩, hfault, Error.isStorage_eq_false hfault⟩
  · rw [validate_of_checkNames_ok c hnames] at h ⊢
    rcases (forM_eq_error_iff _ _ _).mp ((validateAll_snd c.integrations).symm.trans h) with
      ⟨before, ig, after, hsplit, hbefore, hig⟩
    rcases (mapError_eq_error_iff _ _ _).mp hig with ⟨cause, hcause, rfl⟩
    have hpassed : ∀ earlier ∈ before, earlier.derive.checkReferences = .ok () :=
      fun earlier hearlier => (mapError_eq_ok_iff _ _ _).mp (hbefore earlier hearlier)
    have hleft := validateAll_of_refused before after ig cause hpassed hcause
    have hfault := Integration.isValidation_of_checkReferences hcause
    refine ⟨Or.inr ⟨rfl, before, ig, after, cause, hsplit, hpassed, hcause, rfl, ?_⟩, hfault, rfl⟩
    rw [hsplit, hleft]

/-- Three integrations, the second of which repeats a column. -/
def interrupted : Config :=
  { Config.empty with
    integrations :=
      [.withTable "first" (.empty "first"),
       .withTable "second" ⟨"second", [⟨"x", "int"⟩, ⟨"x", "text"⟩], []⟩,
       .withTable "third" (.empty "third")] }

/-- The first two of the three are left derived, and the third one is left alone. -/
theorem validate_refused_interrupted :
    interrupted.validate.2 = .error (.inIntegration "second" (.duplicate .column "x")) ∧
      interrupted.checkNames = .ok () ∧ ∃ before ig after,
        interrupted.integrations = before ++ ig :: after ∧
        before.map (·.name) = ["first"] ∧ ig.name = "second" ∧ after.map (·.name) = ["third"] ∧
        interrupted.validate.1 = { interrupted with
          integrations := before.map Integration.derive ++ ig.derive :: after } := by
  have hrefused : interrupted.validate.2 =
      .error (.inIntegration "second" (.duplicate .column "x")) := rfl
  rcases (validate_refused interrupted _ hrefused).1 with ⟨hnames, _⟩ |
    ⟨hnames, before, ig, after, cause, hsplit, _, _, herror, hleft⟩
  · exact nomatch hnames
  · have hname : ig.name = "second" := (Error.inIntegration.inj herror).1.symm
    have hlisted : ["first"] ++ "second" :: ["third"] =
        before.map (·.name) ++ "second" :: after.map (·.name) := by
      have := congrArg (List.map (·.name)) hsplit
      rwa [List.map_append, List.map_cons, hname] at this
    rcases (List.append_cons_inj_of_notMem (by decide) (by decide)).mp hlisted with
      ⟨hbefore, _, hafter⟩
    exact ⟨hrefused, hnames, before, ig, after, hsplit, hbefore.symm, hname, hafter.symm, hleft⟩

end Config

end EventTables
