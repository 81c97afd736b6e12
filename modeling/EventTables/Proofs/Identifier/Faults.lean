import EventTables.Proofs.Identifier
import EventTables.Proofs.Text.Decimal

/-!
# Faults of Names

Which text is reported where several may not become part of a statement.

The check goes through the integrations, in each through its table, in that through the
columns, and then through the sources. What it does with a text depends only on the text,
on what it is called and on whether it may be empty. So all that the check knows of a
configuration is one list of texts (`Config.texts`), and the nested passes are one pass over
that list (`Config.checkNames_eq_forM`). What is reported is then told by that list alone: it
is the fault of the first text in it that has one.

One text has at most one fault. The empty text has no character that could be at fault, and
of several characters that are not allowed the first one is named.

## Main definitions

* `NamedText`: A text that is checked, with what it is called.
* `NamedText.Passes`, `NamedText.Fault`: What is asked of a text, and what is wrong with it.
* `Config.texts`: The texts of a configuration in the order in which they are checked.

## Theorems

* `isAllowed_iff`: The characters that are allowed.
* `checkText_error_iff`: The first character that is not allowed is named.
* `Config.checkNames_eq_forM`: The check is one pass over the texts.
* `Config.checkNames_reports`: The whole outcome of the check.
-/

namespace EventTables

/-! ### One text -/

/-- Letters and digits of ASCII are allowed, and three other characters. -/
theorem isAllowed_iff (c : Char) :
    isAllowed c = true ↔ 'A' ≤ c ∧ c ≤ 'Z' ∨ 'a' ≤ c ∧ c ≤ 'z' ∨ '0' ≤ c ∧ c ≤ '9' ∨
      c = '_' ∨ c = '[' ∨ c = ']' := by
  have hupper : c.isUpper = true ↔ 'A' ≤ c ∧ c ≤ 'Z' := decide_eq_true_iff
  have hlower : c.isLower = true ↔ 'a' ≤ c ∧ c ≤ 'z' :=
    Bool.and_eq_true_iff.trans (and_congr decide_eq_true_iff decide_eq_true_iff)
  have halphanum : c.isAlphanum = ((c.isUpper || c.isLower) || c.isDigit) := rfl
  simp only [isAllowed, halphanum, Bool.or_eq_true, hupper, hlower, Text.isDigit_iff,
    decide_eq_true_eq, or_assoc]

theorem checkText_error_iff (field value : String) (e : Error) :
    checkText field value = .error e ↔ ∃ before c after, value.toList = before ++ c :: after ∧
      (∀ b ∈ before, isAllowed b = true) ∧ isAllowed c = false ∧
      e = .disallowed field value c := by
  have hfirst : ∀ c, (value.toList.find? fun c => !isAllowed c) = some c ↔
      ∃ before after, value.toList = before ++ c :: after ∧
        (∀ b ∈ before, isAllowed b = true) ∧ isAllowed c = false := by
    intro c
    simp only [List.find?_eq_some_iff_append, Bool.not_not, Bool.not_eq_true']
    constructor
    · rintro ⟨hc, before, after, hsplit, hbefore⟩
      exact ⟨before, after, hsplit, hbefore, hc⟩
    · rintro ⟨before, after, hsplit, hbefore, hc⟩
      exact ⟨hc, before, after, hsplit, hbefore⟩
  rw [checkText]
  constructor
  · intro h
    split at h
    · next c hfind =>
      rcases (hfirst c).mp hfind with ⟨before, after, hsplit, hbefore, hc⟩
      exact ⟨before, c, after, hsplit, hbefore, hc, (Except.error.inj h).symm⟩
    · cases h
  · rintro ⟨before, c, after, hsplit, hbefore, hc, rfl⟩
    rw [(hfirst c).mpr ⟨before, after, hsplit, hbefore, hc⟩]

/-- A text that is checked. -/
structure NamedText where
  /-- What the text is called. -/
  field : String
  value : String
  /-- The text must not be empty. -/
  required : Bool

namespace NamedText

/-- The check of the text. -/
def check (t : NamedText) : Except Error Unit :=
  if t.required then checkName t.field t.value else checkText t.field t.value

/-- All characters of the text are allowed, and there is one if there has to be. -/
def Passes (t : NamedText) : Prop :=
  (t.required = true → t.value ≠ "") ∧ IsPlain t.value

/-- What is wrong with the text. -/
inductive Fault (t : NamedText) : Error → Prop where
  | empty (hrequired : t.required = true) (hvalue : t.value = "") : Fault t (.empty t.field)
  | disallowed {before after : List Char} {c : Char}
      (hsplit : t.value.toList = before ++ c :: after)
      (hbefore : ∀ b ∈ before, isAllowed b = true) (hc : isAllowed c = false) :
      Fault t (.disallowed t.field t.value c)

theorem check_ok_iff (t : NamedText) : t.check = .ok () ↔ t.Passes := by
  rw [check, Passes]
  split
  · next hrequired =>
    rw [checkName_ok_iff, IsIdentifier]
    exact and_congr_left' ⟨fun h _ => h, fun h => h hrequired⟩
  · next hrequired =>
    rw [checkText_ok_iff]
    exact (and_iff_right fun h => absurd h hrequired).symm

theorem check_error_iff (t : NamedText) (e : Error) : t.check = .error e ↔ t.Fault e := by
  have hdisallowed : checkText t.field t.value = .error e → t.Fault e := by
    intro h
    rcases (checkText_error_iff _ _ _).mp h with ⟨before, c, after, hsplit, hbefore, hc, rfl⟩
    exact .disallowed hsplit hbefore hc
  constructor
  · intro h
    rw [check, checkName] at h
    split at h
    · next hrequired =>
      split at h
      · next hvalue =>
        rw [← Except.error.inj h]
        exact .empty hrequired hvalue
      · exact hdisallowed h
    · exact hdisallowed h
  · intro h
    cases h with
    | empty hrequired hvalue => rw [check, if_pos hrequired, checkName, if_pos hvalue]
    | disallowed hsplit hbefore hc =>
        have htext := (checkText_error_iff t.field t.value _).mpr
          ⟨_, _, _, hsplit, hbefore, hc, rfl⟩
        have hvalue : t.value ≠ "" := by
          intro hempty
          rw [hempty, String.toList_empty] at hsplit
          exact absurd hsplit.symm (List.append_ne_nil_of_right_ne_nil _ (List.cons_ne_nil _ _))
        rw [check, checkName, if_neg hvalue, ite_self, htext]

end NamedText

/-! ### All texts -/

/-- The texts of an integration: its name, that of its table, and name and type of each
    column. -/
def Integration.texts (ig : Integration) : List NamedText :=
  ⟨"integration name", ig.name, false⟩ :: ⟨"table name", ig.table.name, true⟩ ::
    ig.table.columns.flatMap fun c =>
      [⟨"column name", c.name, true⟩, ⟨"column type", c.type, true⟩]

/-- The text of a source. -/
def Source.text (s : Source) : NamedText :=
  ⟨"source name", s.name, false⟩

/-- The texts of a configuration: those of its integrations and then those of its sources. -/
def Config.texts (c : Config) : List NamedText :=
  c.integrations.flatMap Integration.texts ++ c.sources.map Source.text

theorem Column.checkNames_eq_forM (c : Column) :
    c.checkNames =
      [⟨"column name", c.name, true⟩, ⟨"column type", c.type, true⟩].forM NamedText.check := by
  change _ = (checkName "column name" c.name >>= fun _ =>
    checkName "column type" c.type >>= fun _ => pure ())
  rw [bind_pure_unit]
  rfl

theorem Integration.checkNames_eq_forM (ig : Integration) :
    ig.checkNames = ig.texts.forM NamedText.check := by
  rw [Integration.checkNames, show Column.checkNames = _ from funext Column.checkNames_eq_forM,
    ← forM_flatMap NamedText.check]
  rfl

namespace Config

/-- The check is one pass over all texts. -/
theorem checkNames_eq_forM (c : Config) : c.checkNames = c.texts.forM NamedText.check := by
  have hsources : (c.sources.forM fun s => checkText "source name" s.name) =
      (c.sources.map Source.text).forM NamedText.check :=
    (List.forM_map (l := c.sources) (g := Source.text) (f := NamedText.check)).symm
  rw [checkNames, show Integration.checkNames = _ from funext Integration.checkNames_eq_forM,
    ← forM_flatMap NamedText.check, hsources]
  exact List.forM_append.symm

/-- The whole outcome of the check of a configuration's names. It passes exactly if the names
    of integrations and sources are made of allowed characters, and those of tables and columns
    and the types of columns as well, none of them being empty. Otherwise it reports the
    first text that has a fault. Nothing else in the configuration plays a part. -/
theorem checkNames_reports (c : Config) :
    (c.checkNames = .ok () ↔
      (∀ ig ∈ c.integrations, IsPlain ig.name ∧ IsIdentifier ig.table.name ∧
        ∀ column ∈ ig.table.columns, IsIdentifier column.name ∧ IsIdentifier column.type) ∧
      ∀ s ∈ c.sources, IsPlain s.name) ∧
    (∀ char, isAllowed char = true ↔ 'A' ≤ char ∧ char ≤ 'Z' ∨ 'a' ≤ char ∧ char ≤ 'z' ∨
      '0' ≤ char ∧ char ≤ '9' ∨ char = '_' ∨ char = '[' ∨ char = ']') ∧
    (∀ e, c.checkNames = .error e ↔ ∃ before t after, c.texts = before ++ t :: after ∧
      (∀ earlier ∈ before, earlier.Passes) ∧ t.Fault e) ∧
    ∀ other : Config, other.texts = c.texts → other.checkNames = c.checkNames := by
  refine ⟨c.checkNames_ok_iff, isAllowed_iff, fun e => ?_, fun other hother => ?_⟩
  · rw [checkNames_eq_forM, forM_eq_error_iff]
    simp only [NamedText.check_ok_iff, NamedText.check_error_iff]
  · rw [checkNames_eq_forM, checkNames_eq_forM, hother]

/-- An integration without a name whose table has a letter in its name that is not allowed, and
    a column without a type. -/
def misnamed : Config :=
  { Config.empty with
    sources := [Source.named "main net" 1 ⟨"https://main"⟩]
    integrations := [.withTable "" ⟨"zähler;", [⟨"n", ""⟩], [["n"]]⟩] }

/-- The letter is reported, and is so wherever the source is read and whatever is unique. -/
theorem checkNames_reports_misnamed :
    (∃ before t after, misnamed.texts = before ++ t :: after ∧
      (∀ earlier ∈ before, earlier.Passes) ∧
      t.Fault (.disallowed "table name" "zähler;" 'ä')) ∧
    { misnamed with
      sources := [Source.named "main net" 2 ⟨"https://spare"⟩]
      integrations := [.withTable "" ⟨"zähler;", [⟨"n", ""⟩], []⟩] }.checkNames =
        .error (.disallowed "table name" "zähler;" 'ä') := by
  rcases checkNames_reports misnamed with ⟨_, _, hfails, hsame⟩
  have hreported : misnamed.checkNames = .error (.disallowed "table name" "zähler;" 'ä') := rfl
  exact ⟨(hfails _).mp hreported, (hsame _ rfl).trans hreported⟩

end Config

end EventTables
