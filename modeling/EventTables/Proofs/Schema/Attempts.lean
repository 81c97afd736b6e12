import EventTables.Schema.Migration

/-!
# Attempted Statements

How far an executor gets with statements, and where that leaves it.

Whether a statement is accepted may depend on all that were run before it, so which
statements an executor accepts is told from a state on. From every state there are two
ways to go. Either all statements are accepted, one after the other (`Executor.Accepts`),
or there is a first one that is refused, behind accepted ones (`Executor.Stops`). In
both cases the state that a run ends in is the one after all that was attempted, the
refused statement included: a statement may leave a trace although it is refused.

What is sent for a list of statements is told by the list and by what the executor accepts
of it (`Executor.Attempts`). Nothing is left open by that: the two determine what is sent
(`Attempts.eq`).

A record can be kept of what an executor is given (`Executor.withRecord`). It is written
with every statement and never read, so the executor goes as far with it as without, and
what it says in the end is what was attempted.

A migration goes through the statements of one table after the other, and stops with the
first table that does. `migrateAll_cases` says of which integration that table is, as the
error does.

## Main definitions

* `Executor.stateAfter`: The state after statements, accepted or not.
* `Executor.Accepts`: All statements are accepted.
* `Executor.Stops`: A statement is the first that is refused.
* `Executor.Attempts`: What is sent for a list of statements.
* `Executor.withRecord`: The executor with a record of what it is given.
* `ddlOf`: The statements of some integrations' tables.

## Theorems

* `accepts_append`: Statements in two parts.
* `Stops.not_accepts`: The two ways exclude each other.
* `attempts_of_accepts`, `Stops.attempts`: What is sent in each of them.
* `Attempts.eq`: Only one list of statements is what is sent.
* `runAll_cases`, `runAll_ok_iff`: How a run of statements ends.
* `accepts_withRecord_iff`, `stops_withRecord_iff`, `stateAfter_withRecord`: An executor
  with its record.
* `migrateAll_cases`: How a migration ends.
-/

namespace EventTables

variable {σ : Type}

namespace Executor

variable (e : Executor σ)

/-- The state after statements, whether they are accepted or not. -/
def stateAfter (s : σ) (stmts : List String) : σ :=
  stmts.foldl (fun s stmt => (e.execute s stmt).2) s

/-- All statements are accepted, one after the other. -/
def Accepts : σ → List String → Prop
  | _, [] => True
  | s, stmt :: rest => (e.execute s stmt).1 = .ok () ∧ Accepts (e.execute s stmt).2 rest

/-- The statement is refused for a reason, behind statements that are accepted. -/
structure Stops (s : σ) (before : List String) (stmt : String) (reason : Error) : Prop where
  accepted : e.Accepts s before
  refused : (e.execute (e.stateAfter s before) stmt).1 = .error reason

/-- What is sent for a list of statements: all of it if all are accepted, and otherwise what
    stands before the first that is refused, and that one. -/
structure Attempts (s : σ) (stmts sent : List String) : Prop where
  isPrefix : sent <+: stmts
  whole : e.Accepts s stmts → sent = stmts
  stopped : ¬ e.Accepts s stmts → ∃ before stmt reason,
    sent = before ++ [stmt] ∧ e.Stops s before stmt reason

theorem stateAfter_append (s : σ) (first second : List String) :
    e.stateAfter s (first ++ second) = e.stateAfter (e.stateAfter s first) second :=
  List.foldl_append

theorem accepts_append (s : σ) (first second : List String) :
    e.Accepts s (first ++ second) ↔
      e.Accepts s first ∧ e.Accepts (e.stateAfter s first) second := by
  induction first generalizing s with
  | nil => exact ⟨fun h => ⟨trivial, h⟩, fun h => h.2⟩
  | cons stmt rest ih =>
      rw [List.cons_append, Accepts, Accepts, ih, and_assoc]
      rfl

variable {e} {s : σ}

/-- No run accepts the statement that it stops with. -/
theorem Stops.not_accepts {before : List String} {stmt : String} {reason : Error}
    (h : e.Stops s before stmt reason) : ¬ e.Accepts s (before ++ [stmt]) := by
  intro haccepts
  have hstmt := ((e.accepts_append s before [stmt]).mp haccepts).2.1
  exact nomatch h.refused.symm.trans hstmt

-- More statements in front only change the state from which the run goes on.
theorem Stops.append {first before : List String} {stmt : String} {reason : Error}
    (hfirst : e.Accepts s first) (h : e.Stops (e.stateAfter s first) before stmt reason) :
    e.Stops s (first ++ before) stmt reason where
  accepted := (e.accepts_append s first before).mpr ⟨hfirst, h.accepted⟩
  refused := by
    rw [stateAfter_append]
    exact h.refused

theorem Stops.not_accepts_append {before : List String} {stmt : String} {reason : Error}
    (h : e.Stops s before stmt reason) (after : List String) :
    ¬ e.Accepts s (before ++ stmt :: after) := by
  intro haccepts
  rw [List.append_cons] at haccepts
  exact h.not_accepts ((e.accepts_append s _ after).mp haccepts).1

theorem attempts_of_accepts {stmts : List String} (h : e.Accepts s stmts) :
    e.Attempts s stmts stmts where
  isPrefix := List.prefix_rfl
  whole _ := rfl
  stopped hnot := absurd h hnot

theorem Stops.attempts {before : List String} {stmt : String} {reason : Error}
    (h : e.Stops s before stmt reason) (after : List String) :
    e.Attempts s (before ++ stmt :: after) (before ++ [stmt]) where
  isPrefix := ⟨after, (List.append_cons before stmt after).symm⟩
  whole haccepts := absurd haccepts (h.not_accepts_append after)
  stopped _ := ⟨before, stmt, reason, rfl, h⟩

-- A run that stops with a statement does not go past one that it stops with before.
theorem Stops.eq_of_isPrefix {before before' : List String} {stmt stmt' : String}
    {reason reason' : Error} (h : e.Stops s before stmt reason)
    (h' : e.Stops s before' stmt' reason') (hbegins : before ++ [stmt] <+: before' ++ [stmt']) :
    before ++ [stmt] = before' ++ [stmt'] := by
  rcases List.prefix_concat_iff.mp hbegins with heq | ⟨rest, rfl⟩
  · exact heq
  · exact absurd ((e.accepts_append s _ rest).mp h'.accepted).1 h.not_accepts

/-- What is sent for a list of statements is determined. -/
theorem Attempts.eq {stmts first second : List String} (h : e.Attempts s stmts first)
    (h' : e.Attempts s stmts second) : first = second := by
  by_cases haccepts : e.Accepts s stmts
  · rw [h.whole haccepts, h'.whole haccepts]
  · rcases h.stopped haccepts with ⟨before, stmt, reason, rfl, hstops⟩
    rcases h'.stopped haccepts with ⟨before', stmt', reason', rfl, hstops'⟩
    -- Of two beginnings of one list, one is a beginning of the other.
    rcases List.prefix_or_prefix_of_prefix h.isPrefix h'.isPrefix with hbegins | hbegins
    · exact hstops.eq_of_isPrefix hstops' hbegins
    · exact (hstops'.eq_of_isPrefix hstops hbegins).symm

variable (e)

/-- A run of statements accepts all of them, or it ends with the first that is
    refused. -/
theorem runAll_cases (s : σ) (stmts : List String) :
    (e.Accepts s stmts ∧ e.runAll s stmts = (.ok (), e.stateAfter s stmts)) ∨
    ∃ before stmt after reason, stmts = before ++ stmt :: after ∧ e.Stops s before stmt reason ∧
      e.runAll s stmts = (.error reason, e.stateAfter s (before ++ [stmt])) := by
  induction stmts generalizing s with
  | nil => exact Or.inl ⟨trivial, rfl⟩
  | cons first rest ih =>
      rcases hfirst : e.execute s first with ⟨reason | u, next⟩
      · -- The first statement is refused, so nothing stands before it.
        refine Or.inr ⟨[], first, rest, reason, rfl, ⟨trivial, ?_⟩, ?_⟩
        · exact congrArg Prod.fst hfirst
        · simp only [runAll, hfirst, stateAfter, List.nil_append, List.foldl_cons, List.foldl_nil]
      · have hrun : e.runAll s (first :: rest) = e.runAll next rest := by
          simp only [runAll, hfirst]
        have haccepted : (e.execute s first).1 = .ok () := congrArg Prod.fst hfirst
        have hnext : (e.execute s first).2 = next := congrArg Prod.snd hfirst
        subst hnext
        rw [hrun]
        rcases ih (e.execute s first).2 with
          ⟨hrest, hend⟩ | ⟨before, stmt, after, reason, rfl, hstops, hend⟩
        · exact Or.inl ⟨⟨haccepted, hrest⟩, hend⟩
        · exact Or.inr ⟨first :: before, stmt, after, reason, rfl,
            ⟨⟨haccepted, hstops.accepted⟩, hstops.refused⟩, hend⟩

/-- A run of statements goes through exactly if it accepts all of them. -/
theorem runAll_ok_iff (s final : σ) (stmts : List String) :
    e.runAll s stmts = (.ok (), final) ↔ e.Accepts s stmts ∧ e.stateAfter s stmts = final := by
  rcases e.runAll_cases s stmts with
    ⟨haccepts, hrun⟩ | ⟨before, stmt, after, reason, rfl, hstops, hrun⟩
  · rw [hrun, Prod.mk.injEq]
    exact and_congr_left fun _ => iff_of_true rfl haccepts
  · rw [hrun, Prod.mk.injEq]
    exact iff_of_false (by simp) fun h => hstops.not_accepts_append after h.1

/-! ### With a record -/

section Record

variable {ρ : Type} (note : String → ρ)

/-- The executor with a record of the statements that it is given, each as it is noted, the
    latest last. -/
def withRecord : Executor (σ × List ρ) where
  execute s stmt := ((e.execute s.1 stmt).1, (e.execute s.1 stmt).2, s.2 ++ [note stmt])

/-- A record does not change what is accepted. -/
theorem accepts_withRecord_iff (s : σ) (log : List ρ) (stmts : List String) :
    (e.withRecord note).Accepts (s, log) stmts ↔ e.Accepts s stmts := by
  induction stmts generalizing s log with
  | nil => exact Iff.rfl
  | cons stmt rest ih => exact and_congr Iff.rfl (ih _ _)

/-- All statements that are run are recorded, in order. -/
theorem stateAfter_withRecord (s : σ) (log : List ρ) (stmts : List String) :
    (e.withRecord note).stateAfter (s, log) stmts =
      (e.stateAfter s stmts, log ++ stmts.map note) := by
  induction stmts generalizing s log with
  | nil => rw [List.map_nil, List.append_nil]; rfl
  | cons stmt rest ih =>
      rw [List.map_cons, List.append_cons]
      exact ih _ _

/-- Neither does it change where a run stops. -/
theorem stops_withRecord_iff (s : σ) (log : List ρ) (before : List String) (stmt : String)
    (reason : Error) :
    (e.withRecord note).Stops (s, log) before stmt reason ↔ e.Stops s before stmt reason := by
  have haccepts := e.accepts_withRecord_iff note s log before
  have hstate := e.stateAfter_withRecord note s log before
  constructor
  · rintro ⟨haccepted, hrefused⟩
    rw [hstate] at hrefused
    exact ⟨haccepts.mp haccepted, hrefused⟩
  · rintro ⟨haccepted, hrefused⟩
    refine ⟨haccepts.mpr haccepted, ?_⟩
    rw [hstate]
    exact hrefused

theorem attempts_of_withRecord (s : σ) (log : List ρ) (stmts sent : List String)
    (h : (e.withRecord note).Attempts (s, log) stmts sent) : e.Attempts s stmts sent where
  isPrefix := h.isPrefix
  whole haccepts := h.whole ((e.accepts_withRecord_iff note s log stmts).mpr haccepts)
  stopped hnot := by
    rw [← e.accepts_withRecord_iff note s log] at hnot
    rcases h.stopped hnot with ⟨before, stmt, reason, hsent, hstops⟩
    exact ⟨before, stmt, reason, hsent,
      (e.stops_withRecord_iff note s log before stmt reason).mp hstops⟩

end Record

end Executor

/-- The statements of the integrations' tables, one table after the other. -/
def ddlOf (igs : List Integration) : List String :=
  igs.flatMap fun ig => ig.table.ddl

theorem ddlOf_split (earlier later : List Integration) {ig : Integration}
    {before after : List String} {stmt : String} (hig : ig.table.ddl = before ++ stmt :: after) :
    ddlOf (earlier ++ ig :: later) =
      (ddlOf earlier ++ before) ++ stmt :: (after ++ ddlOf later) := by
  unfold ddlOf
  rw [List.flatMap_append, List.flatMap_cons, hig]
  simp only [List.append_assoc, List.cons_append]

/-- A migration accepts the statements of all tables, or it ends with the first that is
    refused, and names an integration whose table the statement is from. The tables of
    the integrations before it are done with then. -/
theorem migrateAll_cases (e : Executor σ) (s : σ) (igs : List Integration) :
    (e.Accepts s (ddlOf igs) ∧ migrateAll e s igs = (.ok (), e.stateAfter s (ddlOf igs))) ∨
    ∃ earlier ig later before stmt after reason, igs = earlier ++ ig :: later ∧
      ig.table.ddl = before ++ stmt :: after ∧ e.Stops s (ddlOf earlier ++ before) stmt reason ∧
      migrateAll e s igs =
        (.error (.migrating ig.name reason),
          e.stateAfter s (ddlOf earlier ++ before ++ [stmt])) := by
  induction igs generalizing s with
  | nil => exact Or.inl ⟨trivial, rfl⟩
  | cons first rest ih =>
      rcases e.runAll_cases s first.table.ddl with
        ⟨hfirst, hrun⟩ | ⟨before, stmt, after, reason, hddl, hstops, hrun⟩
      · have hmigrate : migrateAll e s (first :: rest) =
            migrateAll e (e.stateAfter s first.table.ddl) rest := by
          simp only [migrateAll, Table.migrate, hrun]
        have hddl : ddlOf (first :: rest) = first.table.ddl ++ ddlOf rest := List.flatMap_cons
        rw [hmigrate, hddl]
        rcases ih (e.stateAfter s first.table.ddl) with
          ⟨hrest, hend⟩ | ⟨earlier, ig, later, before, stmt, after, reason, rfl, hig, hstops, hend⟩
        · refine Or.inl ⟨(e.accepts_append s _ _).mpr ⟨hfirst, hrest⟩, ?_⟩
          rw [hend, e.stateAfter_append]
        · have hearlier : ddlOf (first :: earlier) ++ before =
              first.table.ddl ++ (ddlOf earlier ++ before) := by
            rw [ddlOf, List.flatMap_cons, List.append_assoc]
            rfl
          refine Or.inr ⟨first :: earlier, ig, later, before, stmt, after, reason, rfl, hig, ?_, ?_⟩
          · rw [hearlier]
            exact hstops.append hfirst
          · rw [hend, hearlier, List.append_assoc first.table.ddl, e.stateAfter_append s]
      · refine Or.inr ⟨[], first, rest, before, stmt, after, reason, rfl, hddl, hstops, ?_⟩
        simp only [migrateAll, Table.migrate, hrun]
        rfl

end EventTables
