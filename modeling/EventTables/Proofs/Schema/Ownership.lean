import EventTables.Proofs.Schema.Attempts

/-!
# Owners of Statements

Which statements a migration executes, and whom it names when one of them fails.

An executor sees texts, and a text does not tell whose it is. Several integrations may
declare the same table, so that the same text is executed once for each of them, and
several may have the same name. What tells a statement's owner is the place that it has
among all statements of the migration. So the statements are listed here with the
integrations whose tables they are from (`ownedStatements`). What is executed is a beginning
of that list. Where a statement fails, it is the last entry of that beginning, and the
integration of that entry is the one that is named.

What is executed is not told by the result of a migration, and the state of an executor need
not keep it. It is read off a record instead, which any executor can be given.

## Main definitions

* `ownedStatements`: The statements of a migration with their integrations.

## Theorems

* `migrateAll_owned_cases`: The two ends of a migration.
* `migrateAll_of_accepts`, `migrateAll_of_stops`: Which of them it comes to, from what the
  executor does with its statements.
* `Config.migrate_stops_at_owner`: What a migration executes and how it ends.
-/

namespace EventTables

variable {σ : Type}

/-- The statements of a migration in their order, each with the integration whose table it
    is from. -/
def ownedStatements (igs : List Integration) : List (Integration × String) :=
  igs.flatMap fun ig => ig.table.ddl.map fun stmt => (ig, stmt)

theorem map_snd_ownedStatements (igs : List Integration) :
    (ownedStatements igs).map (·.2) = ddlOf igs := by
  unfold ownedStatements ddlOf
  rw [List.map_flatMap]
  refine congrArg (List.flatMap · igs) (funext fun ig => ?_)
  rw [List.map_map]
  exact List.map_id _

theorem ownedStatements_split (earlier later : List Integration) {ig : Integration}
    {before after : List String} {stmt : String} (hig : ig.table.ddl = before ++ stmt :: after) :
    ownedStatements (earlier ++ ig :: later) =
      (ownedStatements earlier ++ before.map fun own => (ig, own)) ++
        (ig, stmt) :: (after.map (fun own => (ig, own)) ++ ownedStatements later) := by
  unfold ownedStatements
  rw [List.flatMap_append, List.flatMap_cons, hig]
  simp only [List.map_append, List.map_cons, List.append_assoc, List.cons_append]

/-! ### Where a migration ends -/

variable {e : Executor σ} {s : σ} {igs : List Integration}

-- A run has one first statement that is refused, and one reason for it.
theorem Executor.Stops.eq_owned {before before' : List (Integration × String)}
    {last last' : Integration × String} {after after' : List (Integration × String)}
    {reason reason' : Error} (hlist : before ++ last :: after = before' ++ last' :: after')
    (h : e.Stops s (before.map (·.2)) last.2 reason)
    (h' : e.Stops s (before'.map (·.2)) last'.2 reason') :
    before = before' ∧ last = last' ∧ reason = reason' := by
  have hattempts := h.attempts (after.map (·.2))
  have hattempts' := h'.attempts (after'.map (·.2))
  have htexts : before.map (·.2) ++ last.2 :: after.map (·.2) =
      before'.map (·.2) ++ last'.2 :: after'.map (·.2) := by
    rw [← List.map_cons, ← List.map_append, hlist, List.map_append, List.map_cons]
  rw [← htexts] at hattempts'
  have hlength : before.length = before'.length := by
    have hsent := congrArg List.length (hattempts.eq hattempts')
    simp only [List.length_append, List.length_map, List.length_cons, List.length_nil] at hsent
    omega
  -- Two entries at one place of the list are the same.
  rcases List.append_inj hlist hlength with ⟨rfl, hrest⟩
  rcases List.cons.inj hrest with ⟨rfl, _⟩
  refine ⟨rfl, rfl, ?_⟩
  have hreason := h.refused.symm.trans h'.refused
  exact Except.error.inj hreason

/-- An executor accepts the statements of all tables, or there is a first one that it
    refuses, which is some integration's. The migration ends accordingly. -/
theorem migrateAll_owned_cases (e : Executor σ) (s : σ) (igs : List Integration) :
    (e.Accepts s (ddlOf igs) ∧ migrateAll e s igs = (.ok (), e.stateAfter s (ddlOf igs))) ∨
    ∃ before ig stmt after reason, ownedStatements igs = before ++ (ig, stmt) :: after ∧
      e.Stops s (before.map (·.2)) stmt reason ∧
      migrateAll e s igs = (.error (.migrating ig.name reason),
        e.stateAfter s ((before ++ [(ig, stmt)]).map (·.2))) := by
  rcases migrateAll_cases e s igs with haccepts |
    ⟨earlier, ig, later, before, stmt, after, reason, rfl, hig, hstops, hend⟩
  · exact Or.inl haccepts
  · have hbefore : (ownedStatements earlier ++ before.map fun own => (ig, own)).map (·.2) =
        ddlOf earlier ++ before := by
      rw [List.map_append, map_snd_ownedStatements, List.map_map]
      exact congrArg (ddlOf earlier ++ ·) (List.map_id _)
    refine Or.inr ⟨_, ig, stmt, _, reason, ownedStatements_split earlier later hig, ?_, ?_⟩
    · rw [hbefore]
      exact hstops
    · rw [hend, List.map_append, hbefore]
      rfl

theorem migrateAll_of_accepts (h : e.Accepts s (ddlOf igs)) :
    migrateAll e s igs = (.ok (), e.stateAfter s (ddlOf igs)) := by
  rcases migrateAll_owned_cases e s igs with ⟨_, hend⟩ |
    ⟨before, ig, stmt, after, reason, howned, hstops, _⟩
  · exact hend
  · rw [← map_snd_ownedStatements, howned, List.map_append] at h
    exact absurd h (hstops.not_accepts_append _)

theorem migrateAll_of_stops {before : List (Integration × String)} {ig : Integration}
    {stmt : String} {after : List (Integration × String)} {reason : Error}
    (howned : ownedStatements igs = before ++ (ig, stmt) :: after)
    (h : e.Stops s (before.map (·.2)) stmt reason) :
    migrateAll e s igs = (.error (.migrating ig.name reason),
      e.stateAfter s ((before ++ [(ig, stmt)]).map (·.2))) := by
  rcases migrateAll_owned_cases e s igs with ⟨haccepts, _⟩ |
    ⟨before', ig', stmt', after', reason', howned', hstops', hend⟩
  · rw [← map_snd_ownedStatements, howned, List.map_append] at haccepts
    exact absurd haccepts (h.not_accepts_append _)
  · rcases Executor.Stops.eq_owned (howned.symm.trans howned') h hstops' with ⟨rfl, hlast, rfl⟩
    rcases Prod.mk.inj hlast with ⟨rfl, rfl⟩
    exact hend

namespace Config

/-- A migration executes the statements of the integrations' tables in the order of
    declaration. It succeeds exactly if all of them are executed and accepted. Otherwise the
    last one that is executed is the first that is refused, and the error is that refusal
    under the name of the integration whose table the statement is from. -/
theorem migrate_stops_at_owner (c : Config) (e : Executor σ) (s : σ) :
    ∃ executed, executed <+: ownedStatements c.integrations ∧
      c.migrate (e.withRecord id) (s, []) =
        ((c.migrate e s).1, (c.migrate e s).2, executed.map (·.2)) ∧
      (c.migrate e s).2 = e.stateAfter s (executed.map (·.2)) ∧
      ((c.migrate e s).1 = .ok () ↔
        executed = ownedStatements c.integrations ∧ e.Accepts s (ddlOf c.integrations)) ∧
      ∀ err, (c.migrate e s).1 = .error err ↔
        ∃ before ig stmt reason, executed = before ++ [(ig, stmt)] ∧
          e.Stops s (before.map (·.2)) stmt reason ∧ err = .migrating ig.name reason := by
  unfold migrate
  rcases migrateAll_owned_cases e s c.integrations with ⟨haccepts, hend⟩ |
    ⟨before, ig, stmt, after, reason, howned, hstops, hend⟩
  · have hrecorded := (e.accepts_withRecord_iff id s [] _).mpr haccepts
    refine ⟨ownedStatements c.integrations, List.prefix_rfl, ?_, ?_, ?_, fun err => ?_⟩
    · rw [migrateAll_of_accepts hrecorded, hend, e.stateAfter_withRecord, map_snd_ownedStatements,
        List.nil_append, List.map_id]
    · rw [hend, map_snd_ownedStatements]
    · rw [hend]
      exact iff_of_true rfl ⟨rfl, haccepts⟩
    · rw [hend]
      refine iff_of_false (fun h => nomatch h) ?_
      -- No statement is refused among those that are all accepted.
      rintro ⟨before, ig, stmt, reason, howned, hstops, _⟩
      rw [← map_snd_ownedStatements, howned, List.map_append] at haccepts
      exact hstops.not_accepts haccepts
  · have hrecorded := (e.stops_withRecord_iff id s [] _ _ _).mpr hstops
    have hprefix : before ++ [(ig, stmt)] <+: ownedStatements c.integrations := by
      rw [howned]
      exact ⟨after, (List.append_cons before (ig, stmt) after).symm⟩
    refine ⟨before ++ [(ig, stmt)], hprefix, ?_, ?_, ?_, fun err => ?_⟩
    · rw [migrateAll_of_stops howned hrecorded, hend, e.stateAfter_withRecord, List.nil_append,
        List.map_id]
    · rw [hend]
    · rw [hend]
      refine iff_of_false (fun h => nomatch h) fun h => ?_
      rw [← map_snd_ownedStatements, ← h.1, List.map_append] at h
      exact hstops.not_accepts h.2
    · rw [hend]
      constructor
      · intro herr
        exact ⟨before, ig, stmt, reason, rfl, hstops, (Except.error.inj herr).symm⟩
      · rintro ⟨before', ig', stmt', reason', hexecuted, hstops', rfl⟩
        rcases Executor.Stops.eq_owned hexecuted hstops hstops' with ⟨_, hlast, rfl⟩
        rw [(Prod.mk.inj hlast).1]

-- The third statement has the same text as the first one, and another owner.
example :
    let prices : Table := ⟨"prices", [⟨"price", "numeric"⟩], []⟩
    let c : Config := { Config.empty with
      integrations := [.withTable "bids" prices, .withTable "asks" prices] }
    let e : Executor Nat :=
      ⟨fun n stmt => (if n = 2 then .error (.executing stmt "refused") else .ok (), n + 1)⟩
    (c.migrate e 0).1 = .error (.migrating "asks"
      (.executing "create table if not exists prices(price numeric)" "refused")) := by
  rfl

end Config

end EventTables
