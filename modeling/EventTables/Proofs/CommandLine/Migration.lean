import EventTables.CommandLine.Run
import EventTables.Proofs.Config.RoundTrip
import EventTables.Proofs.Outcome
import EventTables.Proofs.Schema.Attempts

/-!
# Migrations on the Command Line

What an invocation that migrates sends to the database, whatever it finds and whatever the
database does with it.

An invocation gets as far as the database (`Invocation.Reaches`) if it finds a
configuration, the configuration is valid, there is an address, and the database there
answers. All of this is settled before anything is sent. What is sent then depends on the
configuration and on the database alone: first the statements that create the relations
of the program, then those of the integrations' tables, in the order of declaration, up to
the first that is refused.

The database is seen from two sides here. An executor tells what is accepted and refused,
with the state that all statements before have left behind. A record of the commands tells
what was sent. The record is only written and never read, so that a database accepts the
same with it as without.

## Main definitions

* `migrationStatements`: The statements that a migration consists of.
* `Invocation.sent`: What an invocation sends to the database.
* `Invocation.Reaches`: An invocation gets as far as the database.

## Theorems

* `accepts_statements_iff`, `attempts_of_recorded`: What a database accepts depends neither
  on the words for a refusal nor on a record.
* `createRelations_cases`: How the creation of the relations ends.
* `migrateInto_attempts`: What a migration sends, and when it succeeds.
* `run_of_reaches`, `run_of_not_reaches`: What invocations do that get as far as the
  database, and those that do not.
* `migration_sends`: What an invocation that migrates sends.
-/

namespace EventTables

variable {σ : Type}

namespace Database

variable (db : Database σ)

-- What a refusal is said to mean does not change what is refused.
theorem accepts_statements_iff (refusal : String → String → Error) (s : σ)
    (stmts : List String) :
    (db.statements refusal).Accepts s stmts ↔ db.executor.Accepts s stmts := by
  induction stmts generalizing s with
  | nil => exact Iff.rfl
  | cons stmt rest ih =>
      refine and_congr ?_ (ih _)
      exact (mapError_eq_ok_iff _ _ _).trans (mapError_eq_ok_iff _ _ _).symm

theorem exists_stops_of_statements (refusal : String → String → Error) (s : σ)
    (before : List String) (stmt : String) (reason : Error)
    (h : (db.statements refusal).Stops s before stmt reason) :
    ∃ reason, db.executor.Stops s before stmt reason := by
  rcases (mapError_eq_error_iff _ _ _).mp h.refused with ⟨message, hmessage, _⟩
  have haccepted := (db.accepts_statements_iff refusal s before).mp h.accepted
  exact ⟨.executing stmt (databaseReason message), haccepted,
    (mapError_eq_error_iff _ _ _).mpr ⟨message, hmessage, rfl⟩⟩

/-- The relations are created, or there is a first statement of them that is refused. -/
theorem createRelations_cases (s : σ) :
    (db.executor.Accepts s relationStatements ∧
      db.createRelations s = (.ok (), db.executor.stateAfter s relationStatements)) ∨
    ∃ before stmt after reason refusal, relationStatements = before ++ stmt :: after ∧
      db.executor.Stops s before stmt reason ∧
      db.createRelations s = (.error refusal, db.executor.stateAfter s (before ++ [stmt])) := by
  rcases (db.statements fun _ => .storage "initializing schema").runAll_cases s
      relationStatements with
    ⟨haccepts, hrun⟩ | ⟨before, stmt, after, refusal, hsplit, hstops, hrun⟩
  · exact Or.inl ⟨(db.accepts_statements_iff _ s relationStatements).mp haccepts, hrun⟩
  · rcases db.exists_stops_of_statements _ s before stmt refusal hstops with ⟨reason, hstops⟩
    exact Or.inr ⟨before, stmt, after, reason, refusal, hsplit, hstops, hrun⟩

/-! ### With a record -/

-- The record of the commands is one of the statements.
theorem executor_recorded : db.recorded.executor = db.executor.withRecord .statement := rfl

/-- All statements that are run are recorded, in order. -/
theorem stateAfter_recorded (s : σ) (log : List Command) (stmts : List String) :
    db.recorded.executor.stateAfter (s, log) stmts =
      (db.executor.stateAfter s stmts, log ++ stmts.map .statement) := by
  rw [executor_recorded, Executor.stateAfter_withRecord]

/-- A record of what is sent does not change what is sent. -/
theorem attempts_of_recorded (s : σ) (log : List Command) (stmts sent : List String)
    (h : db.recorded.executor.Attempts (s, log) stmts sent) :
    db.executor.Attempts s stmts sent := by
  rw [executor_recorded] at h
  exact db.executor.attempts_of_withRecord .statement s log stmts sent h

end Database

namespace CommandLine

/-! ### In the database -/

/-- The statements that a migration of the configuration consists of: those that create the
    relations of the program, and then those of every integration's table. -/
def migrationStatements (c : Config) : List String :=
  relationStatements ++ ddlOf c.integrations

theorem migrateInto_of_created (c : Config) (db : Database σ) (s t : σ)
    (h : db.createRelations s = (.ok (), t)) :
    (migrateInto c db s).state = (c.migrate db.executor t).2 ∧
      ((migrateInto c db s).succeeded = true ↔ (c.migrate db.executor t).1 = .ok ()) := by
  unfold migrateInto
  rw [h]
  rcases hmigrate : c.migrate db.executor t with ⟨reason | u, next⟩
  · simp [Outcome.after, Outcome.ofResult, Outcome.succeeded, hmigrate]
  · simp [Outcome.after, Outcome.ofResult, Outcome.succeeded, hmigrate]

theorem migrateInto_of_refused (c : Config) (db : Database σ) (s t : σ) (refusal : Error)
    (h : db.createRelations s = (.error refusal, t)) :
    (migrateInto c db s).state = t ∧ (migrateInto c db s).succeeded = false := by
  unfold migrateInto
  rw [h]
  exact ⟨rfl, rfl⟩

/-- What a migration sends are its statements up to the first that is refused, and it
    succeeds if none is. -/
theorem migrateInto_attempts (c : Config) (db : Database σ) (s : σ) :
    ∃ sent, db.executor.Attempts s (migrationStatements c) sent ∧
      (migrateInto c db s).state = db.executor.stateAfter s sent ∧
      ((migrateInto c db s).succeeded = true ↔
        db.executor.Accepts s (migrationStatements c)) := by
  rcases db.createRelations_cases s with
    ⟨hcreated, hrun⟩ | ⟨before, stmt, after, reason, refusal, hsplit, hstops, hrun⟩
  · rcases migrateInto_of_created c db s _ hrun with ⟨hstate, hsucceeded⟩
    rw [hstate, hsucceeded]
    rcases migrateAll_cases db.executor (db.executor.stateAfter s relationStatements)
        c.integrations with
      ⟨hrest, hend⟩ | ⟨earlier, ig, later, before, stmt, after, reason, hsplit, hig, hstops, hend⟩
    · have hall : db.executor.Accepts s (migrationStatements c) :=
        (db.executor.accepts_append s _ _).mpr ⟨hcreated, hrest⟩
      refine ⟨_, Executor.attempts_of_accepts hall, ?_, ?_⟩
      · rw [Config.migrate, hend, migrationStatements, db.executor.stateAfter_append]
      · rw [Config.migrate, hend]
        exact ⟨fun _ => hall, fun _ => rfl⟩
    · -- The relations stand in front of the tables that are done with.
      have hall : migrationStatements c =
          (relationStatements ++ (ddlOf earlier ++ before)) ++ stmt :: (after ++ ddlOf later) := by
        rw [migrationStatements, hsplit, ddlOf_split earlier later hig, List.append_assoc,
          List.append_assoc, List.append_assoc]
      have hstops' := hstops.append hcreated
      rw [hall]
      refine ⟨_, hstops'.attempts _, ?_, ?_⟩
      · rw [Config.migrate, hend]
        simp only [db.executor.stateAfter_append]
      · rw [Config.migrate, hend]
        exact iff_of_false (by simp) (hstops'.not_accepts_append _)
  · have hall : migrationStatements c = before ++ stmt :: (after ++ ddlOf c.integrations) := by
      rw [migrationStatements, hsplit, List.append_assoc, List.cons_append]
    rcases migrateInto_of_refused c db s _ refusal hrun with ⟨hstate, hfailed⟩
    rw [hall, hstate, hfailed]
    exact ⟨_, hstops.attempts _, rfl,
      iff_of_false Bool.false_ne_true (hstops.not_accepts_append _)⟩

/-! ### On the way to the database -/

/-- The same surroundings, with a record of what is sent to the database. -/
def Surroundings.recorded (w : Surroundings σ) : Surroundings (σ × List Command) :=
  ⟨w.file, w.environment, w.reach, w.database.recorded⟩

namespace Invocation

/-- What the invocation sends to the database, in order. -/
def sent (i : Invocation) (w : Surroundings σ) (s : σ) : List Command :=
  (i.run w.recorded (s, [])).state.2

/-- The invocation gets as far as the database, with the configuration that it finds and
    completes. -/
structure Reaches (i : Invocation) (w : Surroundings σ) (c : Config) : Prop where
  valid : ∃ declared, Config.ofFile (w.file i.configPath) = .ok declared ∧
    declared.validate = (c, .ok ())
  address_ne : i.address w.environment c ≠ ""
  connects : connect w.reach (i.address w.environment c) = .ok ()

variable (i : Invocation) (w : Surroundings σ) (s : σ)

theorem reaches_recorded_iff (c : Config) : i.Reaches w.recorded c ↔ i.Reaches w c :=
  ⟨fun h => ⟨h.valid, h.address_ne, h.connects⟩, fun h => ⟨h.valid, h.address_ne, h.connects⟩⟩

variable {i w} in
/-- An invocation gets to the database with one configuration at most. -/
theorem Reaches.eq {c d : Config} (h : i.Reaches w c) (h' : i.Reaches w d) : c = d := by
  rcases h.valid with ⟨declared, hfile, hvalidate⟩
  rcases h'.valid with ⟨declared', hfile', hvalidate'⟩
  have hdeclared := Except.ok.inj (hfile.symm.trans hfile')
  subst hdeclared
  exact congrArg Prod.fst (hvalidate.symm.trans hvalidate')

/-- An invocation that gets as far as the database does there what it is asked for. -/
theorem run_of_reaches (hneeds : i.action.needsDatabase = true) (c : Config)
    (h : i.Reaches w c) :
    (i.run w s).state = (i.action.perform c w.database s).state ∧
      (i.run w s).succeeded = (i.action.perform c w.database s).succeeded := by
  rcases h.valid with ⟨declared, hfile, hvalidate⟩
  have hreach : reachDatabase w.reach (i.address w.environment c) = .ok () := by
    unfold reachDatabase
    rw [if_neg h.address_ne, h.connects]
    rfl
  unfold run runValid
  simp only [hfile, hvalidate, if_pos hneeds, hreach]
  exact ⟨rfl, rfl⟩

/-- An invocation that does not get as far as the database leaves it as it is, and
    fails. -/
theorem run_of_not_reaches (hneeds : i.action.needsDatabase = true)
    (h : ¬ ∃ c, i.Reaches w c) :
    (i.run w s).state = s ∧ (i.run w s).succeeded = false := by
  unfold run
  rcases hfile : Config.ofFile (w.file i.configPath) with reason | declared
  · exact ⟨rfl, rfl⟩
  · rcases hvalidate : declared.validate with ⟨c, reason | u⟩
    · simp only [hvalidate, Outcome.succeeded, Option.isNone_some, and_self]
    · have hreach : ∃ f, reachDatabase w.reach (i.address w.environment c) = .error f := by
        by_cases haddress : i.address w.environment c = ""
        · exact ⟨.noAddress, if_pos haddress⟩
        · rcases hconnect : connect w.reach (i.address w.environment c) with reason | u
          · refine ⟨.connecting reason, ?_⟩
            unfold reachDatabase
            rw [if_neg haddress, hconnect]
            rfl
          · exact absurd ⟨c, ⟨declared, hfile, hvalidate⟩, haddress, hconnect⟩ h
      rcases hreach with ⟨f, hf⟩
      unfold runValid
      simp only [hvalidate, if_pos hneeds, hf]
      exact ⟨rfl, rfl⟩

/-- An invocation that migrates sends the statements of the migration up to the first that
    is refused, and nothing behind it. It sends nothing at all if it does not get as far as
    the database, and it succeeds exactly if it does and all statements are accepted
    there. -/
theorem migration_sends (hmigrate : i.action = .migrate) :
    ((¬ ∃ c, i.Reaches w c) → i.sent w s = [] ∧ (i.run w s).succeeded = false) ∧
    (∀ c, i.Reaches w c → ∃ stmts, i.sent w s = stmts.map .statement ∧
      w.database.executor.Attempts s (migrationStatements c) stmts) ∧
    ((i.run w s).succeeded = true ↔
      ∃ c, i.Reaches w c ∧ w.database.executor.Accepts s (migrationStatements c)) := by
  have hneeds : i.action.needsDatabase = true := by rw [hmigrate]; rfl
  have hsucceeds : ∀ c, i.Reaches w c → ((i.run w s).succeeded = true ↔
      w.database.executor.Accepts s (migrationStatements c)) := by
    intro c h
    rcases migrateInto_attempts c w.database s with ⟨_, _, _, hsucceeded⟩
    rw [(i.run_of_reaches w s hneeds c h).2, hmigrate]
    exact hsucceeded
  refine ⟨fun hnot => ⟨?_, (i.run_of_not_reaches w s hneeds hnot).2⟩, fun c h => ?_, ?_⟩
  · have hrecorded : ¬ ∃ c, i.Reaches w.recorded c := by
      simp only [reaches_recorded_iff]
      exact hnot
    rw [sent, (i.run_of_not_reaches w.recorded (s, []) hneeds hrecorded).1]
  · have hrecorded := (i.reaches_recorded_iff w c).mpr h
    have hrun := (i.run_of_reaches w.recorded (s, []) hneeds c hrecorded).1
    rcases migrateInto_attempts c w.database.recorded (s, []) with ⟨stmts, hattempts, hstate, _⟩
    refine ⟨stmts, ?_, w.database.attempts_of_recorded s [] _ stmts hattempts⟩
    rw [w.database.stateAfter_recorded s [] stmts] at hstate
    rw [sent, hrun, hmigrate]
    exact congrArg Prod.snd hstate
  · constructor
    · intro hsucceeded
      by_cases hreach : ∃ c, i.Reaches w c
      · rcases hreach with ⟨c, hc⟩
        exact ⟨c, hc, (hsucceeds c hc).mp hsucceeded⟩
      · rw [(i.run_of_not_reaches w s hneeds hreach).2] at hsucceeded
        exact nomatch hsucceeded
    · rintro ⟨c, hc, haccepts⟩
      exact (hsucceeds c hc).mpr haccepts

/-- Surroundings in which every path leads to one configuration, every address is answered,
    and the database refuses the statement before which a number of others were sent. -/
def refusingAfter (n : Nat) : Surroundings Nat where
  file _ := .bytes (Text.bytes (Format.config.encode Config.annotated).text)
  environment name := if name = "PG_URL" then some "postgresql:transfers" else none
  reach _ := .answered
  database :=
    { take := fun k _ => (if k = n then .error "statement refused" else .ok (), k + 1)
      sourceRows := fun _ => []
      integrationRows := fun _ => [] }

/-- An invocation that migrates, with the address that is configured. It is that of a
    database on this machine. -/
def migrating : Invocation :=
  ⟨.migrate, "./chainshovel.json", false, false, none⟩

theorem checkAddress_transfers : checkAddress "postgresql:transfers" = .ok () := by
  have hsplit : Address.split? "postgresql:transfers" = some (.common, "transfers".toList) := by
    decide
  have hauthority : Authority.ofText? .common "transfers".toList = none := by decide
  have hparameters : Address.parameters "transfers".toList = [] := by
    unfold Address.parameters Parameter.ofQuery String.splitOn String.splitOnAux
    rfl
  unfold checkAddress
  rw [hsplit]
  simp only [hauthority, hparameters]
  rfl

theorem reaches_refusingAfter (n : Nat) :
    migrating.Reaches (refusingAfter n) Config.annotated.validate.1 := by
  have haddress : migrating.address (refusingAfter n).environment
      Config.annotated.validate.1 = "postgresql:transfers" := rfl
  refine ⟨⟨Config.annotated, Config.ofFile_written _ ?_, rfl⟩, ?_, ?_⟩
  · exact Format.carries_config _ _ Config.isSound_annotated Config.isExact_annotated
  · rw [haddress]
    decide
  · rw [haddress, connect, checkAddress_transfers]
    rfl

/-- Of the seven statements of the table the second is refused, and so the last one that is
    sent. -/
theorem migration_sends_refused :
    migrating.action = .migrate ∧
      migrating.sent (refusingAfter 4) 0 = (relationStatements ++
        ["create table if not exists transfers(amount numeric, ig_name text, src_name text, " ++
            "block_num numeric, tx_idx int)",
          "alter table transfers add column if not exists amount numeric"]).map .statement ∧
      (migrating.run (refusingAfter 4) 0).succeeded = false := by
  rcases migration_sends migrating (refusingAfter 4) 0 rfl with ⟨_, hsends, hsucceeds⟩
  have hreaches := reaches_refusingAfter 4
  have hstops : (refusingAfter 4).database.executor.Stops 0
      ((migrationStatements Config.annotated.validate.1).take 4)
      "alter table transfers add column if not exists amount numeric"
      (.executing "alter table transfers add column if not exists amount numeric"
        "error returned from database: statement refused") :=
    ⟨⟨rfl, rfl, rfl, rfl, trivial⟩, rfl⟩
  have hsplit : migrationStatements Config.annotated.validate.1 =
      (migrationStatements Config.annotated.validate.1).take 4 ++
        "alter table transfers add column if not exists amount numeric" ::
          (migrationStatements Config.annotated.validate.1).drop 5 := by decide +kernel
  have hattempts := hstops.attempts ((migrationStatements Config.annotated.validate.1).drop 5)
  rw [← hsplit] at hattempts
  refine ⟨rfl, ?_, ?_⟩
  · rcases hsends _ hreaches with ⟨stmts, hsent, hstmts⟩
    rw [hsent, hstmts.eq hattempts]
    refine congrArg (List.map Command.statement) ?_
    decide +kernel
  · refine eq_false_of_ne_true fun hsucceeded => ?_
    rcases hsucceeds.mp hsucceeded with ⟨c, hc, haccepts⟩
    rw [← hreaches.eq hc, hsplit] at haccepts
    exact hstops.not_accepts_append _ haccepts

end Invocation

end CommandLine

end EventTables
