import EventTables.Config.Basic
import EventTables.Error
import EventTables.Log.Notice

/-!
# Effective Sources and Integrations

What is declared and what is stored, put together.

Besides the configuration, sources and integrations are kept in a store. It is
known by what reading it gives: a list of sources, of which only name, chain and
address are kept, and a list of integrations.

Sources are known by their chain, integrations by their name. A declared one
takes the place of all stored ones, and of several on the same side the last
one counts. Records are taken as a whole: nothing of one that was replaced
remains. The results come in the order of chain numbers and of names.

## Main definitions

* `Store`: What reading a store gives.
* `Store.failing`: A store that cannot be read.
* `effectiveSources`, `effectiveIntegrations`: The two views.
* `groupBySource`: Integrations under the names of the sources they read.
* `Config.allSources`: The effective sources over a store.
* `Config.integrationsBySource`: The effective integrations over a store,
  grouped by source.
-/

namespace EventTables

/-- What reading a store gives. -/
structure Store where
  sources : Except Error (List Source)
  integrations : Except Error (List Integration)
deriving Inhabited

/-- A store whose every read fails. -/
def Store.failing (operation reason : String) : Store :=
  ⟨.error (.storage operation reason), .error (.storage operation reason)⟩

/-- The sources that count, under their chains. -/
def effectiveSources (declared stored : List Source) : Keyed UInt64 Source :=
  Keyed.ofList ((stored ++ declared).map fun s => (s.chainId, s))

/-- The integrations that count, under their names. -/
def effectiveIntegrations (declared stored : List Integration) : Keyed String Integration :=
  Keyed.ofList ((stored ++ declared).map fun ig => (ig.name, ig))

/-- The groups with one more integration at the end of one of them. -/
def appendTo (groups : Keyed String (List Integration)) (key : String) (ig : Integration) :
    Keyed String (List Integration) :=
  groups.put key (((groups.find? key).getD []) ++ [ig])

/-- The integrations under the names of the sources that they read, one with
    several sources under each. -/
def groupBySource (igs : List Integration) : Keyed String (List Integration) :=
  igs.foldl (fun groups ig => ig.sources.foldl (fun groups s => appendTo groups s.name ig) groups)
    []

namespace Config

/-- The effective sources, one for each chain, in the order of the chains. -/
def allSources (c : Config) (store : Store) : Except Error (List Source) := do
  let stored ← store.sources
  return (effectiveSources c.sources stored).map (·.2)

/-- The effective integrations under the names of their sources, in each group
    in the order of their names. -/
def integrationsBySource (c : Config) (store : Store) :
    Except Error (Keyed String (List Integration)) := do
  let stored ← store.integrations
  return groupBySource ((effectiveIntegrations c.integrations stored).map (·.2))

/-- What is reported of the effective sources. -/
def allSourcesNotices (c : Config) (store : Store) : List Notice :=
  match store.sources with
  | .ok stored => [.mergedSources (effectiveSources c.sources stored).length]
  | .error _ => []

/-- What is reported of the effective integrations. -/
def integrationsBySourceNotices (c : Config) (store : Store) : List Notice :=
  match store.integrations with
  | .ok stored => [.mergedIntegrations (effectiveIntegrations c.integrations stored).length]
  | .error _ => []

end Config

end EventTables
