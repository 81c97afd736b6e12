import EventTables.Config.Basic
import EventTables.Json.Record

/-!
# Configuration Documents

How configurations and their parts are written as JSON.

Every record is described by its members in the order in which they are
written. Most members have a default and may be left out. Events and inputs
keep the members that are not described here; all other records drop them.

## Main definitions

* `Format.config`, `Format.integration`, …: The codec of each type.
-/

namespace EventTables

namespace Format

open Json

/-- A setting, as it is written. -/
def setting : Codec Setting :=
  Codec.string.convert Setting.mk Setting.text

/-- The members of a source. -/
def sourceShape : Shape Source where
  title := "struct Source"
  blank := Source.named "" 0 ⟨""⟩
  members :=
    [.needed "name" .string (·.name) (fun v s => { s with name := v }),
     .withDefault "chain_id" .uint64 (·.chainId) (fun v s => { s with chainId := v }),
     .withDefault "url" setting (·.url) (fun v s => { s with url := v }),
     .withDefault "start" .uint64 (·.start) (fun v s => { s with start := v }),
     .withDefault "stop" .uint64 (·.stop) (fun v s => { s with stop := v }),
     .withDefault "concurrency" .uint32 (·.concurrency) (fun v s => { s with concurrency := v }),
     .withDefault "batch_size" .uint32 (·.batchSize) (fun v s => { s with batchSize := v })]

/-- A source. -/
def source : Codec Source := sourceShape.closed

/-- The members of a column. -/
def columnShape : Shape Column where
  title := "struct Column"
  blank := ⟨"", ""⟩
  members :=
    [.needed "name" .string (·.name) (fun v c => { c with name := v }),
     .needed "type" .string (·.type) (fun v c => { c with type := v })]

/-- A column. -/
def column : Codec Column := columnShape.closed

/-- The members of a table. -/
def tableShape : Shape Table where
  title := "struct Table"
  blank := Table.empty ""
  members :=
    [.needed "name" .string (·.name) (fun v t => { t with name := v }),
     .withDefault "columns" (.listOf column) (·.columns) (fun v t => { t with columns := v }),
     .withDefault "unique" (.listOf (.listOf .string)) (·.unique)
       (fun v t => { t with unique := v })]

/-- A table. -/
def table : Codec Table := tableShape.closed

/-- The members of a block field. -/
def blockFieldShape : Shape BlockField where
  title := "struct BlockData"
  blank := ⟨"", ""⟩
  members :=
    [.needed "name" .string (·.name) (fun v b => { b with name := v }),
     .withDefault "column" .string (·.column) (fun v b => { b with column := v })]

/-- A block field. -/
def blockField : Codec BlockField := blockFieldShape.closed

/-- The described members of an input. -/
def inputShape : Shape Input where
  title := "struct Input"
  blank := Input.plain "" ""
  members :=
    [.needed "name" .string (·.name) (fun v i => { i with name := v }),
     .withDefault "type" .string (·.type) (fun v i => { i with type := v }),
     .withDefault "indexed" .boolean (·.indexed) (fun v i => { i with indexed := v }),
     .optional "column" .string (·.column) (fun v i => { i with column := v }),
     .optional "column_type" .string (·.columnType) (fun v i => { i with columnType := v })]

/-- An input, with the members that are not described. -/
def input : Codec Input :=
  inputShape.opened (fun k v i => { i with extra := i.extra.put k v }) (·.extra)

/-- The described members of an event. -/
def eventShape : Shape Event where
  title := "struct Event"
  blank := Event.blank
  members :=
    [.withDefault "name" .string (·.name) (fun v e => { e with name := v }),
     .withDefault "type" .string (·.type) (fun v e => { e with type := v }),
     .withDefault "anonymous" .boolean (·.anonymous) (fun v e => { e with anonymous := v }),
     .withDefault "inputs" (.listOf input) (·.inputs) (fun v e => { e with inputs := v })]

/-- An event, with the members that are not described. -/
def event : Codec Event :=
  eventShape.opened (fun k v e => { e with extra := e.extra.put k v }) (·.extra)

/-- The members of a compiled integration. -/
def compiledShape : Shape Compiled where
  title := "struct Compiled"
  blank := ⟨"", .null⟩
  members :=
    [.withDefault "name" .string (·.name) (fun v c => { c with name := v }),
     .withDefault "config" .any (·.config) (fun v c => { c with config := v })]

/-- The compiled form of an integration. -/
def compiled : Codec Compiled := compiledShape.closed

/-- The members of an integration. -/
def integrationShape : Shape Integration where
  title := "struct Integration"
  blank := Integration.blank ""
  members :=
    [.needed "name" .string (·.name) (fun v ig => { ig with name := v }),
     .withDefault "enabled" .boolean (·.enabled) (fun v ig => { ig with enabled := v }),
     .withDefault "sources" (.listOf source) (·.sources) (fun v ig => { ig with sources := v }),
     .withDefault "table" table (·.table) (fun v ig => { ig with table := v }),
     .withDefault "compiled" compiled (·.compiled) (fun v ig => { ig with compiled := v }),
     .withDefault "block" (.listOf blockField) (·.block) (fun v ig => { ig with block := v }),
     .withDefault "event" event (·.event) (fun v ig => { ig with event := v })]

/-- An integration. -/
def integration : Codec Integration := integrationShape.closed

/-- The members of the dashboard settings. -/
def dashboardShape : Shape Dashboard where
  title := "struct Dashboard"
  blank := ⟨false, false, ⟨""⟩⟩
  members :=
    [.withDefault "enable_loopback_authn" .boolean (·.enableLoopbackAuthn)
       (fun v d => { d with enableLoopbackAuthn := v }),
     .withDefault "disable_authn" .boolean (·.disableAuthn)
       (fun v d => { d with disableAuthn := v }),
     .withDefault "root_password" setting (·.rootPassword)
       (fun v d => { d with rootPassword := v })]

/-- The dashboard settings. -/
def dashboard : Codec Dashboard := dashboardShape.closed

/-- The members of a configuration. -/
def configShape : Shape Config where
  title := "struct Root"
  blank := Config.empty
  members :=
    [.withDefault "dashboard" dashboard (·.dashboard) (fun v c => { c with dashboard := v }),
     .withDefault "pg_url" setting (·.databaseUrl) (fun v c => { c with databaseUrl := v }),
     .withDefault "eth_sources" (.listOf source) (·.sources) (fun v c => { c with sources := v }),
     .withDefault "integrations" (.listOf integration) (·.integrations)
       (fun v c => { c with integrations := v })]

/-- A configuration. -/
def config : Codec Config := configShape.closed

end Format

end EventTables
