import EventTables.Config.Edit
import EventTables.Main
import EventTables.Proofs.Bookkeeping
import EventTables.Proofs.CommandLine.Migration
import EventTables.Proofs.Config.Completed
import EventTables.Proofs.Config.RoundTrip
import EventTables.Proofs.Filling
import EventTables.Proofs.Refusal
import EventTables.Proofs.Schema.Agreement
import EventTables.Proofs.Schema.ClosedForm
import EventTables.Proofs.Schema.Conflicts
import EventTables.Proofs.Schema.Convergence
import EventTables.Proofs.Schema.Coverage
import EventTables.Proofs.Schema.Identity
import EventTables.Proofs.Schema.IndexColumns
import EventTables.Proofs.Schema.IndexNames
import EventTables.Proofs.Schema.Ownership
import EventTables.Proofs.Schema.Unambiguity
import EventTables.Proofs.Store.Backends
import EventTables.Proofs.Store.Calls
import EventTables.Proofs.Store.Listing
import EventTables.Proofs.Store.Persisting
import EventTables.Proofs.Store.RowOrder
import EventTables.Proofs.Table.Algebra
import EventTables.Schema.Catalog
import EventTables.Store.Memory
import EventTables.Store.Relations
import EventTables.Proofs.Reference.Faults
import EventTables.Proofs.Store.Chains
import EventTables.Proofs.Identifier.Faults
import EventTables.Proofs.Store.Rows
