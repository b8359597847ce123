import PgConverge.Client.Backend
import PgConverge.Connection.Script
import PgConverge.Database.Document
import PgConverge.Proofs.Connection.Yield
import PgConverge.Proofs.Elevation.Course
import PgConverge.Proofs.Elevation.Protocol
import PgConverge.Proofs.Reconciler.Plain
import PgConverge.Proofs.Connection.Numbering
import PgConverge.Proofs.Elevation.History
import PgConverge.Proofs.Reconciler.Call
import PgConverge.Proofs.Reconciler.Unwinding
import PgConverge.Proofs.Elevation.Cleanup
import PgConverge.Proofs.Reconciler.Problem
import PgConverge.Proofs.Reconciler.Problem.Elevated
import PgConverge.Proofs.Reconciler.Reporting
import PgConverge.Proofs.Contention.Cluster
import PgConverge.Proofs.Contention.Exclusion
import PgConverge.Proofs.Contention.Reassignment
import PgConverge.Proofs.Reconciler.Retry
import PgConverge.Proofs.Sql.Command
import PgConverge.Proofs.Sql.Quote
import PgConverge.Proofs.Reconciler.Creation
import PgConverge.Proofs.Reconciler.Convergence
import PgConverge.Proofs.Reconciler.Wording
import PgConverge.Proofs.Reconciler.Compatibility
import PgConverge.Proofs.Reconciler.Dropping
import PgConverge.Proofs.Reconciler.Keeping
import PgConverge.Proofs.Reconciler.ReadBack
import PgConverge.Proofs.Reconciler.Lifecycle
import PgConverge.Proofs.Elevation.Privilege
import PgConverge.Proofs.Reconciler.Handover.Course
import PgConverge.Proofs.Reconciler.Handover
import PgConverge.Proofs.Reconciler.Plan.Performed
import PgConverge.Proofs.Reconciler.Plan
import PgConverge.Proofs.Text.Blank
import PgConverge.Proofs.Version.Reading
import PgConverge.Proofs.Reconciler.Preflight
import PgConverge.Proofs.Catalog
import PgConverge.Proofs.Reconciler.Inquiry
import PgConverge.Proofs.Reconciler.Respelling
import PgConverge.Proofs.Version.Reported
import PgConverge.Proofs.Database.Document
import PgConverge.Proofs.Client.Options
import PgConverge.Proofs.Client.Password
