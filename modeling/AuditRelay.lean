import AuditRelay.Application
import AuditRelay.Broker.Memory
import AuditRelay.Broker.Scripted
import AuditRelay.DeadLetters
import AuditRelay.Log.Enrich
import AuditRelay.Nats.Gate
import AuditRelay.Nats.Server
import AuditRelay.Recorder
import AuditRelay.Text.Hex
import AuditRelay.Proofs.Stock
import AuditRelay.Proofs.Desk
import AuditRelay.Proofs.InTurn
import AuditRelay.Proofs.Backpressure
import AuditRelay.Proofs.Patience
import AuditRelay.Proofs.Drain
import AuditRelay.Proofs.Timing
import AuditRelay.Proofs.Route
import AuditRelay.Proofs.Storage
import AuditRelay.Proofs.Lifecycle
import AuditRelay.Proofs.Untouched
import AuditRelay.Proofs.Release
import AuditRelay.Proofs.Wire
import AuditRelay.Proofs.Payload
import AuditRelay.Proofs.Tolerance
import AuditRelay.Proofs.Overlay
import AuditRelay.Proofs.Consistency
import AuditRelay.Proofs.Numbering
import AuditRelay.Proofs.Process
import AuditRelay.Proofs.Ledger
import AuditRelay.Proofs.Publishers
import AuditRelay.Proofs.Series
import AuditRelay.Proofs.Timetable
import AuditRelay.Proofs.Approach
import AuditRelay.Proofs.Requests
import AuditRelay.Proofs.Subjects
import AuditRelay.Proofs.Configuration
import AuditRelay.Proofs.Decision
import AuditRelay.Proofs.Limits
import AuditRelay.Proofs.Forwarding
import AuditRelay.Proofs.Reception
import AuditRelay.Proofs.Likeness
import AuditRelay.Proofs.Password
import AuditRelay.Proofs.Handles
import AuditRelay.Proofs.Retention
import AuditRelay.Proofs.Waiting
import AuditRelay.Proofs.Gate
import AuditRelay.Proofs.Permits
import AuditRelay.Proofs.Enrichment
