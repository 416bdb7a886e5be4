import QueryGate.Main
import QueryGate.Proofs.Checksums
import QueryGate.Proofs.Collisions
import QueryGate.Proofs.Completions
import QueryGate.Proofs.Credentials
import QueryGate.Proofs.Declared
import QueryGate.Proofs.Drift
import QueryGate.Proofs.Inventories
import QueryGate.Proofs.Isolation
import QueryGate.Proofs.Keys
import QueryGate.Proofs.Layers
import QueryGate.Proofs.Overtaking
import QueryGate.Proofs.Payloads
import QueryGate.Proofs.Queries
import QueryGate.Proofs.Resolutions
import QueryGate.Proofs.Retries
import QueryGate.Proofs.Revisions
import QueryGate.Proofs.Rollback
import QueryGate.Proofs.SeenWords
import QueryGate.Proofs.Spacing
import QueryGate.Proofs.Splitting
import QueryGate.Proofs.Tokens
import QueryGate.Report.Encoding
