import QueryGuard.Comparison.Evaluation
import QueryGuard.Config
import QueryGuard.Json
import QueryGuard.Json.Printer
import QueryGuard.Json.Reader
import QueryGuard.Json.Record
import QueryGuard.Json.Token
import QueryGuard.Members
import QueryGuard.Number
import QueryGuard.Number.Decimal
import QueryGuard.Number.Double
import QueryGuard.Pattern
import QueryGuard.Pattern.Expr
import QueryGuard.Pattern.Reader
import QueryGuard.Person
import QueryGuard.Policy
import QueryGuard.Policy.Cache
import QueryGuard.Policy.Condition
import QueryGuard.Policy.Endpoint
import QueryGuard.Policy.Projection
import QueryGuard.Policy.Store
import QueryGuard.PolicyError
import QueryGuard.Proofs.Acceptance
import QueryGuard.Proofs.Accounting
import QueryGuard.Proofs.Admission
import QueryGuard.Proofs.Adoption
import QueryGuard.Proofs.Attribution
import QueryGuard.Proofs.Clauses
import QueryGuard.Proofs.Coherence
import QueryGuard.Proofs.Conflicts
import QueryGuard.Proofs.Denial
import QueryGuard.Proofs.Derivation
import QueryGuard.Proofs.Distribution
import QueryGuard.Proofs.Documents
import QueryGuard.Proofs.Editing
import QueryGuard.Proofs.Equality
import QueryGuard.Proofs.Expiry
import QueryGuard.Proofs.Folding
import QueryGuard.Proofs.Fragments
import QueryGuard.Proofs.Gathering
import QueryGuard.Proofs.Globs
import QueryGuard.Proofs.Grammar
import QueryGuard.Proofs.Histories
import QueryGuard.Proofs.InForce
import QueryGuard.Proofs.Inquiry
import QueryGuard.Proofs.Interruption
import QueryGuard.Proofs.Isolation
import QueryGuard.Proofs.Joining
import QueryGuard.Proofs.KeyOrder
import QueryGuard.Proofs.Linkage
import QueryGuard.Proofs.Lowering
import QueryGuard.Proofs.Matching
import QueryGuard.Proofs.Members
import QueryGuard.Proofs.Merge
import QueryGuard.Proofs.Narrowing
import QueryGuard.Proofs.NativeQueries
import QueryGuard.Proofs.Ordering
import QueryGuard.Proofs.Principal
import QueryGuard.Proofs.Projecting
import QueryGuard.Proofs.Rebinding
import QueryGuard.Proofs.Records
import QueryGuard.Proofs.References
import QueryGuard.Proofs.Refolding
import QueryGuard.Proofs.Refusals
import QueryGuard.Proofs.Repetition
import QueryGuard.Proofs.Resolving
import QueryGuard.Proofs.Retrying
import QueryGuard.Proofs.RoundTrip
import QueryGuard.Proofs.Routes
import QueryGuard.Proofs.Sameness
import QueryGuard.Proofs.Satisfaction
import QueryGuard.Proofs.Silence
import QueryGuard.Proofs.Skipped
import QueryGuard.Proofs.Spelling
import QueryGuard.Proofs.Stores
import QueryGuard.Proofs.Strictness
import QueryGuard.Proofs.Substituting
import QueryGuard.Proofs.WellFormed
import QueryGuard.Proofs.Writings
import QueryGuard.Query
import QueryGuard.Query.Document
import QueryGuard.Query.Fold
import QueryGuard.Query.Key
import QueryGuard.Query.Lowering
import QueryGuard.Query.Merge
import QueryGuard.Request.Accumulation
import QueryGuard.Request.Context
import QueryGuard.Request.Enforcement
import QueryGuard.Request.Environment
import QueryGuard.Request.Substitution
import QueryGuard.Service
import QueryGuard.StorageError
import QueryGuard.Text.Blank
import QueryGuard.Text.CaseFold
import QueryGuard.Text.Category
import QueryGuard.Text.CharSet
import QueryGuard.Text.Class
import QueryGuard.Text.LowerCase
import QueryGuard.Text.Property
import QueryGuard.Text.Script
import QueryGuard.Text.Shift
import QueryGuard.Time.DateTime
import QueryGuard.Time.Span
import QueryGuard.Toml
import QueryGuard.Toml.Reader
import QueryGuard.Toml.Scalar
