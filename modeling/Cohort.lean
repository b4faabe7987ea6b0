import Cohort.Proofs.Lexing.Shape
import Cohort.Proofs.Predicate.RoundTrip
import Cohort.Main
import Cohort.Users.Operation
import Cohort.Proofs.Grammar.Returning
import Cohort.Proofs.Predicate.Likeness
import Cohort.Proofs.Predicate.Faithfulness
import Cohort.Proofs.Meaning.Cell
import Cohort.Proofs.Meaning.Query
import Cohort.Proofs.Event.Selection
import Cohort.Proofs.Meaning.Predicate
import Cohort.Proofs.Event.Users
import Cohort.Proofs.Users.Branches
import Cohort.Proofs.Event.Mapping
import Cohort.Proofs.Predicate.Conjunction
import Cohort.Proofs.Catalog.Duplication
import Cohort.Proofs.Users.Isolation
import Cohort.Proofs.Users.Segments
import Cohort.Proofs.Checking
import Cohort.Proofs.Users.Admission
import Cohort.Proofs.Users.Reached
import Cohort.Proofs.Users.Failure
import Cohort.Proofs.Users.Sending
import Cohort.Proofs.Enrichment.Dependency
import Cohort.Proofs.Enrichment.Agent
import Cohort.Proofs.Property.Conformance
import Cohort.Proofs.Enrichment.Failure
import Cohort.Proofs.Number.Rounding
import Cohort.Proofs.Predicate.Numbers
import Cohort.Proofs.Encoding.Arrangement
import Cohort.Proofs.Encoding.Predicate
import Cohort.Proofs.Time.Calendar
import Cohort.Proofs.Time.Text
import Cohort.Proofs.Encoding.Request
import Cohort.Proofs.Predicate.Leaves
import Cohort.Proofs.Predicate.Offences
import Cohort.Proofs.Encoding.Property
import Cohort.Proofs.Event.Timeframe
import Cohort.Proofs.Number.Finite
import Cohort.Proofs.Predicate.Decimals
import Cohort.Proofs.Grammar.Refusal
import Cohort.Proofs.Predicate.Filled
import Cohort.Proofs.Users.Agreement
import Cohort.Proofs.Enrichment.Completion
import Cohort.Proofs.Users.Ordering
import Cohort.Proofs.Users.Coverage
import Cohort.Proofs.Enrichment.Closure
import Cohort.Proofs.Enrichment.Declaration
import Cohort.Proofs.Settings.Seeding
import Cohort.Proofs.Enrichment.Idempotence
import Cohort.Proofs.Query.Outline
import Cohort.Proofs.Query.Sections
import Cohort.Proofs.Predicate.Negation
