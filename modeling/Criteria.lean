import Criteria.Main
import Criteria.Proofs.Alignment
import Criteria.Proofs.Meaning
import Criteria.Proofs.Tasks.Searching
import Criteria.Proofs.Binary64.Text
import Criteria.Proofs.Formation
import Criteria.Proofs.Executing
import Criteria.Proofs.Form
import Criteria.Proofs.Cutting
import Criteria.Proofs.Separation
import Criteria.Proofs.Unambiguous
import Criteria.Proofs.Answering
import Criteria.Proofs.Limiting
import Criteria.Proofs.Tasks.Lines
import Criteria.Proofs.Binary64.Shortest
import Criteria.Proofs.Alike
import Criteria.Proofs.Binary64.Layout
import Criteria.Proofs.Binary64.RoundTrip
import Criteria.Proofs.Comparing
import Criteria.Proofs.Counterparts
import Criteria.Proofs.Extending
import Criteria.Proofs.Naming
import Criteria.Proofs.Places
import Criteria.Proofs.Subqueries
import Criteria.Proofs.Checking
import Criteria.Proofs.Binary64.Equality
import Criteria.Proofs.Sameness
import Criteria.Proofs.Settings
import Criteria.Proofs.Readers
import Criteria.Proofs.Tasks.Fields
import Criteria.Proofs.Presenting
import Criteria.Proofs.Binary64.Widening
import Criteria.Proofs.CommandLine.RoundTrip
import Criteria.Proofs.CommandLine.Numbers
