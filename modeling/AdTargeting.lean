import AdTargeting.Main
import AdTargeting.Proofs.Double.Reading
import AdTargeting.Session
import AdTargeting.Proofs.Condition.Classification
import AdTargeting.Proofs.Condition.Lexeme
import AdTargeting.Proofs.Condition.Grammar
import AdTargeting.Proofs.Condition.FirstFault
import AdTargeting.Proofs.Condition.Acceptance
import AdTargeting.Proofs.Evaluation.Verdict
import AdTargeting.Proofs.Condition.Printable
import AdTargeting.Proofs.Condition.ShortSpelling
import AdTargeting.Proofs.Condition.RoundTrip
import AdTargeting.Proofs.Condition.Normalization
import AdTargeting.Proofs.Serving.Blank
import AdTargeting.Proofs.Condition.Image
import AdTargeting.Proofs.Serving.Canonical
import AdTargeting.Proofs.Serving.OnePass
import AdTargeting.Proofs.Condition.Enclosed
import AdTargeting.Proofs.Serving.Joined
import AdTargeting.Proofs.Condition.Parentheses
import AdTargeting.Proofs.Condition.Laxer
import AdTargeting.Proofs.Serving.Paths
import AdTargeting.Proofs.Condition.DepthLimit
import AdTargeting.Proofs.Condition.Parallel
import AdTargeting.Proofs.Condition.Switches
import AdTargeting.Proofs.Session.Slots
import AdTargeting.Proofs.Evaluation.Reach
import AdTargeting.Proofs.Evaluation.Grouping
import AdTargeting.Proofs.Evaluation.LongForm
import AdTargeting.Proofs.Serving.Relevance
import AdTargeting.Proofs.Serving.Monotone
import AdTargeting.Proofs.Condition.Layout
import AdTargeting.Proofs.Condition.Account
import AdTargeting.Proofs.Serving.Unbalanced
import AdTargeting.Proofs.Double.Nearest
import AdTargeting.Proofs.Condition.ComparisonPlaces
import AdTargeting.Proofs.Condition.Cursor
import AdTargeting.Proofs.Double.Integers
import AdTargeting.Proofs.Serving.Integers
import AdTargeting.Proofs.Suite.Check
import AdTargeting.Proofs.Attributes.Entries
import AdTargeting.Proofs.Attributes.Decoding
import AdTargeting.Proofs.Attributes.History
import AdTargeting.Proofs.Options.Spelling
import AdTargeting.Proofs.Options.Variables
import AdTargeting.Proofs.CommandLine.Resolution
