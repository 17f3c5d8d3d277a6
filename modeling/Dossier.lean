import Dossier.Main
import Dossier.Proofs.Store.Call
import Dossier.Proofs.Table
import Dossier.Proofs.Store.Constraints
import Dossier.Proofs.Store.Membership
import Dossier.Proofs.Action
import Dossier.Proofs.Step
import Dossier.Proofs.Commands
import Dossier.Proofs.Evaluator
import Dossier.Proofs.Integrity
import Dossier.Proofs.Store.Lookup
import Dossier.Proofs.Selection
import Dossier.Proofs.Text.Blank
import Dossier.Proofs.Token
import Dossier.Proofs.Failure
import Dossier.Proofs.Filters
import Dossier.Proofs.Segment
import Dossier.Proofs.Spelling
import Dossier.Proofs.Formatter
import Dossier.Proofs.Parallel.Action
import Dossier.Proofs.Parallel.Session
import Dossier.Proofs.Parallel.Commands
import Dossier.Proofs.Parallel.Evaluator
import Dossier.Proofs.Color
import Dossier.Proofs.Sorting
import Dossier.Proofs.Store.Scope
import Dossier.Proofs.Parallel.Store
import Dossier.Proofs.Isolation
import Dossier.Proofs.Store.Ids
import Dossier.Proofs.Store.Run
import Dossier.Proofs.Store.Removal
import Dossier.Proofs.IdExpression
import Dossier.Proofs.Text.Utf8
import Dossier.Proofs.Composite
import Dossier.Proofs.Linking
import Dossier.Proofs.Store.Rows
import Dossier.Proofs.Store.History
import Dossier.Proofs.Input
import Dossier.Proofs.Registry.History
import Dossier.Proofs.Registry.Stem
import Dossier.Proofs.References
import Dossier.Proofs.Store.Reads
import Dossier.Proofs.Editing
import Dossier.Proofs.Store.Texts
import Dossier.Proofs.Answers
import Dossier.Proofs.Marker
import Dossier.Proofs.Printing
import Dossier.Proofs.Arguments
import Dossier.Proofs.Store.Codec
import Dossier.Proofs.Reopening
import Dossier.Proofs.Token.Written
import Dossier.Proofs.Store.Deletion
import Dossier.Proofs.Losing
import Dossier.Proofs.Deleting
import Dossier.Proofs.Calendar.Moment
import Dossier.Proofs.Calendar.Canonical
import Dossier.Proofs.Help.Columns
import Dossier.Proofs.Timeline
import Dossier.Proofs.Formatter.Rows
import Dossier.Proofs.Filters.Order
import Dossier.Proofs.Paging
import Dossier.Proofs.Pattern.Literal
import Dossier.Proofs.Store.Listings
import Dossier.Proofs.Text.Stripping
import Dossier.Proofs.Modifier
import Dossier.Proofs.Composing
