import Spreadsheet.Proofs.Dependency.Graph
import Spreadsheet.Service
import Spreadsheet.Proofs.Evaluation
import Spreadsheet.Proofs.Formula.Faults
import Spreadsheet.Proofs.Grid
import Spreadsheet.Proofs.Sheet.InSync
import Spreadsheet.Proofs.Sheet.Schedule
import Spreadsheet.Proofs.Sheet.Recompute
import Spreadsheet.Proofs.Sheet.Batch
import Spreadsheet.Proofs.Sheet.Update
import Spreadsheet.Proofs.Sheet.Operation
import Spreadsheet.Proofs.Coherence
import Spreadsheet.Proofs.Solution
import Spreadsheet.Proofs.ChangeReport
import Spreadsheet.Proofs.PathIndependence
import Spreadsheet.Proofs.Atomicity
import Spreadsheet.Proofs.Sheet.Faults
import Spreadsheet.Proofs.Synchrony
import Spreadsheet.Proofs.Sheet.UpToDate
import Spreadsheet.Proofs.Sheet.Reload
import Spreadsheet.Proofs.RoundTrip
import Spreadsheet.Proofs.Text.Digits
import Spreadsheet.Proofs.Address.Name
import Spreadsheet.Proofs.Sheet.Load
import Spreadsheet.Proofs.Sheet.Bounds
import Spreadsheet.Proofs.Json.Characters
import Spreadsheet.Proofs.Json.Values
import Spreadsheet.Proofs.Json.Joined
import Spreadsheet.Proofs.Sheet.Kept
import Spreadsheet.Proofs.Snapshot.Stored
import Spreadsheet.Proofs.Store.Holds
import Spreadsheet.Proofs.Service.Answer
import Spreadsheet.Proofs.WriteThrough
import Spreadsheet.Proofs.Number.Addition
import Spreadsheet.Proofs.Library.Filled
import Spreadsheet.Proofs.Evaluation.Related
import Spreadsheet.Proofs.SparseReads
import Spreadsheet.Proofs.EmptySums
import Spreadsheet.Proofs.Recalculation
import Spreadsheet.Proofs.Locality
import Spreadsheet.Proofs.Number.Sign
import Spreadsheet.Proofs.Formula.Grammar
import Spreadsheet.Proofs.Formula.Soundness
import Spreadsheet.Proofs.Formula.Completeness
import Spreadsheet.Proofs.Formula.Names
import Spreadsheet.Proofs.Formula.Nesting
import Spreadsheet.Proofs.Parsing
import Spreadsheet.Proofs.Number.Magnitude
import Spreadsheet.Proofs.Library.Calls
import Spreadsheet.Proofs.Library.Results
import Spreadsheet.Proofs.Evaluation.Values
import Spreadsheet.Proofs.Evaluation.Origins
import Spreadsheet.Proofs.Evaluation.Faults
import Spreadsheet.Proofs.Evaluation.Domain
import Spreadsheet.Proofs.Sheet.Failures
import Spreadsheet.Proofs.ValueDomain
import Spreadsheet.Proofs.ReadSet
import Spreadsheet.Proofs.ErrorPropagation
import Spreadsheet.Proofs.Dependency.Walk
import Spreadsheet.Proofs.Condensation
import Spreadsheet.Proofs.Service.Shown
import Spreadsheet.Proofs.Finiteness
import Spreadsheet.Proofs.Text.Case
import Spreadsheet.Proofs.AddressNames
import Spreadsheet.Proofs.GraphHistory
import Spreadsheet.Proofs.Formula.Token
import Spreadsheet.Proofs.CellNames
import Spreadsheet.Proofs.RangeWalks
import Spreadsheet.Proofs.Comparisons
import Spreadsheet.Proofs.EmptyMembers
import Spreadsheet.Proofs.StringLiterals
import Spreadsheet.Proofs.TypedNumbers
import Spreadsheet.Proofs.ReferenceWalk
import Spreadsheet.Proofs.Number.Numeral
import Spreadsheet.Proofs.Formula.Isolation
import Spreadsheet.Proofs.Formula.Positions
import Spreadsheet.Proofs.Tokenization
import Spreadsheet.Proofs.Number.Whole
import Spreadsheet.Proofs.WholeNumbers
