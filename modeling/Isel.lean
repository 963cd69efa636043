import Isel.Cli.Args
import Isel.Cli.Help
import Isel.Cli.Run
import Isel.Cli.Similar
import Isel.Complaint
import Isel.Config
import Isel.Config.Read
import Isel.Decimal.Binary
import Isel.Decimal.Notation
import Isel.Decimal.Shortest
import Isel.Diagnostic
import Isel.Graph.Check
import Isel.Graph.Instr
import Isel.Graph.Json
import Isel.Graph.Listing
import Isel.Graph.Program
import Isel.Json.Decode
import Isel.Json.Read
import Isel.Json.Scalar
import Isel.Json.Typed
import Isel.Json.Value
import Isel.Json.Write
import Isel.Layout
import Isel.Lower.Error
import Isel.Lower.Expr
import Isel.Lower.Intrinsic
import Isel.Lower.Module
import Isel.Lower.State
import Isel.Main
import Isel.Span
import Isel.Text.GraphemeExtend
import Isel.Text.Printable
import Isel.Text.Quoted
import Isel.Toml.Read
import Isel.Toml.Value
import Isel.Toml.Tree
import Isel.Toml.Reader
import Isel.Toml.Layout
import Isel.Toml.Text
import Isel.Toml.Number
import Isel.Toml.DateTime
import Isel.Toml.Failure
import Isel.Tree.Expr
import Isel.Tree.Module
import Isel.Tree.Read
import Isel.Tree.Type
import Isel.Proofs.Run
import Isel.Proofs.Steps
import Isel.Proofs.Frame
import Isel.Proofs.WellFormed
import Isel.Proofs.Built
import Isel.Proofs.Declarations
import Isel.Proofs.Closed
import Isel.Proofs.Available
import Isel.Proofs.Defined
import Isel.Proofs.Edges
import Isel.Proofs.Escapes
import Isel.Proofs.Tally
import Isel.Proofs.LowerTally
import Isel.Proofs.Sealing
import Isel.Proofs.JumpFailures
import Isel.Proofs.Loops
import Isel.Proofs.Chains
import Isel.Proofs.When
import Isel.Proofs.Landing
import Isel.Proofs.Registry
import Isel.Proofs.Simulation
import Isel.Proofs.Reach
import Isel.Proofs.Regions
import Isel.Proofs.Validation
import Isel.Proofs.GlobalInit
import Isel.Proofs.Lines
import Isel.Proofs.Printing
import Isel.Proofs.SoftFailures
import Isel.Proofs.Registering
import Isel.Proofs.Lockstep
import Isel.Proofs.LockstepLowering
import Isel.Proofs.Visits
import Isel.Proofs.LockstepVisits
import Isel.Proofs.Reordering
import Isel.Proofs.DeclarationOrder
import Isel.Proofs.Panics
import Isel.Proofs.DefinedBeforeUse
import Isel.Proofs.Shut
import Isel.Proofs.Occurrences
import Isel.Proofs.Continuations
import Isel.Proofs.SelectedRegions
