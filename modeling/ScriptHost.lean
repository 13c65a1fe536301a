import ScriptHost.Binary.Arithmetic
import ScriptHost.Binary.Datum
import ScriptHost.Binary.Decimal
import ScriptHost.Binary.Integral
import ScriptHost.Binary.Rounding
import ScriptHost.Config.Document
import ScriptHost.Config.Moment
import ScriptHost.Config.Scalar
import ScriptHost.Config.Settings
import ScriptHost.Environment.Charging
import ScriptHost.Environment.Launch
import ScriptHost.Environment.Lookup
import ScriptHost.Evaluation.Arithmetic
import ScriptHost.Evaluation.Call
import ScriptHost.Evaluation.Chunk
import ScriptHost.Evaluation.Expression
import ScriptHost.Evaluation.Members
import ScriptHost.Failure
import ScriptHost.Files
import ScriptHost.Grammar.Chunk
import ScriptHost.Grammar.Listing
import ScriptHost.Grammar.Matching
import ScriptHost.Heap
import ScriptHost.Host.Code
import ScriptHost.Host.Members
import ScriptHost.Host.Type
import ScriptHost.Host.TypeTree
import ScriptHost.Library.Arguments
import ScriptHost.Library.Core
import ScriptHost.Library.Math
import ScriptHost.Library.Text
import ScriptHost.Script.Block
import ScriptHost.Script.Reading
import ScriptHost.Table
import ScriptHost.Text.Blank
import ScriptHost.Text.CaseMap
import ScriptHost.Text.CaseTable
import ScriptHost.Text.Hidden
import ScriptHost.Text.Quoted
import ScriptHost.Text.Ranges
import ScriptHost.Value.Basic
import ScriptHost.Value.Comparison
import ScriptHost.Value.Conversion
import ScriptHost.Value.Key
import ScriptHost.World.Action
import ScriptHost.World.Display
import ScriptHost.World.Measure
import ScriptHost.World.Retention
import ScriptHost.World.State
import ScriptHost.Proofs.TypeTree.Growth
import ScriptHost.Proofs.TypeTree.Representation
import ScriptHost.Proofs.TypeTree.FullName
import ScriptHost.Proofs.TypeTree.Lookup
import ScriptHost.Proofs.TypeTree.Progress
import ScriptHost.Proofs.TypeTree.Resolution
import ScriptHost.Proofs.Environment.Enrichment
import ScriptHost.Proofs.Environment.History
import ScriptHost.Proofs.Environment.Hooks
import ScriptHost.Proofs.Environment.Interleaving
import ScriptHost.Proofs.TypeTree.Classification
import ScriptHost.Proofs.TypeTree.Naming
import ScriptHost.Proofs.Host.Browsing
import ScriptHost.Proofs.Environment.Writes
import ScriptHost.Proofs.Environment.HeapLimit
import ScriptHost.Proofs.Evaluation.Fallbacks
import ScriptHost.Proofs.Script.RoundTrip
import ScriptHost.Proofs.Script.Quotation
import ScriptHost.Proofs.Value.Key
import ScriptHost.Proofs.Value.Numerals
import ScriptHost.Proofs.Value.RawEquality
import ScriptHost.Proofs.Table.FiniteMap
import ScriptHost.Proofs.Environment.Remembered
import ScriptHost.Proofs.Evaluation.Renaming
import ScriptHost.Proofs.Environment.Builtins
import ScriptHost.Proofs.Isolation.Confinement
import ScriptHost.Proofs.Isolation.Environment
import ScriptHost.Proofs.Isolation.Evaluation
import ScriptHost.Proofs.Isolation.Moves
import ScriptHost.Proofs.Isolation.Separation
import ScriptHost.Proofs.Isolation.Settling
import ScriptHost.Proofs.Host.Access
import ScriptHost.Proofs.Host.Twins
import ScriptHost.Proofs.Host.MethodCalls
import ScriptHost.Proofs.Identity.Alongside
import ScriptHost.Proofs.Table.Sizes
import ScriptHost.Proofs.Environment.Accounts
import ScriptHost.Proofs.Environment.Globals
import ScriptHost.Proofs.Environment.HookChain
import ScriptHost.Proofs.Table.Reach
import ScriptHost.Proofs.Evaluation.CallFree
import ScriptHost.Proofs.Evaluation.Packing
import ScriptHost.Proofs.Evaluation.IntegerArithmetic
import ScriptHost.Proofs.Host.Overloads
import ScriptHost.Proofs.World.HeapCounter
import ScriptHost.Proofs.Binary.Exact
import ScriptHost.Proofs.Binary.Widening
import ScriptHost.Proofs.Library.Slices
import ScriptHost.Proofs.Library.Integers
import ScriptHost.Proofs.Library.Doubles
