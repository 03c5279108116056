import ScriptBridge.Dict
import ScriptBridge.Decimal.Digits
import ScriptBridge.Text.Alphabetic
import ScriptBridge.Text.Printable
import ScriptBridge.Text.Case
import ScriptBridge.Text.Blank
import ScriptBridge.Text.Utf8
import ScriptBridge.Text.Quoted
import ScriptBridge.Decimal.Reading
import ScriptBridge.Json.Reader
import ScriptBridge.Json.Writer
import ScriptBridge.Value.Json
import ScriptBridge.Conversion
import ScriptBridge.Console.Router
import ScriptBridge.Bindings
import ScriptBridge.Config
import ScriptBridge.Language
import ScriptBridge.Syntax.Parser
import ScriptBridge.RValue.Combine
import ScriptBridge.RValue.Operate
import ScriptBridge.RValue.Replace
import ScriptBridge.RValue.Format
import ScriptBridge.Files
import ScriptBridge.Machine
import ScriptBridge.Builtin
import ScriptBridge.Machine.Eval
import ScriptBridge.Machine.Program
import ScriptBridge.Backend
import ScriptBridge.Engine
import ScriptBridge.Registry
import ScriptBridge.Proofs.Dict
import ScriptBridge.Proofs.Except
import ScriptBridge.Proofs.Steps
import ScriptBridge.Proofs.Bindings
import ScriptBridge.Proofs.Text.Cut
import ScriptBridge.Proofs.Text.Utf8
import ScriptBridge.Proofs.Text.Percent
import ScriptBridge.Proofs.Value.Parts
import ScriptBridge.Proofs.Conversion.Doubles
import ScriptBridge.Proofs.Conversion.RoundTrip
import ScriptBridge.Proofs.Conversion.Readback
import ScriptBridge.Proofs.Conversion.NamedElements
import ScriptBridge.Proofs.Conversion.ListAccess
import ScriptBridge.Proofs.Console.Router
import ScriptBridge.Proofs.Console.Signal
import ScriptBridge.Proofs.Console.Writers
import ScriptBridge.Proofs.RValue.Format
import ScriptBridge.Proofs.Syntax.Scanning
import ScriptBridge.Proofs.Syntax.Fuel
import ScriptBridge.Proofs.Syntax.Grammar
import ScriptBridge.Proofs.Syntax.Complete
import ScriptBridge.Proofs.Syntax.Regions
import ScriptBridge.Proofs.Syntax.Words
import ScriptBridge.Proofs.Syntax.Levels
import ScriptBridge.Proofs.Syntax.Rendering
import ScriptBridge.Proofs.Syntax.Continuation
import ScriptBridge.Proofs.Syntax.Boundary
import ScriptBridge.Proofs.Files
import ScriptBridge.Proofs.Space
import ScriptBridge.Proofs.Machine.Exec
import ScriptBridge.Proofs.Machine.Updates
import ScriptBridge.Proofs.Machine.Builtins
import ScriptBridge.Proofs.Machine.Atomic
import ScriptBridge.Proofs.Machine.Outline
import ScriptBridge.Proofs.Machine.Frames
import ScriptBridge.Proofs.Machine.Recursion
import ScriptBridge.Proofs.Machine.Keeps
import ScriptBridge.Proofs.Machine.Program
import ScriptBridge.Proofs.Machine.Trial
import ScriptBridge.Proofs.Machine.Termination
import ScriptBridge.Proofs.Machine.Warnings
import ScriptBridge.Proofs.Machine.Statements
import ScriptBridge.Proofs.Decimal.Doubles
import ScriptBridge.Proofs.RValue.Range
import ScriptBridge.Proofs.RValue.NamedList
import ScriptBridge.Proofs.RValue.Parts
import ScriptBridge.Proofs.RValue.Paths
import ScriptBridge.Proofs.Machine.Replacement
import ScriptBridge.Proofs.Machine.Options
import ScriptBridge.Proofs.RValue.WellFormed
import ScriptBridge.Proofs.RValue.Lookups
import ScriptBridge.Proofs.Syntax.Constants
import ScriptBridge.Proofs.Machine.WellFormed
import ScriptBridge.Proofs.Machine.BuiltinValues
import ScriptBridge.Proofs.Machine.Soundness
import ScriptBridge.Proofs.Machine.Values
import ScriptBridge.Proofs.Engine.Phases
import ScriptBridge.Proofs.Engine.Outcome
import ScriptBridge.Proofs.Engine.Binding
import ScriptBridge.Proofs.Engine.Programs
import ScriptBridge.Proofs.Engine.StopHandler
import ScriptBridge.Proofs.Engine.OnMachine
import ScriptBridge.Proofs.Engine.Stop
import ScriptBridge.Proofs.Engine.Pristine
import ScriptBridge.Proofs.Engine.Variables
import ScriptBridge.Proofs.Console.History
import ScriptBridge.Proofs.Machine.Ordered
import ScriptBridge.Proofs.Engine.TwoRuns
import ScriptBridge.Proofs.Engine.Isolation
import ScriptBridge.Proofs.Backend
import ScriptBridge.Proofs.Engine.Plan
import ScriptBridge.Proofs.Engine.BindingFailure
import ScriptBridge.Proofs.Engine.WorkingDirectory
import ScriptBridge.Proofs.Engine.Selection
import ScriptBridge.Proofs.Engine.Quoting
import ScriptBridge.Proofs.Conversion.EntryCount
import ScriptBridge.Proofs.Console.Grammar
import ScriptBridge.Proofs.Engine.Progress
import ScriptBridge.Proofs.Language
import ScriptBridge.Proofs.RValue.Placement
import ScriptBridge.Proofs.RValue.Elements
import ScriptBridge.Proofs.RValue.Lengths
import ScriptBridge.Proofs.RValue.Combination
import ScriptBridge.Proofs.RValue.Reversal
import ScriptBridge.Proofs.RValue.NumberText
import ScriptBridge.Proofs.RValue.Coercions
import ScriptBridge.Proofs.RValue.Leaves
import ScriptBridge.Proofs.RValue.Subsets
import ScriptBridge.Proofs.Machine.GlobalReplacement
import ScriptBridge.Proofs.Syntax.Brackets
import ScriptBridge.Proofs.Syntax.Division
import ScriptBridge.Proofs.Syntax.Newlines
import ScriptBridge.Proofs.Machine.Templates
import ScriptBridge.Proofs.Machine.PaddedIntegers
import ScriptBridge.Proofs.Conversion.Failures
import ScriptBridge.Proofs.Value.Json
import ScriptBridge.Proofs.Bindings.History
import ScriptBridge.Proofs.Machine.Arguments
import ScriptBridge.Proofs.RValue.Arithmetic
import ScriptBridge.Proofs.RValue.Counts
import ScriptBridge.Proofs.Machine.Lines
import ScriptBridge.Proofs.Decimal.Grammar
import ScriptBridge.Proofs.Syntax.Numbers
