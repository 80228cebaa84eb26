import LittleComputer.Builder
import LittleComputer.Cells
import LittleComputer.Condition
import LittleComputer.ConfigurationError
import LittleComputer.Decimal.Binary64
import LittleComputer.Decimal.Numeral
import LittleComputer.Decimal.Reader
import LittleComputer.Decimal.Shortest
import LittleComputer.Engine
import LittleComputer.Executor
import LittleComputer.Failure
import LittleComputer.Fault
import LittleComputer.Instruction.Basic
import LittleComputer.Instruction.Candidate
import LittleComputer.Instruction.Operand
import LittleComputer.Isa
import LittleComputer.Json.Basic
import LittleComputer.Json.Reader
import LittleComputer.Json.Writer
import LittleComputer.Labels
import LittleComputer.Log
import LittleComputer.Processor
import LittleComputer.Program
import LittleComputer.Session.Basic
import LittleComputer.Session.Command
import LittleComputer.Sheet.Basic
import LittleComputer.Sheet.Error
import LittleComputer.Sheet.Manager
import LittleComputer.Sheet.Reader
import LittleComputer.Source.Assembly
import LittleComputer.Source.Error
import LittleComputer.Source.Keyword
import LittleComputer.Source.Line
import LittleComputer.Source.Number
import LittleComputer.Statement
import LittleComputer.Table
import LittleComputer.Text.Blank
import LittleComputer.Text.CodePoint
import LittleComputer.Text.DecimalDigit
import LittleComputer.Text.LetterCase
import LittleComputer.Text.LetterCase.Table
import LittleComputer.Text.Lines
import LittleComputer.Text.Printable
import LittleComputer.Text.Quoted
import LittleComputer.Trap
import LittleComputer.Validation
import LittleComputer.Value
import LittleComputer.Word
import LittleComputer.Proofs.Builder.Branch
import LittleComputer.Proofs.Builder.Calls
import LittleComputer.Proofs.Builder.Filling
import LittleComputer.Proofs.Builder.Freezing
import LittleComputer.Proofs.Builder.Position
import LittleComputer.Proofs.Builder.Unbound
import LittleComputer.Proofs.Engine.Atomicity
import LittleComputer.Proofs.Engine.Blame
import LittleComputer.Proofs.Engine.Calls
import LittleComputer.Proofs.Engine.Effects
import LittleComputer.Proofs.Engine.Fault
import LittleComputer.Proofs.Engine.Forward
import LittleComputer.Proofs.Engine.Halting
import LittleComputer.Proofs.Engine.LastStore
import LittleComputer.Proofs.Engine.Restart
import LittleComputer.Proofs.Engine.Running
import LittleComputer.Proofs.Engine.Step
import LittleComputer.Proofs.Engine.Trail
import LittleComputer.Proofs.Engine.Unbound
import LittleComputer.Proofs.Engine.Words
import LittleComputer.Proofs.Json.Limits
import LittleComputer.Proofs.Outcome
import LittleComputer.Proofs.Processor.Contents
import LittleComputer.Proofs.Program.Binding
import LittleComputer.Proofs.Program.Growth
import LittleComputer.Proofs.Program.NamedLabels
import LittleComputer.Proofs.Program.Refusals
import LittleComputer.Proofs.Programs.BitScan
import LittleComputer.Proofs.Programs.Texts
import LittleComputer.Proofs.Programs.ZeroOne
import LittleComputer.Proofs.Programs.ZeroRun
import LittleComputer.Proofs.Reference.Execution
import LittleComputer.Proofs.Reference.Halting
import LittleComputer.Proofs.Reference.Loading
import LittleComputer.Proofs.Reference.Machine
import LittleComputer.Proofs.Reference.Simulation
import LittleComputer.Proofs.Session.Assembling
import LittleComputer.Proofs.Session.Indices
import LittleComputer.Proofs.Session.Operations
import LittleComputer.Proofs.Session.Registers
import LittleComputer.Proofs.Session.Words
import LittleComputer.Proofs.Sheet.Bundled
import LittleComputer.Proofs.Sheet.Enabling
import LittleComputer.Proofs.Sheet.History
import LittleComputer.Proofs.Sheet.Reading
import LittleComputer.Proofs.Sheet.Refusal
import LittleComputer.Proofs.Sheet.Soundness
import LittleComputer.Proofs.Source.Alike
import LittleComputer.Proofs.Source.Declared
import LittleComputer.Proofs.Source.Growth
import LittleComputer.Proofs.Source.Joined
import LittleComputer.Proofs.Source.LabelWords
import LittleComputer.Proofs.Source.Labels
import LittleComputer.Proofs.Source.Layout
import LittleComputer.Proofs.Source.Lines
import LittleComputer.Proofs.Source.Location
import LittleComputer.Proofs.Source.Meaning
import LittleComputer.Proofs.Source.Numbers
import LittleComputer.Proofs.Source.Operands
import LittleComputer.Proofs.Source.Readings
import LittleComputer.Proofs.Source.Refused
import LittleComputer.Proofs.Source.Rendering
import LittleComputer.Proofs.Source.Reserved
import LittleComputer.Proofs.Source.Spelling
import LittleComputer.Proofs.Text.Fields
import LittleComputer.Proofs.Text.LetterCase
import LittleComputer.Proofs.Text.Lines
import LittleComputer.Proofs.Text.Words
import LittleComputer.Proofs.Word.BitVector
import LittleComputer.Proofs.Word.Wrapping
import LittleComputer.Proofs.Session.Seeding
import LittleComputer.Proofs.Session.Tracing
import LittleComputer.Proofs.Source.Conditions
