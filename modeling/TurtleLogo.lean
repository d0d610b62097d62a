import TurtleLogo.Action
import TurtleLogo.Console.Brackets
import TurtleLogo.Console.Definitions
import TurtleLogo.Console.Options
import TurtleLogo.Console.Session
import TurtleLogo.Decimal.Binary
import TurtleLogo.Decimal.Layout
import TurtleLogo.Decimal.Reading
import TurtleLogo.Decimal.Shortest
import TurtleLogo.Error
import TurtleLogo.File.Fault
import TurtleLogo.File.Path
import TurtleLogo.File.Tree
import TurtleLogo.Grammar.Item
import TurtleLogo.Grammar.Machine
import TurtleLogo.Grammar.Rule
import TurtleLogo.Grammar.Scanner
import TurtleLogo.Grammar.Table
import TurtleLogo.Grammar.Terminal
import TurtleLogo.Grammar.Token
import TurtleLogo.Journal
import TurtleLogo.Log.Note
import TurtleLogo.Log.Setup
import TurtleLogo.Main
import TurtleLogo.Program.Command
import TurtleLogo.Program.Evaluate
import TurtleLogo.Program.Expr
import TurtleLogo.Program.Parse
import TurtleLogo.Program.Record
import TurtleLogo.Program.Run
import TurtleLogo.Program.Sleep
import TurtleLogo.Proofs.Action
import TurtleLogo.Proofs.Console.Brackets
import TurtleLogo.Proofs.Console.Definitions
import TurtleLogo.Proofs.Console.Depth
import TurtleLogo.Proofs.Console.FileMode
import TurtleLogo.Proofs.Console.Partition
import TurtleLogo.Proofs.Console.Prompt
import TurtleLogo.Proofs.Decimal.Reading
import TurtleLogo.Proofs.Grammar.Automaton
import TurtleLogo.Proofs.Grammar.Completeness
import TurtleLogo.Proofs.Grammar.Enumeration
import TurtleLogo.Proofs.Grammar.Layout
import TurtleLogo.Proofs.Grammar.Lexeme
import TurtleLogo.Proofs.Grammar.Likeness
import TurtleLogo.Proofs.Grammar.Nesting
import TurtleLogo.Proofs.Grammar.Pattern
import TurtleLogo.Proofs.Grammar.Phrase
import TurtleLogo.Proofs.Grammar.Reading
import TurtleLogo.Proofs.Grammar.Scanning
import TurtleLogo.Proofs.Grammar.Sentence
import TurtleLogo.Proofs.Grammar.Stack
import TurtleLogo.Proofs.Grammar.Termination
import TurtleLogo.Proofs.Grammar.Viable
import TurtleLogo.Proofs.Program.Blame
import TurtleLogo.Proofs.Program.Composition
import TurtleLogo.Proofs.Program.Echo
import TurtleLogo.Proofs.Program.Evaluation
import TurtleLogo.Proofs.Program.Inert
import TurtleLogo.Proofs.Program.Joining
import TurtleLogo.Proofs.Program.Kinds
import TurtleLogo.Proofs.Program.Lines
import TurtleLogo.Proofs.Program.Literals
import TurtleLogo.Proofs.Program.Motion
import TurtleLogo.Proofs.Program.Printing
import TurtleLogo.Proofs.Program.Respelling
import TurtleLogo.Proofs.Program.Safety
import TurtleLogo.Proofs.Program.Script
import TurtleLogo.Proofs.Program.Spacing
import TurtleLogo.Proofs.Program.Splitting
import TurtleLogo.Proofs.Program.Tracking
import TurtleLogo.Proofs.Quantity
import TurtleLogo.Proofs.Robot.Handles
import TurtleLogo.Proofs.Robot.Hardware
import TurtleLogo.Proofs.Robot.Lifecycle
import TurtleLogo.Proofs.Robot.LockStep
import TurtleLogo.Proofs.Robot.Pen
import TurtleLogo.Proofs.Robot.Ports
import TurtleLogo.Proofs.Robot.Shutdown
import TurtleLogo.Proofs.Robot.Steering
import TurtleLogo.Proofs.Robot.Stepping
import TurtleLogo.Proofs.Text.Letters
import TurtleLogo.Proofs.Turtle.Decoration
import TurtleLogo.Proofs.Turtle.History
import TurtleLogo.Proofs.Turtle.Report
import TurtleLogo.Quantity
import TurtleLogo.Request
import TurtleLogo.Rig
import TurtleLogo.Robot.Bench
import TurtleLogo.Robot.Config
import TurtleLogo.Robot.DeviceFile
import TurtleLogo.Robot.Drive
import TurtleLogo.Robot.Servo
import TurtleLogo.Robot.Stepper
import TurtleLogo.Robot.Wiring
import TurtleLogo.Scalar
import TurtleLogo.Settings
import TurtleLogo.Text.Blank
import TurtleLogo.Text.Digit
import TurtleLogo.Text.Lines
import TurtleLogo.Text.Lowercase
import TurtleLogo.Text.Printable
import TurtleLogo.Text.Quoted
import TurtleLogo.Text.Range
import TurtleLogo.Text.Split
import TurtleLogo.Text.Utf8
import TurtleLogo.Text.Word
import TurtleLogo.Turtle.Basic
import TurtleLogo.Turtle.Faulty
import TurtleLogo.Turtle.Observed
import TurtleLogo.Turtle.Pose
import TurtleLogo.Turtle.Reported
