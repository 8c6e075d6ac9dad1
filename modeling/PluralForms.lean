import PluralForms.Formula.Basic
import PluralForms.Formula.Render
import PluralForms.Formula.Eval
import PluralForms.Formula.Read
import PluralForms.Rule.Basic
import PluralForms.Rule.Header
import PluralForms.Formula.Descent
import PluralForms.Unicode.CodeSet
import PluralForms.Unicode.Properties
import PluralForms.Unicode.LineBreak
import PluralForms.Json.Basic
import PluralForms.Json.Write
import PluralForms.Json.Read
import PluralForms.Decimal.Binary64
import PluralForms.Json.Stream
import PluralForms.Json.Decode
import PluralForms.Tree.Write
import PluralForms.Tree.Read
import PluralForms.Text.Width
import PluralForms.Text.Wrap
import PluralForms.Report.Source
import PluralForms.Report.Render
import PluralForms.CommandLine.Grammar
import PluralForms.CommandLine.Usage
import PluralForms.CommandLine.Similar
import PluralForms.CommandLine.Number
import PluralForms.CommandLine.Complaint
import PluralForms.CommandLine.Parse
import PluralForms.Program.Invocation
import PluralForms.Program.Output
import PluralForms.Program.Run
import PluralForms.Program.Files
import PluralForms.Program.Clock
import PluralForms.Main
import PluralForms.Proofs.Reading
import PluralForms.Proofs.Grammar
import PluralForms.Proofs.Recognition
import PluralForms.Proofs.Printing
import PluralForms.Proofs.Height
import PluralForms.Proofs.Header
import PluralForms.Proofs.Limit
import PluralForms.Proofs.Evaluation
import PluralForms.Proofs.JsonText
import PluralForms.Proofs.TreeJson
import PluralForms.Proofs.Parentheses
import PluralForms.Proofs.Output
import PluralForms.Proofs.Division
import PluralForms.Proofs.Table
import PluralForms.Proofs.Stopping
import PluralForms.Proofs.Completion
import PluralForms.Proofs.Detail
import PluralForms.Proofs.Descent
import PluralForms.Proofs.Termination
