import SqlSmell.Main
import SqlSmell.Proofs.Command.Inputs
import SqlSmell.Proofs.Pattern.WholeToken
import SqlSmell.Proofs.Report.History
import SqlSmell.Proofs.Rule.Overrides
import SqlSmell.Proofs.Rule.Registration
import SqlSmell.Proofs.Rule.SelfReference
import SqlSmell.Proofs.Script.ByteLength
import SqlSmell.Proofs.Script.LetterCase
import SqlSmell.Proofs.Script.LineComment
import SqlSmell.Proofs.Script.Loading
import SqlSmell.Proofs.Command.Failure
import SqlSmell.Proofs.Rule.Independence
import SqlSmell.Proofs.Rule.Rejection
import SqlSmell.Proofs.Rule.Severity
import SqlSmell.Proofs.Settings.Precedence
import SqlSmell.Proofs.Settings.Titles
import SqlSmell.Proofs.Command.Disabling
import SqlSmell.Proofs.Pattern.Literal
import SqlSmell.Proofs.Statement.NormalForm
import SqlSmell.Proofs.Statement.Opening
import SqlSmell.Proofs.Statement.TableName
import SqlSmell.Proofs.Script.Lines
import SqlSmell.Proofs.Script.Resplit
import SqlSmell.Proofs.Render.Escapes
import SqlSmell.Proofs.Render.Styles
