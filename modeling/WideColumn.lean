import WideColumn.Client.Operations
import WideColumn.Json.Reader
import WideColumn.Payload.Json
import WideColumn.Proofs.Client.Conditions
import WideColumn.Proofs.Client.Failures
import WideColumn.Proofs.Payload.RowJson
import WideColumn.Proofs.Statement.Alignment
import WideColumn.Proofs.Client.RecentUse
import WideColumn.Proofs.Backend.Behaviour
import WideColumn.Proofs.Client.Scripts
import WideColumn.Proofs.Client.Transparency
import WideColumn.Proofs.Client.Confidentiality
import WideColumn.Proofs.Client.SchemaHistory
import WideColumn.Proofs.Client.Policies
import WideColumn.Proofs.Client.Accounts
import WideColumn.Proofs.Client.Lifecycle
import WideColumn.Proofs.Client.FatalErrors
import WideColumn.Proofs.Bind.OwnNames
import WideColumn.Proofs.Conversion.TypeSoundness
import WideColumn.Proofs.Condition.Operators
import WideColumn.Proofs.Statement.Growth
import WideColumn.Proofs.Payload.Columns
import WideColumn.Proofs.Payload.Grammar
import WideColumn.Proofs.Conversion.Timestamps
import WideColumn.Proofs.Conversion.Identifiers
import WideColumn.Proofs.Conversion.IntegerText
import WideColumn.Proofs.Payload.Counters
import WideColumn.Proofs.Payload.Literals
import WideColumn.Proofs.Text.Truncation
import WideColumn.Proofs.Row.Views
