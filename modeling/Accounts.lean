import Accounts.Proofs.Service.Answers
import Accounts.Proofs.Service.Fields
import Accounts.Proofs.User.Rows
import Accounts.Http.App
import Accounts.Schema.Migration
import Accounts.Service.Run
import Accounts.Settings
import Accounts.Proofs.Service.Outcomes
import Accounts.Proofs.Service.History
import Accounts.Proofs.Service.Calls
import Accounts.Proofs.Session.ResetTokens
import Accounts.Proofs.Session.Agreement
import Accounts.Proofs.Service.Clock
import Accounts.Proofs.Token.Expiry
import Accounts.Proofs.Session.RefreshTokens
import Accounts.Proofs.Service.Faults
import Accounts.Proofs.Account.Changes
import Accounts.Proofs.Account.Takeover
import Accounts.Proofs.Token.Decoding
import Accounts.Proofs.Token.Classification
import Accounts.Proofs.Encoding.Sextets
import Accounts.Proofs.Password.Format
import Accounts.Proofs.Account.LastPassword
import Accounts.Proofs.Account.Credentials
import Accounts.Proofs.Text.Hex
import Accounts.Proofs.Json.Texts
import Accounts.Proofs.Json.Objects
import Accounts.Proofs.Token.Signing
import Accounts.Proofs.Account.Access
import Accounts.Proofs.Number.Rounding
import Accounts.Proofs.Token.RoundTrip
import Accounts.Proofs.Account.Lasting
import Accounts.Proofs.Account.Recovery
import Accounts.Proofs.Traffic.Rules
import Accounts.Proofs.Traffic.Turns
import Accounts.Proofs.Traffic.SingleUse
import Accounts.Proofs.Account.Integrity
import Accounts.Proofs.User.Contract
import Accounts.Proofs.User.Index
import Accounts.Proofs.Token.Escapes
import Accounts.Proofs.Account.Interrupted
import Accounts.Proofs.Json.Extent
import Accounts.Proofs.Token.SameKey
import Accounts.Proofs.Account.Isolation
import Accounts.Proofs.Account.KnownEmails
import Accounts.Proofs.Http.Replies
import Accounts.Proofs.Account.MadeHashes
import Accounts.Proofs.Http.Forms
import Accounts.Proofs.Account.FailedLogins
import Accounts.Proofs.Traffic.Order
import Accounts.Proofs.Traffic.Courses
import Accounts.Proofs.Traffic.Revocation
import Accounts.Proofs.Service.Twins
import Accounts.Proofs.Http.Secrecy
import Accounts.Proofs.Service.Unbroken
import Accounts.Proofs.Http.Answered
import Accounts.Proofs.Password.Grammar
import Accounts.Proofs.Password.Corruption
import Accounts.Proofs.Password.Hashing
import Accounts.Proofs.Password.KeyMaterial
import Accounts.Proofs.Password.Interchange
import Accounts.Proofs.Number.Nearest
import Accounts.Proofs.Service.Seconds
import Accounts.Proofs.Text.Trimming
import Accounts.Proofs.Validation.Address
import Accounts.Proofs.Validation.Normalisation
import Accounts.Proofs.Account.ResetLinks
import Accounts.Proofs.Validation.Precedence
import Accounts.Proofs.Schema.Levels
import Accounts.Proofs.Address.Literals
import Accounts.Proofs.Service.Configuration
import Accounts.Proofs.Session.Connection
