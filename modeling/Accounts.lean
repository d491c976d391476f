import Accounts.Configuration.Load
import Accounts.Database.Accounts
import Accounts.Http.Router
import Accounts.Json.Access
import Accounts.Store.Memory
import Accounts.Proofs.Json.Consumption
import Accounts.Proofs.Json.Drift
import Accounts.Proofs.Token.Agreement
import Accounts.Proofs.Token.Header
import Accounts.Proofs.Text.Base64
import Accounts.Proofs.Text.Split
import Accounts.Proofs.Text.Lowercase
import Accounts.Proofs.Json.RoundTrip
import Accounts.Proofs.Token.Segment
import Accounts.Proofs.Token.RoundTrip
import Accounts.Proofs.Token.Verification
import Accounts.Proofs.Hash.Length
import Accounts.Proofs.Password.Verification
import Accounts.Proofs.Password.Hashing
import Accounts.Proofs.Store.Invariant
import Accounts.Proofs.Store.Operations
import Accounts.Proofs.Dialogue
import Accounts.Proofs.Service.Runs
import Accounts.Proofs.Service.Ledger
import Accounts.Proofs.Service.Login
import Accounts.Proofs.Service.Refresh
import Accounts.Proofs.Token.KeyIsolation
import Accounts.Proofs.Token.Signed
import Accounts.Proofs.Service.Separation
import Accounts.Proofs.Token.Validity
import Accounts.Proofs.Database.Registration
import Accounts.Proofs.Http.Failures
import Accounts.Proofs.Http.Changes
import Accounts.Proofs.Service.Revocation
import Accounts.Proofs.Database.Agreement
import Accounts.Proofs.Database.Exclusion
import Accounts.Proofs.Configuration.Verbatim
import Accounts.Proofs.Service.Consultation
import Accounts.Proofs.Configuration.Lifetimes
import Accounts.Proofs.Configuration.Precedence
import Accounts.Proofs.Configuration.Numbers
import Accounts.Proofs.Database.Statements
import Accounts.Proofs.Http.Cookies
import Accounts.Proofs.Http.Sessions
import Accounts.Proofs.Http.Malformed
import Accounts.Proofs.Account.Subject
