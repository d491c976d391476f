import Accounts.Configuration.Environment
import Accounts.Configuration.File
import Accounts.Configuration.Reading

/-!
# Loading the configuration

The configuration comes in four layers, each laid over those before it: what is built in, the file
`config/default`, the file of the run mode, and the environment.
-/

namespace Accounts

/-- Ways in which a configuration cannot be loaded. -/
inductive LoadFault where
  /-- A file that is not TOML. -/
  | unreadable (path : String)
  | setting (fault : SettingFault)

def LoadFault.message : LoadFault → String
  | unreadable path => path
  | setting fault => fault.message

namespace Configuration

/-- The settings that are built in. There are none for the database's address and the secrets. -/
def builtIn : Named Setting :=
  let integer (n : Nat) : Setting := .scalar (.integer n) none
  [("database.max_connections", integer 5),
    ("database.acquire_timeout_secs", integer 5),
    ("server.http_port", integer 8080),
    ("server.request_timeout_secs", integer 30),
    ("server.secure_cookies", .scalar (.bool true) none),
    ("jwt.issuer", .scalar (.text AuthSettings.standardIssuer) none),
    ("jwt.access_ttl_minutes", integer 15),
    ("jwt.refresh_ttl_hours", integer 72),
    ("password.memory_kib", integer Password.Cost.standard.memory),
    ("password.iterations", integer Password.Cost.standard.iterations),
    ("password.parallelism", integer Password.Cost.standard.parallelism)]

/-- The run mode of an environment. -/
def runMode (environment : Environment) : String :=
  (environment.lookup "RUN_MODE").getD "development"

/-- The layers of a configuration, the lowest one first. -/
def layers (directory : Directory) (environment : Environment) :
    Except LoadFault (List (Named Setting)) := do
  let common ← (directory.layer "config/default").mapError .unreadable
  let special ← (directory.layer ("config/" ++ runMode environment)).mapError .unreadable
  pure [builtIn, common, special, environment.layer]

def load (directory : Directory) (environment : Environment) :
    Except LoadFault Configuration := do
  let layers ← layers directory environment
  (ofSetting (layers.foldl Setting.overlay .empty)).mapError .setting

end Configuration

end Accounts
