import Accounts.Configuration.Path
import Accounts.Number.Decimal

/-!
# Settings from the environment

Every variable is a setting. Its name is put into lower case, two underscores standing for a step in
the tree, and its text is taken for a truth value, a number or a text, whichever fits first.
-/

namespace Accounts

/-- The names of variables and their texts. -/
abbrev Environment : Type := Named String

namespace Environment

/-- Where the settings are said to be written. -/
def origin : String := "the environment"

/-- A name in lower case with a dot for each pair of underscores. -/
def settingName (name : String) : String :=
  String.ofList (dots (Text.lowercase name).toList)
where
  /-- A dot for each pair of underscores, from the left. -/
  dots : List Char → List Char
    | '_' :: '_' :: rest => '.' :: dots rest
    | c :: rest => c :: dots rest
    | [] => []

/-- The value that the text of a variable stands for. -/
def scalar (text : String) : Scalar :=
  match Text.lowercase text with
  | "true" => .bool true
  | "false" => .bool false
  | _ =>
    match Integer.parseInt Integer.maxSigned64 text.toList with
    | .ok n => .integer n
    | .error _ =>
      match Binary64.ofText? text.toList with
      | some x => .float x
      | none => .text text

/-- The settings of an environment. Of two variables with one name in lower case, the later one
counts. -/
def layer (environment : Environment) : Named Setting :=
  environment.foldl (fun entries (name, text) =>
    Named.replace (settingName name) (.scalar (scalar text) (some origin)) entries) []

end Environment

end Accounts
