import Accounts.Configuration.Setting
import Accounts.Text.Split
import Accounts.Toml.Document

/-!
# Settings from files

A file of settings is named without its ending, which is `.toml`. A file that has exactly the given
name goes before it; it is read if its name happens to have that ending, and otherwise it hides the
other one. A file that is not there has no settings.
-/

namespace Accounts

/-- A value of TOML as a setting. Dates and times are texts. -/
def Setting.ofToml (origin : String) : Toml → Setting
  | .text s => .scalar (.text s) (some origin)
  | .number (.integer n) => .scalar (.integer n) (some origin)
  | .number (.float x) => .scalar (.float x) (some origin)
  | .bool b => .scalar (.bool b) (some origin)
  | .moment m => .scalar (.text m.text) (some origin)
  | .list elements => .list (ofElements elements) (some origin)
  | .table entries => .table (ofEntries entries) (some origin)
where
  /-- The settings of a list. -/
  ofElements : List Toml → List Setting
    | [] => []
    | v :: rest => ofToml origin v :: ofElements rest
  /-- The settings of a table. -/
  ofEntries : List (String × Toml) → List (String × Setting)
    | [] => []
    | (key, v) :: rest => (key, ofToml origin v) :: ofEntries rest

/-- Text files below a directory, by their relative paths. -/
structure Directory where
  files : Named String

namespace Directory

/-- The parts of a path, those apart that lead nowhere. -/
def parts (path : String) : List String :=
  ((Text.split '/' path.toList).map String.ofList).filter fun part => part != "" && part != "."

/-- The text of the file to which parts lead. -/
def text? (d : Directory) (path : List String) : Option String :=
  (d.files.find? fun (name, _) => parts name == path).map (·.2)

/-- Whether parts lead to a directory. -/
def contains (d : Directory) (path : List String) : Bool :=
  path.isEmpty ||
    d.files.any fun (name, _) =>
      path.length < (parts name).length && (parts name).take path.length == path

/-- The parts that are left when each pair of dots has taken one step back. The first argument holds
the steps so far in reverse order; every one of them has to be a directory. -/
def walk (d : Directory) : List String → List String → Option (List String)
  | steps, [] => some steps.reverse
  | steps, part :: rest =>
    if !d.contains steps.reverse then none
    else if part == ".." then
      match steps with
      | _ :: back => walk d back rest
      | [] => none
    else walk d (part :: steps) rest

/-- The text of the file at a path. -/
def read? (d : Directory) (path : List String) : Option String := do
  d.text? (← d.walk [] path)

/-- Whether a name has the ending of files of settings. -/
def hasEnding (name : String) : Bool :=
  match Text.splitLast '.' name.toList with
  | some (before, ending) => !before.isEmpty && String.ofList ending == "toml"
  | none => false

/-- The file of settings of a given name: its path and its text. -/
def find? (d : Directory) (name : String) : Option (String × String) := do
  let path := parts name
  let last ← path.getLast?
  if last == ".." then none
  else
    let asFile := name.toList.getLast? != some '/' && !name.endsWith "/."
    match if asFile then d.read? path else none with
    | some text => if hasEnding last then some ("/".intercalate path, text) else none
    | none => do
      let path := path.dropLast ++ [last ++ ".toml"]
      pure ("/".intercalate path, ← d.read? path)

/-- The settings in the file of a given name, or the path of a file that cannot be read. -/
def layer (d : Directory) (name : String) : Except String (Named Setting) :=
  match d.find? name with
  | none => .ok []
  | some (path, text) =>
    let text := match text.toList with
      | '\ufeff' :: rest => String.ofList rest
      | _ => text
    match Toml.parse text with
    | some entries => .ok (Setting.ofToml.ofEntries path entries)
    | none => .error path

end Directory

end Accounts
