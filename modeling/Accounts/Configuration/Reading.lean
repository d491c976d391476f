import Accounts.Configuration.Basic
import Accounts.Configuration.Setting

/-!
# Reading settings

Trees of settings as a source of records. Settings come from people and from texts, so values are
converted: numbers, truth values and texts stand in for each other where the meaning is plain. A
value that cannot be converted is reported with its place in the tree and the place where it was
written.
-/

namespace Accounts

/-- What was met in place of a wanted scalar. -/
inductive Unsuitable where
  | signed (value : Int)
  | unsigned (value : Nat)
  | text (value : String)
  | blank
  | sequence
  | map
deriving DecidableEq, Repr

def Unsuitable.describe : Unsuitable → String
  | signed value => "64-bit integer `" ++ toString value ++ "`"
  | unsigned value => "64-bit unsigned integer `" ++ toString value ++ "`"
  | text value => "string " ++ Text.quoted value
  | blank => "unit value"
  | sequence => "sequence"
  | map => "map"

/-- Ways in which settings cannot be read. -/
inductive SettingFault where
  /-- A value that cannot be converted. -/
  | unsuitable (found : Unsuitable) (wanted key : String) (origin : Option String)
  /-- A value that is no record of the wanted form. -/
  | malformed (fault : Json.FormFault)

def SettingFault.message : SettingFault → String
  | unsuitable found wanted key origin =>
    "invalid type: " ++ found.describe ++ ", expected " ++ wanted ++
      " for key `" ++ key ++ "`" ++ (origin.map (" in " ++ ·)).getD ""
  | malformed fault => fault.message

/-- A setting together with its key, the path that leads to it. -/
structure KeyedSetting where
  key : String
  setting : Setting

namespace KeyedSetting

def childKey (key name : String) : String := if key.isEmpty then name else key ++ "." ++ name

def elementKey (key : String) (index : Nat) : String := key ++ "[" ++ toString index ++ "]"

/-- A scalar as it is described where a record is wanted. -/
def foundScalar : Scalar → Json.Found
  | .blank => .unit
  | .bool b => .bool b
  | .integer n => if n < 0 then .negative n else .natural n.toNat
  | .float x => .decimal x
  | .text s => .text s

/-- What a setting is to one who wants a record. -/
def shape (v : KeyedSetting) : Record.Shape KeyedSetting :=
  match v.setting with
  | .scalar s _ => .other (foundScalar s)
  | .list elements _ =>
    .elements (elements.zipIdx.map fun (e, i) => ⟨elementKey v.key i, e⟩)
  | .table entries _ => .fields (entries.map fun (name, e) => (name, ⟨childKey v.key name, e⟩))

/-- The fault of a value that cannot be converted. -/
def unsuitable {α : Type} (v : KeyedSetting) (found : Unsuitable) (wanted : String) :
    Except SettingFault α :=
  .error (.unsuitable found wanted v.key v.setting.origin)

/-- Converts a scalar. What a text cannot stand for is described by the text that is given back. -/
def convert {α : Type} (v : KeyedSetting) (wanted : String)
    (convertScalar : Scalar → Except Unsuitable α) : Except SettingFault α :=
  match v.setting with
  | .scalar s _ =>
    match convertScalar s with
    | .ok a => .ok a
    | .error found => v.unsuitable found wanted
  | .list _ _ => v.unsuitable .sequence wanted
  | .table _ _ => v.unsuitable .map wanted

/-- The truth value a word stands for. -/
def truthWord? (lowercased : String) : Option Bool :=
  if ["true", "on", "yes"].contains lowercased then some true
  else if ["false", "off", "no"].contains lowercased then some false
  else none

def boolText (b : Bool) : String := if b then "true" else "false"

/-- Any scalar as a text. -/
def text (v : KeyedSetting) : Except SettingFault String :=
  v.convert "a string" fun
    | .blank => .error .blank
    | .bool b => .ok (boolText b)
    | .integer n => .ok (toString n)
    | .float x => .ok x.display
    | .text s => .ok s

/-- Any scalar as a truth value: a number stands for whether it differs from zero. -/
def bool (v : KeyedSetting) : Except SettingFault Bool :=
  v.convert "a boolean" fun
    | .blank => .error .blank
    | .bool b => .ok b
    | .integer n => .ok (n != 0)
    | .float x => .ok (!x.isZero)
    | .text s =>
      let s := Text.lowercase s
      if s == "1" then .ok true
      else if s == "0" then .ok false
      else
        match truthWord? s with
        | some b => .ok b
        | none => .error (.text s)

def boolNumber (b : Bool) : Nat := if b then 1 else 0

/-- The whole number nearest to a float within a range, both ends included. -/
def clamped (low high : Int) (x : Binary64) : Int :=
  match x with
  | .infinite negative => if negative then low else high
  | _ => max low (min high (x.round?.getD 0))

/-- Any scalar as a signed number of 64 bits. A float is rounded and clamped. -/
def integer (v : KeyedSetting) : Except SettingFault Int :=
  v.convert "an integer" fun
    | .blank => .error .blank
    | .bool b => .ok (boolNumber b)
    | .integer n => .ok n
    | .float x => .ok (clamped (-9223372036854775808) Integer.maxSigned64 x)
    | .text s =>
      match truthWord? (Text.lowercase s) with
      | some b => .ok (boolNumber b)
      | none =>
        match Integer.parseInt Integer.maxSigned64 s.toList with
        | .ok n => .ok n
        | .error _ => .error (.text s)

/-- Any scalar as an unsigned number of 64 bits. A float is rounded and clamped. -/
def unsigned (v : KeyedSetting) : Except SettingFault Nat :=
  match v.setting with
  | .scalar (.integer n) _ =>
    if n < 0 then v.unsuitable (.signed n) "an unsigned 64 bit or less integer" else .ok n.toNat
  | _ =>
    v.convert "an integer" fun
      | .blank => .error .blank
      | .bool b => .ok (boolNumber b)
      | .integer n => .ok n.toNat
      | .float x => .ok (clamped 0 Integer.maxUnsigned64 x).toNat
      | .text s =>
        match truthWord? (Text.lowercase s) with
        | some b => .ok (boolNumber b)
        | none =>
          match Integer.parseNat Integer.maxUnsigned64 s.toList with
          | .ok n => .ok n
          | .error _ => .error (.text s)

/-- Any scalar as an unsigned number of so many bits. What is out of range is reported as a number,
and without the place where it was written. -/
def natural (bits : Nat) (v : KeyedSetting) : Except SettingFault Nat := do
  let n ← v.unsigned
  if n < Nat.pow 2 bits then pure n
  else
    let wanted := "an unsigned " ++ toString bits ++ " bit integer"
    .error (.unsuitable (.unsigned n) wanted v.key none)

/-- Settings as a source of records. -/
def source : Record.Source KeyedSetting SettingFault where
  shape := shape
  text := text
  natural := natural
  integer := integer
  bool := bool
  malformed := .malformed
  refusesSurplus := false

end KeyedSetting

/-- The configuration that a tree of settings stands for. -/
def Configuration.ofSetting (s : Setting) : Except SettingFault Configuration :=
  read KeyedSetting.source ⟨"", s⟩

end Accounts
