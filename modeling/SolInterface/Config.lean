import SolInterface.FileTree
import SolInterface.Text.Lines
import SolInterface.Text.Utf8
import SolInterface.Value.Display
import SolInterface.Yaml.Document

/-!
Settings of a build, as fields of a data file. Fields that are not settings are ignored; each
setting is checked, and every one that is wrong is listed.
-/
namespace SolInterface

structure Config where
  /-- The directory that batch builds look through. -/
  contractsDir : Text := "./contracts"
  /-- The directory under which package paths are looked up. -/
  packagesDir : Text := "node_modules"
  dialect : Text := "auto"
  license : Text := "MIT"
  pragma : Text := "^0.8.20"
  /-- Names of directories that batch builds leave out. -/
  skipDirs : List Text := ["node_modules", ".git", "artifacts", "cache"]
  /-- Write outputs that are up to date, too. -/
  force : Bool := false
  deriving DecidableEq, Repr

namespace Config

/-- What is wrong with the value of a setting. -/
inductive Fault where
  | notText | undecodableText | notOption | notList | notBoolean | noBooleanWord
  deriving DecidableEq, Repr

namespace Fault

/-- The word for a fault. -/
def name : Fault → Text
  | notText => "string_type"
  | undecodableText => "string_unicode"
  | notOption => "literal_error"
  | notList => "list_type"
  | notBoolean => "bool_type"
  | noBooleanWord => "bool_parsing"

def message : Fault → Text
  | notText => "Input should be a valid string"
  | undecodableText =>
    "Input should be a valid string, unable to parse raw data as a unicode string"
  | notOption => "Input should be 'auto', 'custom' or 'legacy'"
  | notList => "Input should be a valid list"
  | notBoolean => "Input should be a valid boolean"
  | noBooleanWord => "Input should be a valid boolean, unable to interpret input"

end Fault

/-- A setting, or an item of one, with a value it cannot have. -/
structure Issue where
  field : Text
  item : Option Nat := none
  fault : Fault
  value : Value

namespace Issue

/-- The setting, and the item's number after a point. -/
def place (i : Issue) : Text :=
  match i.item with
  | some n => Text.cat [i.field, ".", Text.ofNat n]
  | none => i.field

/-- The lines that describe an issue: where it is, and what is wrong with which value. -/
def message (i : Issue) : Text :=
  Text.cat [i.place, "\n  ", i.fault.message, " [type=", i.fault.name, ", input_value=",
    Value.clipped i.value.shown, ", input_type=", i.value.kind, "]"]

end Issue

/-- The number of issues, and a description of each. -/
def issuesMessage (issues : List Issue) : Text :=
  let plural : Text := if issues.length = 1 then "" else "s"
  let count := Text.cat [Text.ofNat issues.length, " validation error", plural]
  Text.joinWith ['\n'] (count :: issues.map Issue.message)

/-- A checked setting, with the issues found. -/
abbrev Checked (α : Type) := α × List Issue

def asText (v : Value) : Except Fault Text :=
  match v with
  | .atom (.text t) => .ok t
  | .atom (.bytes bs) => (Utf8.decode bs).mapError fun _ => .undecodableText
  | _ => .error .notText

def asOption (options : List Text) (v : Value) : Except Fault Text :=
  match v with
  | .atom (.text t) =>
    if options.contains t then .ok t
    else if t.isWhole then .error .notOption
    else .error .undecodableText
  | _ => .error .notOption

/-- The words for truth values, in any case. -/
def boolWords : List (String × Bool) :=
  [("0", false), ("off", false), ("f", false), ("false", false), ("n", false), ("no", false),
    ("1", true), ("on", true), ("t", true), ("true", true), ("y", true), ("yes", true)]

def boolOfWord (t : Text) : Except Fault Bool :=
  match boolWords.find? fun w => w.1.toList == t.map Char.toLower with
  | some w => .ok w.2
  | none => .error .noBooleanWord

def boolOfInt (n : Int) : Except Fault Bool :=
  if n = 0 then .ok false
  else if n = 1 then .ok true
  else if -9223372036854775808 ≤ n ∧ n ≤ 9223372036854775807 then .error .noBooleanWord
  else .error .notBoolean

def asBool (v : Value) : Except Fault Bool :=
  match v with
  | .atom (.bool b) => .ok b
  | .atom (.text t) => if t.isWhole then boolOfWord t else .error .undecodableText
  | .atom (.bytes bs) =>
    match Utf8.decode bs with
    | .ok t => boolOfWord t
    | .error _ => .error .noBooleanWord
  | .atom (.int n) => boolOfInt n
  | .atom (.float x) =>
    if x == 0 then .ok false
    else if x == 1 then .ok true
    else if x.floor == x && x.abs < 9223372036854775808.0 then .error .noBooleanWord
    else .error .notBoolean
  | _ => .error .notBoolean

/-- The items of a list of texts, with an issue for each item that is none. -/
def textItems (field : Text) : Nat → List Value → Checked (List Text)
  | _, [] => ([], [])
  | i, v :: rest =>
    let (texts, issues) := textItems field (i + 1) rest
    match asText v with
    | .ok t => (t :: texts, issues)
    | .error fault => (texts, ⟨field, some i, fault, v⟩ :: issues)

/-- The last value of a field. -/
def field? (fields : List (Text × Value)) (name : Text) : Option Value :=
  fields.reverse.lookup name

/-- A setting that is missing has its default. -/
def setting {α : Type} (fields : List (Text × Value)) (name : Text) (default : α)
    (read : Value → Except Fault α) : Checked α :=
  match field? fields name with
  | none => (default, [])
  | some v =>
    match read v with
    | .ok a => (a, [])
    | .error fault => (default, [⟨name, none, fault, v⟩])

def textList (fields : List (Text × Value)) (name : Text) (default : List Text) :
    Checked (List Text) :=
  match field? fields name with
  | none => (default, [])
  | some (.seq items) => textItems name 0 items
  | some (.set items) => textItems name 0 (items.map .atom)
  | some v => (default, [⟨name, none, .notList, v⟩])

/-- The dialects that the settings may ask for. -/
def dialectOptions : List Text := ["auto", "custom", "legacy"]

/-- The settings that the fields give, or what is wrong with them. -/
def ofFields (fields : List (Text × Value)) : Except (List Issue) Config :=
  let usual : Config := {}
  let contractsDir := setting fields "contracts_dir" usual.contractsDir asText
  let packagesDir := setting fields "packages_dir" usual.packagesDir asText
  let dialect := setting fields "dialect" usual.dialect (asOption dialectOptions)
  let license := setting fields "license" usual.license asText
  let pragma := setting fields "pragma" usual.pragma asText
  let skipDirs := textList fields "skip_dirs" usual.skipDirs
  let force := setting fields "force" usual.force asBool
  let issues := contractsDir.2 ++ packagesDir.2 ++ dialect.2 ++ license.2 ++ pragma.2 ++
    skipDirs.2 ++ force.2
  if issues.isEmpty then
    .ok ⟨contractsDir.1, packagesDir.1, dialect.1, license.1, pragma.1, skipDirs.1, force.1⟩
  else .error issues

/-- Why settings could not be loaded. -/
inductive LoadError where
  | notFound (path : Path)
  | notMapping (path : Path)
  | invalid (path : Path) (issues : List Issue)
  | document (error : Yaml.Error)
  | keyNotText
  | undecodable
  | file (error : FileError)

namespace LoadError

/-- The message for an error in the settings themselves; any other ends the run. -/
def message? : LoadError → Option Text
  | notFound path => some ("Config file not found: " ++ path.text)
  | notMapping path => some ("Config file must contain a mapping: " ++ path.text)
  | invalid path issues => some (Text.cat ["Invalid config in ", path.text, ": ",
      issuesMessage issues])
  | _ => none

end LoadError

/-- The names of the settings, in the order in which they are checked. -/
def names : List Text :=
  ["contracts_dir", "packages_dir", "dialect", "license", "pragma", "skip_dirs", "force"]

/-- The settings among the entries of a mapping; its keys must all be texts. -/
def fields? (data : Yaml.Data) (entries : List (Atom × Yaml.NodeId)) :
    Option (List (Text × Value)) := do
  let named ← entries.mapM fun e =>
    match e.1 with
    | .text t => some (t, e.2)
    | _ => none
  some ((named.filter fun e => names.contains e.1).map fun e => (e.1, data.valueAt e.2))

/-- The settings that a document gives. -/
def ofDocument (path : Path) (content : Text) : Except LoadError Config :=
  match Yaml.parse content with
  | .error e => .error (.document e)
  | .ok data =>
    match data.entries? with
    | some entries =>
      match fields? data entries with
      | none => .error .keyNotText
      | some fields => (ofFields fields).mapError (.invalid path)
    | none => if data.isFalsy then .ok {} else .error (.notMapping path)

/-- The file that is looked for when none is named. -/
def defaultPath : Path := Path.parse "interface-builder.yaml"

/-- The settings in a file; those of the default file, which may be missing, if none is named. -/
def load (files : FileTree) (cwd : Path) (path? : Option Path) : Except LoadError Config :=
  let path := path?.getD defaultPath
  match files.pathExists cwd path with
  | .error e => .error (.file e)
  | .ok false => if path?.isSome then .error (.notFound path) else .ok {}
  | .ok true =>
    match files.read cwd path with
    | .error e => .error (.file e)
    | .ok bytes =>
      match Utf8.decode bytes with
      | .error _ => .error .undecodable
      | .ok text => ofDocument path (Text.normalizeNewlines text)

end Config
end SolInterface
