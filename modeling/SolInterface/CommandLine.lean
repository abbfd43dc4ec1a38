import SolInterface.Batch

/-!
The command line: its options, the rules by which arguments are told apart, and what a call does.
Options may be shortened, take their value after `=`, and be written together if they have one
letter. File names form one group; those after another option are not expected.
-/
namespace SolInterface.CommandLine
open Text WorkspaceM

inductive Flag where
  | help | all | force | config | root | dialect | verbose
  deriving DecidableEq, Repr

namespace Flag

/-- The spellings of each option, in the order in which they are listed. -/
def spellings : Flag → List Text
  | help => ["-h", "--help"]
  | all => ["--all"]
  | force => ["--force"]
  | config => ["--config", "-c"]
  | root => ["--root"]
  | dialect => ["--dialect"]
  | verbose => ["--verbose", "-v"]

def every : List Flag := [help, all, force, config, root, dialect, verbose]

def takesValue : Flag → Bool
  | config | root | dialect => true
  | _ => false

/-- All spellings with their options. -/
def table : List (Text × Flag) :=
  every.flatMap fun f => f.spellings.map fun spelling => (spelling, f)

end Flag

/-- Why a command line is refused. -/
inductive UsageError where
  | ambiguous (argument : Text) (options : List Text)
  | expectedValue (flag : Flag)
  | ignoredValue (flag : Flag) (value : Text)
  | invalidDialect (value : Text)
  | unrecognised (arguments : List Text)
  deriving DecidableEq, Repr

def dialectNames : List Text := ["auto", "custom", "legacy"]

def UsageError.message : UsageError → Text
  | ambiguous argument options =>
    Text.cat ["ambiguous option: ", argument, " could match ", joinWith ", " options]
  | expectedValue flag =>
    Text.cat ["argument ", joinWith "/" flag.spellings, ": expected one argument"]
  | ignoredValue flag value =>
    Text.cat ["argument ", joinWith "/" flag.spellings, ": ignored explicit argument ", quote value]
  | invalidDialect value =>
    Text.cat ["argument --dialect: invalid choice: ", quote value, " (choose from ",
      joinWith ", " (dialectNames.map quote), ")"]
  | unrecognised arguments => "unrecognized arguments: " ++ joinWith " " arguments

/-- What the arguments ask for. -/
structure Options where
  all : Bool := false
  force : Bool := false
  verbose : Bool := false
  config : Text := []
  root : Text := []
  dialect : Option Text := none
  files : List Text := []
  deriving DecidableEq, Repr

/-! Telling arguments apart -/

/-- How one argument is understood. -/
inductive Argument where
  /-- A file name or a value. -/
  | plain (text : Text)
  /-- Two hyphens, after which all is plain. -/
  | divider
  /-- An option, perhaps with a value written in the same argument. -/
  | option (spelling : Text) (flag : Flag) (value : Option Text)
  /-- It looks like an option and is none. -/
  | unknown (text : Text)
  deriving DecidableEq, Repr

/-- The text before the first equals sign, and the text after it if there is one. -/
def atEquals (t : Text) : Text × Option Text :=
  match t.dropWhile (· != '=') with
  | _ :: value => (t.takeWhile (· != '='), some value)
  | [] => (t, none)

/-- A minus sign and a number, which may have a point with digits after it. A line feed may end
it. -/
def isNegativeNumber (t : Text) : Bool :=
  match if t.getLast? == some '\n' then t.dropLast else t with
  | '-' :: t =>
    match t.dropWhile isDigit with
    | [] => !t.isEmpty
    | '.' :: fraction => !fraction.isEmpty && fraction.all isDigit
    | _ => false
  | _ => false

/-- The options that an argument with two hyphens may shorten, or that one with one hyphen starts
with. -/
def interpretations (t : Text) : List Argument :=
  match t with
  | '-' :: '-' :: _ =>
    let (name, value) := atEquals t
    (Flag.table.filter fun e => startsWith name e.1).map fun e => .option e.1 e.2 value
  | _ =>
    (Flag.table.filter fun e => e.1 == t.take 2).map fun e => .option e.1 e.2 (some (t.drop 2))

def spellingOf : Argument → Text
  | .option spelling _ _ => spelling
  | .plain t => t
  | .unknown t => t
  | .divider => "--"

def classify (t : Text) : Except UsageError Argument :=
  let exactly := fun (name : Text) (value : Option Text) =>
    (Flag.table.lookup name).map fun flag => Argument.option name flag value
  match t with
  | [] => .ok (.plain t)
  | c :: r =>
    if c != '-' then .ok (.plain t)
    else match exactly t none with
      | some a => .ok a
      | none =>
        if r.isEmpty then .ok (.plain t)
        else
          let (name, value) := atEquals t
          match if value.isSome then exactly name value else none with
          | some a => .ok a
          | none =>
            match interpretations t with
            | [a] => .ok a
            | [] =>
              if isNegativeNumber t || t.contains ' ' then .ok (.plain t) else .ok (.unknown t)
            | several => .error (.ambiguous t (several.map spellingOf))

/-- The arguments of a call; after the divider all are plain. -/
def classifyAll : List Text → Except UsageError (List Argument)
  | [] => .ok []
  | t :: rest =>
    if t == "--".toList then .ok (.divider :: rest.map .plain)
    else do return (← classify t) :: (← classifyAll rest)

/-! Taking arguments -/

/-- What has been taken so far. -/
structure Taken where
  options : Options := {}
  /-- The group of file names has been taken. -/
  filesTaken : Bool := false
  /-- Arguments that were not expected. -/
  extras : List Text := []
  deriving DecidableEq, Repr

/-- A call ends early with help or an error. -/
inductive Stop where
  | help
  | usage (error : UsageError)
  deriving DecidableEq, Repr

def setFlag (o : Options) : Flag → Except Stop Options
  | .help => .error .help
  | .all => .ok { o with all := true }
  | .force => .ok { o with force := true }
  | .verbose => .ok { o with verbose := true }
  | _ => .ok o

/-- Two hyphens are no value: an option that has them written in its own argument is given, and
empty. -/
def setValue (o : Options) (flag : Flag) (text : Text) : Except Stop Options :=
  let isNone := text == "--".toList
  let value := if isNone then [] else text
  match flag with
  | .config => .ok { o with config := value }
  | .root => .ok { o with root := value }
  | .dialect =>
    if isNone || dialectNames.contains value then .ok { o with dialect := some value }
    else .error (.usage (.invalidDialect value))
  | _ => .ok o

/-- The options written together in one argument: the flags to set, and the flag that takes a value
with the value in the same argument, if one does. -/
structure Cluster where
  flags : List Flag := []
  valued : Option (Flag × Option Text) := none
  deriving DecidableEq, Repr

/-- A flag with nothing after it in its argument. -/
def Cluster.ofFlag (flag : Flag) : Cluster :=
  if flag.takesValue then { valued := some (flag, none) } else { flags := [flag] }

/-- A flag and the text after it in its argument: its value, or more flags of one letter. -/
def cluster (flag : Flag) (isShort : Bool) : Text → Except Stop Cluster
  | [] =>
    if flag.takesValue then .ok { valued := some (flag, some []) }
    else .error (.usage (.ignoredValue flag []))
  | c :: more =>
    if flag.takesValue then .ok { valued := some (flag, some (c :: more)) }
    else match if isShort then Flag.table.lookup ['-', c] else none with
      | none => .error (.usage (.ignoredValue flag (c :: more)))
      | some next => do
        let found ← if more.isEmpty then .ok (Cluster.ofFlag next) else cluster next true more
        return { found with flags := flag :: found.flags }

/-- Takes the plain arguments and dividers that come next as the group of file names. -/
def takeFiles (s : Taken) (arguments : List Argument) : Taken × List Argument :=
  let isFile := fun
    | Argument.plain _ => true
    | .divider => true
    | _ => false
  let group := (arguments.takeWhile isFile).map spellingOf
  let rest := arguments.dropWhile isFile
  if s.filesTaken then ({ s with extras := s.extras ++ group }, rest)
  else
    let options := { s.options with files := group.erase "--".toList }
    ({ s with filesTaken := true, options }, rest)

/-- Takes the arguments one after the other. -/
def takeFrom : Nat → Taken → List Argument → Except Stop Taken
  | 0, s, _ => .ok s
  | _, s, [] => .ok s
  | fuel + 1, s, a :: rest =>
    match a with
    | .plain _ | .divider =>
      let (s, rest) := takeFiles s (a :: rest)
      takeFrom fuel s rest
    | .unknown t => takeFrom fuel { s with extras := s.extras ++ [t] } rest
    | .option spelling flag value => do
      let isShort := !startsWith "--" spelling
      let found ← match value with
        | none => .ok (Cluster.ofFlag flag)
        | some t => cluster flag isShort t
      let (valued, rest) ← match found.valued with
        | some (flag, none) =>
          match rest with
          | .plain t :: rest => .ok (some (flag, t), rest)
          | _ => .error (Stop.usage (.expectedValue flag))
        | some (flag, some t) => .ok (some (flag, t), rest)
        | none => .ok (none, rest)
      let options ← found.flags.foldlM setFlag s.options
      let options ← match valued with
        | some (flag, t) => setValue options flag t
        | none => .ok options
      takeFrom fuel { s with options } rest

/-- What a call's arguments ask for. -/
def parse (arguments : List Text) : Except Stop Options :=
  match classifyAll arguments with
  | .error e => .error (.usage e)
  | .ok arguments => do
    let s ← takeFrom (arguments.length + 1) {} arguments
    if s.extras.isEmpty then return s.options else throw (.usage (.unrecognised s.extras))

/-! Texts -/

def programName : Text := "interface-builder"

def usageLines : List Text := [
  "usage: interface-builder [-h] [--all] [--force] [--config CONFIG]",
  "                         [--root ROOT] [--dialect \x7bauto,custom,legacy\x7d]",
  "                         [--verbose]",
  "                         [files ...]"]

def helpLines : List Text := usageLines ++ ([
  "",
  "Generate Solidity interface files from directives embedded in contract",
  "comments",
  "",
  "positional arguments:",
  "  files                 Contract files to process (default with --all: every",
  "                        contract with a build directive)",
  "",
  "options:",
  "  -h, --help            show this help message and exit",
  "  --all                 Build every contract under the contracts directory",
  "                        that has a build directive",
  "  --force               Regenerate interface files even if they are up to date",
  "  --config CONFIG, -c CONFIG",
  "                        Path to configuration file (default: interface-",
  "                        builder.yaml if present)",
  "  --root ROOT           Contracts directory to scan with --all (overrides",
  "                        contracts_dir)",
  "  --dialect \x7bauto,custom,legacy\x7d",
  "                        Directive syntax: custom (/// @custom:interface),",
  "                        legacy (/// !interface)",
  "  --verbose, -v         Show debug logging"] : List Text)

def usageErrorLines (e : UsageError) : List Text :=
  usageLines ++ [Text.cat [programName, ": error: ", e.message]]

/-! Calls -/

/-- How a call ends. -/
inductive Outcome where
  | done (exitCode : Nat)
  /-- The command line is refused, with these lines on the error stream. -/
  | refused (lines : List Text)
  /-- Settings cannot be loaded; the lines printed say so if it is the settings' own fault. -/
  | badConfig (error : Config.LoadError)
  /-- The run ended in a failure that is not reported with a source. -/
  | aborted (failure : Failure)

/-- The batch that the options ask for. -/
def Options.request (o : Options) (config : Config) : Batch.Request where
  force := o.force || config.force
  files := o.files.map Path.parse
  root := if o.root.isEmpty then none else some (Path.parse o.root)
  config := config
  dialect := o.dialect.map .named

/-- Carries out a call in a workspace. -/
def run (console : Console) (arguments : List Text) (w : Workspace) : Outcome × Workspace :=
  let printing := fun (lines : List Text) => { w with printed := w.printed ++ lines }
  match parse arguments with
  | .error .help => (.done 0, printing helpLines)
  | .error (.usage e) => (.refused (usageErrorLines e), w)
  | .ok o =>
    if o.files.isEmpty && !o.all then (.done 1, printing helpLines)
    else
      let path? := if o.config.isEmpty then none else some (Path.parse o.config)
      match Config.load w.files w.cwd path? with
      | .error e =>
        match e.message? with
        | none => (.badConfig e, w)
        | some message =>
          let line := Text.cat [Console.Style.red.tagged "Error:", " ", message]
          match (printMarkup console line).run.run w with
          | (.ok (), w) => (.badConfig e, w)
          | (.error failure, w) => (.aborted failure, w)
      | .ok config =>
        match (Batch.build console (o.request config)).run.run w with
        | (.ok s, w) => (.done (if s.isOk then 0 else 1), w)
        | (.error failure, w) => (.aborted failure, w)

end SolInterface.CommandLine
