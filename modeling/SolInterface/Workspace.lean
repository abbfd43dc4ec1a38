import SolInterface.Failure
import SolInterface.Text.Lines
import SolInterface.Warning

/-!
The workspace of a build: the file tree, the working directory, the clock, and what has been logged
and printed. An action on it ends with an answer or a failure, and keeps what it did before a
failure.
-/
namespace SolInterface

/-- How an interface came out of a build. -/
inductive Status where
  | generated | skipped
  deriving DecidableEq, Repr

def Status.name : Status → Text
  | generated => "generated"
  | skipped => "skipped"

inductive Level where
  | debug | info | warning | error
  deriving DecidableEq, Repr

/-- What a build logs. -/
inductive Event where
  | directiveWarning (source : Path) (warning : Warning)
  | sourceWarning (warning : Warning)
  | upToDate (output : Path)
  | written (output : Path)
  | moduleBuilt (status : Status) (source : Text) (output : Path)
  | moduleFailed (source output : Text) (failure : Failure)
  | rootMissing (root : Path)
  deriving DecidableEq, Repr

namespace Event

def level : Event → Level
  | directiveWarning _ _ => .warning
  | sourceWarning _ => .debug
  | upToDate _ => .info
  | written _ => .info
  | moduleBuilt _ _ _ => .info
  | moduleFailed _ _ _ => .error
  | rootMissing _ => .warning

def message : Event → Text
  | directiveWarning source warning => Text.cat [source.text, ": ", warning.message]
  | sourceWarning warning => warning.message
  | upToDate output =>
    Text.cat ["Skipping ", output.text, " (up to date, use --force to regenerate)"]
  | written output => "Interface generated: " ++ output.text
  | moduleBuilt status source output =>
    Text.cat ["Module interface ", status.name, ": ", source, " -> ", output.text]
  | moduleFailed source output failure =>
    Text.cat ["Error processing module directive ", source, " -> ", output, ": ", failure.message]
  | rootMissing root => "Contracts directory not found: " ++ root.text

end Event

structure Workspace where
  files : FileTree
  cwd : Path
  now : Time
  log : List Event := []
  /-- The lines printed so far. -/
  printed : List Text := []

/-- An action on a workspace. -/
abbrev WorkspaceM := ExceptT Failure (StateM Workspace)

namespace WorkspaceM

def log (events : List Event) : WorkspaceM Unit := modify fun w => { w with log := w.log ++ events }

def print (lines : List Text) : WorkspaceM Unit :=
  modify fun w => { w with printed := w.printed ++ lines }

/-- Prints what a console shows, if it can be shown. -/
def printShown : Except Console.Fault (List Text) → WorkspaceM Unit
  | .ok lines => print lines
  | .error fault => throw (.markup fault)

/-- Prints a text with markup. -/
def printMarkup (console : Console) (text : Text) : WorkspaceM Unit :=
  printShown ((console.render text).map fun shown => [shown])

/-- What the files say. -/
def query {α : Type} (f : FileTree → Path → Except FileError α) : WorkspaceM α := do
  let w ← get
  match f w.files w.cwd with
  | .ok a => pure a
  | .error e => throw (.file e)

/-- The outcome of an action; a failure that is reported does not end the run. -/
def attempt {α : Type} (action : WorkspaceM α) : WorkspaceM (Except Failure α) :=
  tryCatch (Except.ok <$> action) fun failure =>
    if failure.isReported then pure (.error failure) else throw failure

/-- The text of a source file. -/
def readSource (p : Path) : WorkspaceM Text := do
  let bytes ← query fun files cwd => files.read cwd p
  match Utf8.decode bytes with
  | .ok text => return Text.normalizeNewlines text
  | .error fault => throw (.undecodable p fault)

/-- Writes a text file, with the directories it needs. One that cannot be encoded is left empty. -/
def writeText (p : Path) (text : Text) (encodable : Bool) : WorkspaceM Unit := do
  let w ← get
  let (made, files) := w.files.makeDirectories w.cwd p.parent w.now
  set { w with files }
  match made with
  | .error e => throw (.file e)
  | .ok () =>
    match files.write w.cwd p (if encodable then Utf8.encode text else []) w.now with
    | .error e => throw (.file e)
    | .ok files =>
      modify fun w => { w with files }
      if !encodable then throw (.unwritable p)

end WorkspaceM
end SolInterface
