import SolInterface.Summary

/-!
Batches: finding the sources under a directory that have a build directive, counting the interfaces
they announce, and building them one at a time.
-/
namespace SolInterface.Batch
open WorkspaceM Text
open Console (Style)

/-- The dialects that may come up, by default all of them. -/
def candidates (choice : Option DialectChoice) : WorkspaceM (List Dialect) :=
  match (choice.getD (.named [])).candidates .standard with
  | .ok dialects => pure dialects
  | .error e => throw (.dialect e)

/-- The name ends in `.sol`. -/
def isSourceName (name : Text) : Bool := (".sol".toList).isSuffixOf name

/-- Paths in increasing order, compared part by part. -/
def sortPaths (paths : List Path) : List Path :=
  paths.mergeSort fun p q => !lexBefore Text.before q.parts p.parts

/-- The paths under a root whose last name is that of a source. -/
def sourcePaths (files : FileTree) (cwd root : Path) : List Path :=
  match files.locate cwd root with
  | .error _ => []
  | .ok loc =>
    let found := (files.below loc).filter fun names => names.getLast?.any isSourceName
    sortPaths (found.map fun names => root.join ⟨.relative, names⟩)

/-- The text of a file without what cannot be decoded. -/
def lossyText (files : FileTree) (cwd p : Path) : Except FileError Text :=
  (files.read cwd p).map fun bytes => normalizeNewlines (Utf8.decodeLossy bytes)

/-- The source files under a root that hold one of the markers, those left out that have a name
among `skipDirs`. -/
def marked (files : FileTree) (cwd root : Path) (markers skipDirs : List Text) : List Path :=
  (sourcePaths files cwd root).filter fun p =>
    !(skipDirs.any p.parts.contains) &&
      match lossyText files cwd p with
      | .ok text => markers.any fun m => occursIn m text
      | .error _ => false

/-- The source files under a root that have a build directive. -/
def find (root : Path) (skipDirs : List Text) (choice : Option DialectChoice) :
    WorkspaceM (List Path) := do
  let markers := (← candidates choice).map (·.buildMarker)
  if ← query fun files cwd => files.isDirectory cwd root then
    let w ← get
    return marked w.files w.cwd root markers skipDirs
  else
    log [.rootMissing root]
    return []

/-- The number of lines of a file that announce a module; a file that cannot be read has none. -/
def moduleLines (markers : List Text) (p : Path) : WorkspaceM Nat := do
  let w ← get
  match lossyText w.files w.cwd p with
  | .ok text => return (boundedLines text).countP fun line => markers.any fun m => occursIn m line
  | .error e => if e.cause.isRefusal then return 0 else throw (.file e)

/-- The number of interfaces that the files announce: one each, and one for each module. -/
def countInterfaces (paths : List Path) (choice : Option DialectChoice) : WorkspaceM Nat := do
  let dialects := (← candidates choice).filter fun d => d.supports .moduleTask
  let markers := dialects.map fun d => Text.cat [d.marker, " module "]
  paths.foldlM (fun n p => return n + (← moduleLines markers p)) paths.length

/-- The description of the progress display while a source is built. -/
def description (p : Path) : Text :=
  Text.cat ["[progress.description]Building ", p.fileName, "..."]

/-- The line on a source that could not be built. -/
def errorLine (p : Path) (failure : Failure) : Text :=
  Text.cat [Style.red.tagged "✗", " Error building interface for ", p.text, ": ", failure.message]

/-- The line before the builds. -/
def heading (sources interfaces : Nat) : Text :=
  Style.bold.tagged (Text.cat ["Found ", Text.ofNat sources,
    " contract(s) with build directives (", Text.ofNat interfaces,
    " total interfaces including modules)"])

/-- What a batch builds: the files given, or those found under the root. -/
structure Request where
  force : Bool := false
  files : List Path := []
  root : Option Path := none
  config : Config := {}
  dialect : Option DialectChoice := none

def Request.options (r : Request) : SourceUnit.Options :=
  ⟨r.force, some (r.dialect.getD (.named r.config.dialect)), r.config⟩

section

variable (console : Console)

/-- Prints the progress display as it stands when it is put away. -/
def printProgress (finished : Bool) (p : Path) : WorkspaceM Unit :=
  printShown (console.progress finished (description p))

/-- Builds a file of a batch and records how it went. One that fails is reported. -/
def buildOne (o : SourceUnit.Options) (p : Path) (s : Summary) : WorkspaceM Summary := do
  match ← attempt (Build.buildFile p o) with
  | .ok result => return s.record result
  | .error failure =>
    printMarkup console (errorLine p failure)
    return s.recordFailure p failure

/-- Builds the files one at a time. A failure that ends the run leaves the display of unfinished
work behind. -/
def buildFiles (o : SourceUnit.Options) : List Path → Summary → WorkspaceM Summary
  | [], s => pure s
  | p :: rest, s => do
    let s ← tryCatch (buildOne console o p s) fun failure => do
      printProgress console false p
      throw failure
    buildFiles o rest s

/-- The files of a request. -/
def Request.paths (r : Request) : WorkspaceM (List Path) := do
  if r.files.isEmpty then
    printMarkup console (Style.blue.tagged "Searching for contracts with build directives...")
    find (r.root.getD (Path.parse r.config.contractsDir)) r.config.skipDirs r.options.dialect
  else return r.files

/-- Builds what the request asks for and reports the counts. The display is put away after the last
file, and shows that one. -/
def build (r : Request) : WorkspaceM Summary := do
  let paths ← r.paths console
  let total ← countInterfaces paths r.options.dialect
  match paths.getLast? with
  | none =>
    printMarkup console (Style.yellow.tagged "No contracts found with build directives.")
    printMarkup console
      "  Add /// @custom:interface build <path> to contracts you want interfaces for."
    return { total }
  | some last =>
    printMarkup console (heading paths.length total)
    let s ← buildFiles console r.options paths { total }
    printProgress console true last
    s.report.forM (printMarkup console)
    return s

end

end SolInterface.Batch
