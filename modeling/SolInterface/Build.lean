import SolInterface.SourceUnit
import SolInterface.Workspace

/-!
Building the interface of one source and those of its modules. An output is written unless it is
newer than everything it is made from.
-/
namespace SolInterface
open WorkspaceM

/-- How a module of a source came out. -/
structure ModuleResult where
  source : Text
  output : Text
  /-- `none` if the module could not be built. -/
  status : Option Status
  error : Option Text := none
  deriving DecidableEq, Repr

structure BuildResult where
  source : Path
  output : Path
  status : Status
  modules : List ModuleResult := []
  deriving DecidableEq, Repr

namespace Build

/-- The time of the last change to any of the paths, the first being given. -/
def newest (latest : Time) : List Path → WorkspaceM Time
  | [] => pure latest
  | p :: rest => do
    let node ← query fun files cwd => files.stat cwd p
    newest (max latest node.mtime) rest

/-- The output is there and strictly newer than its source and what else it depends on. -/
def isUpToDate (force : Bool) (source output : Path) (dependsOn : List Path) : WorkspaceM Bool := do
  if force then return false
  if !(← query fun files cwd => files.pathExists cwd output) then return false
  let node ← query fun files cwd => files.stat cwd source
  let latest ← newest node.mtime dependsOn
  let written ← query fun files cwd => files.stat cwd output
  return latest < written.mtime

/-- Writes what `render` gives, unless the output is up to date. -/
def writeOutput (force : Bool) (source output : Path) (dependsOn : List Path)
    (render : WorkspaceM Text) (encodable : Bool := true) : WorkspaceM Status := do
  if ← isUpToDate force source output dependsOn then
    log [.upToDate output]
    return .skipped
  else
    writeText output (← render) encodable
    log [.written output]
    return .generated

/-- The unit of a source file. -/
def load (path : Path) (o : SourceUnit.Options) : WorkspaceM SourceUnit := do
  let content ← readSource path
  log ((SourceUnit.warningsOf o content).map (.directiveWarning path))
  ofExcept (SourceUnit.ofText path content o)

/-- The interface of a unit. -/
def render (u : SourceUnit) : WorkspaceM Text := do
  let (s, text) ← ofExcept u.interface
  log (s.skipped.map fun n => .sourceWarning (.skippedFunction n))
  return text

/-- The path of a module: one of a package, one relative to the source with the directive, or any
other path as it stands. -/
def modulePath (cwd owner : Path) (packagesDir name : Text) : Except FileError Path :=
  let path := Path.parse name
  if Text.startsWith "@" name then .ok ((cwd.join (Path.parse packagesDir)).join path)
  else if Text.startsWith "." name then Path.resolved cwd (owner.parent.join path)
  else .ok path

/-- The file that a module directive speaks of. -/
def locateModule (owner : Path) (packagesDir name : Text) : WorkspaceM Path := do
  let found ← query fun _ cwd => modulePath cwd owner packagesDir name
  let isThere ←
    if Text.startsWith "@" name then query fun files cwd => files.pathExists cwd found
    else pure true
  if isThere then
    if ← query fun files cwd => files.isFile cwd found then return found
    else throw (.moduleNotFound name found)
  else throw (.packageNotFound name)

/-- Modules are made under the settings of their owner. -/
def moduleOptions (owner : SourceUnit) : SourceUnit.Options :=
  ⟨owner.force, some owner.choice, owner.config⟩

/-- The unit of a module. -/
def loadModule (owner : SourceUnit) (name : Text) (path : Path) : WorkspaceM SourceUnit :=
  tryCatch (load path (moduleOptions owner)) fun
    | .undecodable p fault => throw (.moduleUndecodable name p fault)
    | failure => throw failure

/-- Builds the interface that a module directive asks for. It depends on the owner as well, which
holds the flags. -/
def buildModule (owner : SourceUnit) (task : ModuleTask) : WorkspaceM ModuleResult := do
  let path ← locateModule owner.path owner.config.packagesDir task.source
  let unit ← loadModule owner task.source path
  let output ← query fun _ cwd => Path.outputFor cwd owner.path task.output
  let status ← writeOutput owner.force path output [owner.path] (render (unit.forTask task))
    unit.header.isWhole
  log [.moduleBuilt status task.source output]
  return ⟨task.source, output.text, some status, none⟩

/-- Builds the modules one after the other; one that fails does not stop the others. -/
def buildModules (owner : SourceUnit) : List ModuleTask → WorkspaceM (List ModuleResult)
  | [] => pure []
  | task :: rest => do
    let result ← match ← attempt (buildModule owner task) with
      | .ok result => pure result
      | .error failure => do
        log [.moduleFailed task.source task.output failure]
        pure ⟨task.source, task.output, none, some failure.message⟩
    return result :: (← buildModules owner rest)

/-- Builds the modules of a unit and then its own interface. -/
def buildUnit (u : SourceUnit) : WorkspaceM BuildResult := do
  let modules ← buildModules u u.recipe.modules
  let output ← ofExcept (u.outputPath (← get).cwd)
  let status ← writeOutput u.force u.path output [] (render u) u.header.isWhole
  return ⟨u.path, output, status, modules⟩

/-- Builds the interfaces of a source file. -/
def buildFile (path : Path) (o : SourceUnit.Options) : WorkspaceM BuildResult := do
  buildUnit (← load path o)

end Build
end SolInterface
