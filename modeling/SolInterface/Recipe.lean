import SolInterface.NameSet
import SolInterface.Renaming
import SolInterface.Directive.Basic

/-!
Recipes: all that the directives of one source say about its interface, and the changes that the
flags of a module directive make to it.
-/
namespace SolInterface

structure Recipe where
  /-- Where the interface is written; empty if no directive says it. -/
  buildPath : Text := []
  copyright : Text := []
  imports : List Text := []
  replace : Renaming := ∅
  /-- Bases to drop. -/
  remove : NameSet := ∅
  /-- Members to leave out. -/
  exclude : NameSet := ∅
  /-- Functions to keep whatever their visibility. -/
  expose : NameSet := ∅
  /-- Variables to declare getters for whatever their visibility. -/
  getters : NameSet := ∅
  /-- Bases to add. -/
  inherit : List Text := []
  modules : List ModuleTask := []
  deriving DecidableEq, Repr

namespace Recipe
open Directive

/-- The recipe after one more request. The last build path and the last copyright notice count; all
else is collected. -/
def apply (r : Recipe) : Request → Recipe
  | .build path => { r with buildPath := path }
  | .moduleTask task => { r with modules := r.modules ++ [task] }
  | .copyright notice => { r with copyright := notice }
  | .importPath path => { r with imports := r.imports ++ [path] }
  | .replace old new => { r with replace := r.replace.put old new }
  | .remove names => { r with remove := r.remove.insertAll names }
  | .exclude names => { r with exclude := r.exclude.insertAll names }
  | .expose names => { r with expose := r.expose.insertAll names }
  | .getter names => { r with getters := r.getters.insertAll names }
  | .inherit names => { r with inherit := r.inherit ++ names }
  | .unrecognised _ => r
  | .undefined _ => r

def ofRequests (requests : List Request) : Recipe := requests.foldl apply {}

def ofDirectives (directives : List Directive) : Recipe :=
  ofRequests (directives.map (·.request))

/-- Paths added to a list of imports, leaving out those that are there already. -/
def addImports (imports more : List Text) : List Text :=
  more.foldl (fun known path => if known.contains path then known else known ++ [path]) imports

/-- The recipe under the flags of a module directive. -/
def overlay (r : Recipe) (flags : ModuleFlags) : Recipe :=
  { r with
    remove := r.remove.insertAll flags.remove
    replace := r.replace.putAll flags.replace
    inherit := r.inherit ++ flags.bases
    imports := addImports r.imports flags.imports }

def withBuildPath (r : Recipe) (path : Text) : Recipe := { r with buildPath := path }

end Recipe
end SolInterface
