import SolInterface.SourceUnit
import SolInterface.Proofs.RequestOrder

/-!
The flags of a module directive act on the recipe of the module as further directives at the end of
its source would: one that removes, one for each replacement, one that inherits, and one for each
path that is not imported yet. So what the source asks for stays in its place, and a flag wins over
it where both give a new name.
-/
namespace SolInterface
open Text Directive

def ModuleFlags.requests (flags : ModuleFlags) (imports : List Text) : List Request :=
  .remove flags.remove :: flags.replace.map (fun entry => .replace entry.1 entry.2) ++
    .inherit flags.bases :: (unseen imports flags.imports).map .importPath

namespace Recipe

/-! Requests of one sort in a row. -/

theorem foldl_apply_replace (entries : List (Text × Text)) (r : Recipe) :
    (entries.map fun entry => Request.replace entry.1 entry.2).foldl apply r =
      { r with replace := r.replace.putAll entries } := by
  induction entries generalizing r with
  | nil => rfl
  | cons entry entries ih =>
    rw [List.map_cons, List.foldl_cons, ih]
    rfl

theorem foldl_apply_importPath (paths : List Text) (r : Recipe) :
    (paths.map Request.importPath).foldl apply r = { r with imports := r.imports ++ paths } := by
  induction paths generalizing r with
  | nil => rw [List.append_nil]; rfl
  | cons path paths ih =>
    rw [List.map_cons, List.foldl_cons, ih]
    simp only [apply, List.append_assoc, List.singleton_append]

/-- The flags of a module are their requests, made of any recipe. -/
theorem foldl_apply_requests (r : Recipe) (flags : ModuleFlags) :
    (flags.requests r.imports).foldl apply r = r.overlay flags := by
  rw [ModuleFlags.requests, List.foldl_append, List.foldl_cons, List.foldl_cons,
    foldl_apply_replace, foldl_apply_importPath, overlay, addImports_eq]
  rfl

theorem overlay_ofRequests (requests : List Request) (flags : ModuleFlags) :
    (ofRequests requests).overlay flags =
      ofRequests (requests ++ flags.requests (requests.flatMap Request.imported)) := by
  rw [← foldl_apply_requests, imports_ofRequests, ofRequests, ofRequests, List.foldl_append]

/-! What stays as it was. -/

/-- A recipe under flags. What was there comes first and in its order, a new name is that of the
last flag for the old name if there is one, and the parts without flags are the same. -/
structure Overlaid (flags : ModuleFlags) (r after : Recipe) : Prop where
  imports : r.imports <+: after.imports
  inherit : r.inherit <+: after.inherit
  keys : r.replace.keys <+: after.replace.keys
  replace : ∀ x, after.replace.pairs.lookup x =
    (flags.replace.reverse.lookup x).or (r.replace.pairs.lookup x)
  buildPath : after.buildPath = r.buildPath
  copyright : after.copyright = r.copyright
  exclude : after.exclude = r.exclude
  expose : after.expose = r.expose
  getters : after.getters = r.getters
  modules : after.modules = r.modules

theorem overlaid_overlay (flags : ModuleFlags) (r : Recipe) :
    Overlaid flags r (r.overlay flags) where
  imports := ⟨_, (addImports_eq r.imports flags.imports).symm⟩
  inherit := List.prefix_append ..
  keys := ⟨_, (Renaming.keys_putAll r.replace flags.replace).symm⟩
  replace := Renaming.lookup_putAll r.replace flags.replace
  buildPath := rfl
  copyright := rfl
  exclude := rfl
  expose := rfl
  getters := rfl
  modules := rfl

/-- A recipe under the flags of a module is the recipe of its directives with those of the flags
after them, on whatever lines. -/
theorem overlay_eq_ofDirectives_append (ds : List Directive) (flags : ModuleFlags)
    {added : List Directive}
    (hadded : added.map (·.request) =
      flags.requests ((ds.map (·.request)).flatMap Request.imported)) :
    (ofDirectives ds).overlay flags = ofDirectives (ds ++ added) ∧
      Overlaid flags (ofDirectives ds) ((ofDirectives ds).overlay flags) := by
  refine ⟨?_, overlaid_overlay flags _⟩
  rw [ofDirectives, ofDirectives, overlay_ofRequests, List.map_append, hadded]

/-- The flag for `A` changes its new name and not its place, and of the imports only `d` is new. -/
theorem overlay_eq_ofDirectives_append_flags :
    let ds : List Directive :=
      [⟨.importPath "c", 1⟩, ⟨.replace "A" "IA", 2⟩, ⟨.replace "B" "IB", 3⟩, ⟨.inherit ["X"], 4⟩]
    let flags : ModuleFlags :=
      { remove := ["R"], replace := [("C".toList, "IC".toList), ("A".toList, "J".toList)],
        bases := ["Y", "X"], imports := ["d", "c", "d"] }
    let added : List Directive :=
      [⟨.remove ["R"], 9⟩, ⟨.replace "C" "IC", 9⟩, ⟨.replace "A" "J", 9⟩, ⟨.inherit ["Y", "X"], 9⟩,
        ⟨.importPath "d", 9⟩]
    added.map (·.request) = flags.requests ((ds.map (·.request)).flatMap Request.imported) ∧
      (ofDirectives ds).overlay flags = ofDirectives (ds ++ added) ∧
      ((ofDirectives ds).overlay flags).imports = ["c".toList, "d".toList] ∧
      ((ofDirectives ds).overlay flags).replace.pairs =
        [("A".toList, "J".toList), ("B".toList, "IB".toList), ("C".toList, "IC".toList)] := by
  intro ds flags added
  have hadded : added.map (·.request) =
      flags.requests ((ds.map (·.request)).flatMap Request.imported) := by decide
  exact ⟨hadded, (overlay_eq_ofDirectives_append ds flags hadded).1, by decide, by decide⟩

end Recipe
end SolInterface
