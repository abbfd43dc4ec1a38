import Mathlib.Data.List.Induction
import SolInterface.Proofs.Recipe
import SolInterface.Proofs.TypeSubstitution

/-!
In which order requests count. `Gathers` says what a recipe holds of the requests of each sort: the
last path and the last notice, the lists in order, each old name where it came first with the new
name that came last, and the members of the sets. There is one such recipe, the one that the
requests make, so that requests of different sorts may be mixed in any way.
-/
namespace SolInterface

/-! Names that come up for the first time. -/

namespace Text

def unseen (seen names : List Text) : List Text := (names.removeAll seen).eraseDups

theorem unseen_nil (names : List Text) : unseen [] names = names.eraseDups := by
  simp [unseen, List.removeAll]

theorem mem_unseen {seen names : List Text} {x : Text} :
    x ∈ unseen seen names ↔ x ∈ names ∧ x ∉ seen := by
  simp [unseen, List.removeAll]

theorem unseen_concat (seen names : List Text) (x : Text) :
    unseen seen (names ++ [x]) =
      unseen seen names ++ (([x].removeAll seen).removeAll (names.removeAll seen)).eraseDups := by
  have hsplit : (names ++ [x]).removeAll seen = names.removeAll seen ++ [x].removeAll seen :=
    List.filter_append ..
  rw [unseen, hsplit, List.eraseDups_append, unseen]

theorem unseen_concat_of_mem {seen names : List Text} {x : Text} (h : x ∈ seen ∨ x ∈ names) :
    unseen seen (names ++ [x]) = unseen seen names := by
  have hlast : ([x].removeAll seen).removeAll (names.removeAll seen) = [] := by
    simp only [List.removeAll, List.filter_eq_nil_iff, List.mem_filter, List.mem_singleton]
    rintro y ⟨rfl, hseen⟩
    simp_all
  rw [unseen_concat, hlast, List.eraseDups_nil, List.append_nil]

theorem unseen_concat_of_notMem {seen names : List Text} {x : Text} (hseen : x ∉ seen)
    (hnames : x ∉ names) : unseen seen (names ++ [x]) = unseen seen names ++ [x] := by
  have hlast : ([x].removeAll seen).removeAll (names.removeAll seen) = [x] := by
    simp [List.removeAll, hseen, hnames]
  rw [unseen_concat, hlast]
  rfl

end Text

namespace Recipe
open Text

theorem addImports_append (seen names more : List Text) :
    addImports seen (names ++ more) = addImports (addImports seen names) more :=
  List.foldl_append

theorem addImports_of_mem {seen : List Text} {x : Text} (h : x ∈ seen) :
    addImports seen [x] = seen :=
  if_pos (List.contains_iff_mem.2 h)

theorem addImports_of_notMem {seen : List Text} {x : Text} (h : x ∉ seen) :
    addImports seen [x] = seen ++ [x] :=
  if_neg fun hseen => h (List.contains_iff_mem.1 hseen)

/-- The list that is being extended is looked up each time, and this leaves out the same names as a
look at the list as it was and at the names before. -/
theorem addImports_eq (seen names : List Text) :
    addImports seen names = seen ++ unseen seen names := by
  -- from the end, since a name is compared with those before it
  induction names using List.reverseRecOn with
  | nil => exact (List.append_nil seen).symm
  | append_singleton names x ih =>
    have hmem : x ∈ seen ++ unseen seen names ↔ x ∈ seen ∨ x ∈ names := by
      rw [List.mem_append, mem_unseen]
      tauto
    rw [addImports_append, ih]
    by_cases h : x ∈ seen ∨ x ∈ names
    · rw [addImports_of_mem (hmem.2 h), unseen_concat_of_mem h]
    · obtain ⟨hseen, hnames⟩ := not_or.1 h
      rw [addImports_of_notMem (mt hmem.1 h), unseen_concat_of_notMem hseen hnames,
        List.append_assoc]

end Recipe

/-! The order of a renaming. -/

namespace Renaming
open Text

/-- The old names, each in the place where it was first given. -/
def keys (r : Renaming) : List Text := r.pairs.map (·.1)

theorem keys_enter_of_mem {old : Text} (new : Text) {ps : List (Text × Text)}
    (h : old ∈ ps.map (·.1)) : (enter old new ps).map (·.1) = ps.map (·.1) := by
  induction ps with
  | nil => cases h
  | cons p ps ih =>
    rw [enter]
    by_cases hp : p.1 = old
    · rw [if_pos hp, List.map_cons, List.map_cons, hp]
    · rw [if_neg hp, List.map_cons, List.map_cons, ih (List.mem_of_ne_of_mem (Ne.symm hp) h)]

theorem enter_of_notMem {old : Text} (new : Text) {ps : List (Text × Text)}
    (h : old ∉ ps.map (·.1)) : enter old new ps = ps ++ [(old, new)] := by
  induction ps with
  | nil => rfl
  | cons p ps ih =>
    obtain ⟨hp, hps⟩ := List.ne_and_not_mem_of_not_mem_cons h
    rw [enter, if_neg (Ne.symm hp), ih hps, List.cons_append]

/-- Old names are collected as imports are: one that is there already keeps its place. -/
theorem keys_put (r : Renaming) (old new : Text) :
    (r.put old new).keys = Recipe.addImports r.keys [old] := by
  have hput : (r.put old new).pairs = enter old new r.pairs := rfl
  by_cases h : old ∈ r.keys
  · rw [Recipe.addImports_of_mem h, keys, hput, keys_enter_of_mem new h, keys]
  · rw [Recipe.addImports_of_notMem h, keys, hput, enter_of_notMem new h, List.map_append]
    rfl

theorem keys_putAll (r : Renaming) (entries : List (Text × Text)) :
    (r.putAll entries).keys = r.keys ++ unseen r.keys (entries.map (·.1)) := by
  rw [← Recipe.addImports_eq]
  induction entries generalizing r with
  | nil => rfl
  | cons entry entries ih =>
    calc (r.putAll (entry :: entries)).keys
        = ((r.put entry.1 entry.2).putAll entries).keys := rfl
      _ = Recipe.addImports (Recipe.addImports r.keys [entry.1]) (entries.map (·.1)) := by
        rw [ih, keys_put]
      _ = Recipe.addImports r.keys ((entry :: entries).map (·.1)) :=
        (Recipe.addImports_append r.keys [entry.1] _).symm

theorem keys_ofList (entries : List (Text × Text)) :
    (ofList entries).keys = (entries.map (·.1)).eraseDups :=
  (keys_putAll empty entries).trans (unseen_nil _)

/-- A renaming is its old names in order, each with the new name that it gives. -/
theorem pairs_eq_map_keys (r : Renaming) : r.pairs = r.keys.map fun x => (x, r.rename x) := by
  have hpair : ∀ p ∈ r.pairs, (p.1, r.rename p.1) = p := by
    intro p hp
    rw [rename, (lookup_eq_some_iff_mem r.nodup).2 hp, Option.getD_some]
  have hself : r.pairs.map (fun p => (p.1, r.rename p.1)) = r.pairs :=
    (List.map_congr_left hpair).trans (List.map_id _)
  rw [keys, List.map_map]
  exact hself.symm

theorem eq_of_keys {r s : Renaming} (hkeys : r.keys = s.keys) (h : ∀ x, r.rename x = s.rename x) :
    r = s := by
  have hpairs : r.pairs = s.pairs := by
    rw [pairs_eq_map_keys, pairs_eq_map_keys s, hkeys, funext h]
  cases r
  cases s
  congr

end Renaming

/-! What a recipe holds of the requests. -/

namespace Recipe
open Directive

structure Gathers (requests : List Request) (r : Recipe) : Prop where
  buildPath : r.buildPath = ((requests.filterMap Request.outputPath?).getLast?).getD []
  copyright : r.copyright = ((requests.filterMap Request.notice?).getLast?).getD []
  imports : r.imports = requests.flatMap Request.imported
  keys : r.replace.keys = ((requests.filterMap Request.replacement?).map (·.1)).eraseDups
  rename : ∀ x, r.replace.rename x =
    ((requests.filterMap Request.replacement?).reverse.lookup x).getD x
  inherit : r.inherit = requests.flatMap Request.inherited
  modules : r.modules = requests.filterMap Request.task?
  remove : ∀ x, x ∈ r.remove ↔ x ∈ requests.flatMap Request.removed
  exclude : ∀ x, x ∈ r.exclude ↔ x ∈ requests.flatMap Request.excluded
  expose : ∀ x, x ∈ r.expose ↔ x ∈ requests.flatMap Request.exposed
  getters : ∀ x, x ∈ r.getters ↔ x ∈ requests.flatMap Request.shown

theorem gathers_ofRequests (requests : List Request) :
    Gathers requests (ofRequests requests) where
  buildPath := buildPath_ofRequests
  copyright := copyright_ofRequests
  imports := imports_ofRequests
  keys := by rw [replace_ofRequests, Renaming.keys_ofList]
  rename x := by rw [replace_ofRequests, Renaming.rename_ofList]
  inherit := inherit_ofRequests
  modules := modules_ofRequests
  remove _ := mem_remove_ofRequests
  exclude _ := mem_exclude_ofRequests
  expose _ := mem_expose_ofRequests
  getters _ := mem_getters_ofRequests

/-- Only one recipe holds what the requests ask for. -/
theorem Gathers.unique {requests : List Request} {r s : Recipe} (hr : Gathers requests r)
    (hs : Gathers requests s) : r = s := by
  -- equal as lists: the order of a renaming and that of a set are given by what they hold
  have hreplace : r.replace = s.replace :=
    Renaming.eq_of_keys (hr.keys.trans hs.keys.symm) fun x => (hr.rename x).trans (hs.rename x).symm
  have hremove := NameSet.eq_of_mem_iff fun x => (hr.remove x).trans (hs.remove x).symm
  have hexclude := NameSet.eq_of_mem_iff fun x => (hr.exclude x).trans (hs.exclude x).symm
  have hexpose := NameSet.eq_of_mem_iff fun x => (hr.expose x).trans (hs.expose x).symm
  have hgetters := NameSet.eq_of_mem_iff fun x => (hr.getters x).trans (hs.getters x).symm
  have hbuildPath := hr.buildPath.trans hs.buildPath.symm
  have hcopyright := hr.copyright.trans hs.copyright.symm
  have himports := hr.imports.trans hs.imports.symm
  have hinherit := hr.inherit.trans hs.inherit.symm
  have hmodules := hr.modules.trans hs.modules.symm
  cases r
  cases s
  simp_all only

/-- The same requests sort by sort: in the same order where the order counts, and for the sets the
same names, however often and in whatever groups they are given. Requests of different sorts may be
mixed in any way, and those that were not recognised may be anywhere. -/
structure AgreeByKind (requests others : List Request) : Prop where
  build : requests.filterMap Request.outputPath? = others.filterMap Request.outputPath?
  copyright : requests.filterMap Request.notice? = others.filterMap Request.notice?
  imports : requests.flatMap Request.imported = others.flatMap Request.imported
  replace : requests.filterMap Request.replacement? = others.filterMap Request.replacement?
  inherit : requests.flatMap Request.inherited = others.flatMap Request.inherited
  modules : requests.filterMap Request.task? = others.filterMap Request.task?
  remove : ∀ x, x ∈ requests.flatMap Request.removed ↔ x ∈ others.flatMap Request.removed
  exclude : ∀ x, x ∈ requests.flatMap Request.excluded ↔ x ∈ others.flatMap Request.excluded
  expose : ∀ x, x ∈ requests.flatMap Request.exposed ↔ x ∈ others.flatMap Request.exposed
  getter : ∀ x, x ∈ requests.flatMap Request.shown ↔ x ∈ others.flatMap Request.shown

theorem Gathers.of_agree {requests others : List Request} {r : Recipe}
    (hr : Gathers others r) (h : AgreeByKind requests others) : Gathers requests r where
  buildPath := by rw [h.build, hr.buildPath]
  copyright := by rw [h.copyright, hr.copyright]
  imports := by rw [h.imports, hr.imports]
  keys := by rw [h.replace, hr.keys]
  rename x := by rw [h.replace, hr.rename]
  inherit := by rw [h.inherit, hr.inherit]
  modules := by rw [h.modules, hr.modules]
  remove x := (hr.remove x).trans (h.remove x).symm
  exclude x := (hr.exclude x).trans (h.exclude x).symm
  expose x := (hr.expose x).trans (h.expose x).symm
  getters x := (hr.getters x).trans (h.getter x).symm

/-- Directives that agree kind by kind make one recipe, which holds what either list asks for. -/
theorem ofDirectives_of_agreeByKind {ds es : List Directive}
    (h : AgreeByKind (ds.map (·.request)) (es.map (·.request))) :
    ofDirectives ds = ofDirectives es ∧ Gathers (ds.map (·.request)) (ofDirectives es) := by
  have hds : Gathers (ds.map (·.request)) (ofDirectives ds) := gathers_ofRequests _
  have hes : Gathers (ds.map (·.request)) (ofDirectives es) :=
    (gathers_ofRequests (es.map (·.request))).of_agree h
  exact ⟨hds.unique hes, hes⟩

/-- Directives kind by kind, and the same ones mixed, with the names to remove in other groups and
two lines that are no directives. `A` keeps its place before `B` and takes its second new name. -/
theorem ofDirectives_mixed :
    let ds : List Directive :=
      [⟨.build "a.sol", 1⟩, ⟨.build "b.sol", 2⟩, ⟨.importPath "e.sol", 3⟩,
        ⟨.replace "A" "IA", 4⟩, ⟨.replace "B" "IB", 5⟩, ⟨.replace "A" "IA2", 6⟩,
        ⟨.inherit ["X", "Y"], 7⟩, ⟨.inherit ["X"], 8⟩, ⟨.remove ["C", "D"], 9⟩]
    let es : List Directive :=
      [⟨.remove ["D"], 1⟩, ⟨.unrecognised "bulid c", 2⟩, ⟨.inherit ["X", "Y"], 3⟩,
        ⟨.replace "A" "IA", 4⟩, ⟨.build "a.sol", 5⟩, ⟨.replace "B" "IB", 6⟩,
        ⟨.build "b.sol", 7⟩, ⟨.remove ["D", "C", "D"], 8⟩, ⟨.replace "A" "IA2", 9⟩,
        ⟨.unrecognised "d", 10⟩, ⟨.inherit ["X"], 11⟩, ⟨.importPath "e.sol", 12⟩]
    AgreeByKind (ds.map (·.request)) (es.map (·.request)) ∧
      ofDirectives ds = ofDirectives es ∧
      (ofDirectives es).buildPath = "b.sol".toList ∧
      (ofDirectives es).replace.pairs =
        [("A".toList, "IA2".toList), ("B".toList, "IB".toList)] := by
  intro ds es
  have hset : ∀ {names others : List Text}, (∀ x ∈ names, x ∈ others) →
      (∀ x ∈ others, x ∈ names) → ∀ x, x ∈ names ↔ x ∈ others :=
    fun hleft hright x => ⟨hleft x, hright x⟩
  have hagree : AgreeByKind (ds.map (·.request)) (es.map (·.request)) := {
    build := by decide
    copyright := by decide
    imports := by decide
    replace := by decide
    inherit := by decide
    modules := by decide
    remove := hset (by decide) (by decide)
    exclude := hset (by decide) (by decide)
    expose := hset (by decide) (by decide)
    getter := hset (by decide) (by decide) }
  exact ⟨hagree, (ofDirectives_of_agreeByKind hagree).1, by decide, by decide⟩

end Recipe
end SolInterface
