import Mathlib.Data.List.Nodup
import SolInterface.Recipe

/-!
What a recipe holds after the requests of a source. Each part of it is changed by its own sort of
request alone: a path or a notice is that of the last one, a list is collected in order, and a name
is in a set if some request names it.
-/
namespace SolInterface

namespace NameSet

theorem mem_insertAll {s : NameSet} {names : List Text} {x : Text} :
    x ∈ s.insertAll names ↔ x ∈ s ∨ x ∈ names := by
  induction names generalizing s with
  | nil => simp [insertAll]
  | cons name names ih =>
    have hinsert : x ∈ s.insert name ↔ x = name ∨ x ∈ s := mem_place
    have hfold : s.insertAll (name :: names) = (s.insert name).insertAll names := rfl
    rw [hfold, ih, hinsert, List.mem_cons]
    tauto

theorem notMem_empty (x : Text) : x ∉ (∅ : NameSet) := List.not_mem_nil

/-- A set is determined by its members, since it lists them in increasing order. -/
theorem eq_of_mem_iff {s t : NameSet} (h : ∀ x, x ∈ s ↔ x ∈ t) : s = t := by
  have hirrefl : ∀ x : Text, Text.before x x ≠ true := by
    intro x hx
    rw [Text.before, lexBefore_self] at hx
    cases hx
  have hnodup : ∀ u : NameSet, u.toList.Nodup := by
    intro u
    refine List.Pairwise.imp (fun {x y} hxy hne => ?_) u.increasing
    exact hirrefl y (hne ▸ hxy)
  have hperm : s.toList.Perm t.toList := (List.perm_ext_iff_of_nodup (hnodup s) (hnodup t)).2 h
  have hlist : s.toList = t.toList := by
    refine hperm.eq_of_pairwise (fun x y _ _ hxy hyx => ?_) s.increasing t.increasing
    exact absurd (Text.before_trans hxy hyx) (hirrefl x)
  cases s
  cases t
  congr

end NameSet

/-! What a request adds to each part of a recipe. -/

namespace Directive.Request

def outputPath? : Request → Option Text
  | .build path => some path
  | _ => none

def notice? : Request → Option Text
  | .copyright notice => some notice
  | _ => none

def replacement? : Request → Option (Text × Text)
  | .replace old new => some (old, new)
  | _ => none

def task? : Request → Option ModuleTask
  | .moduleTask task => some task
  | _ => none

def imported : Request → List Text
  | .importPath path => [path]
  | _ => []

def inherited : Request → List Text
  | .inherit names => names
  | _ => []

def removed : Request → List Text
  | .remove names => names
  | _ => []

def excluded : Request → List Text
  | .exclude names => names
  | _ => []

def exposed : Request → List Text
  | .expose names => names
  | _ => []

def shown : Request → List Text
  | .getter names => names
  | _ => []

end Directive.Request

namespace Recipe
open Directive

section Runs
variable {requests : List Request}

/-- A set to which each request adds its names holds the names of all requests. -/
theorem mem_ofRequests {get : Recipe → NameSet} {names : Request → List Text}
    (hstart : get {} = ∅) (hstep : ∀ r q, get (apply r q) = (get r).insertAll (names q))
    {requests : List Request} {x : Text} :
    x ∈ get (ofRequests requests) ↔ x ∈ requests.flatMap names := by
  have hrun : ∀ r, x ∈ get (requests.foldl apply r) ↔ x ∈ get r ∨ x ∈ requests.flatMap names := by
    induction requests with
    | nil => simp
    | cons q requests ih =>
      intro r
      rw [List.foldl_cons, ih, hstep, NameSet.mem_insertAll, List.flatMap_cons, List.mem_append,
        or_assoc]
  rw [ofRequests, hrun, hstart]
  simp [NameSet.notMem_empty]

/-- A list to which each request adds its part is made of these parts. -/
theorem ofRequests_eq_flatMap {α : Type} {get : Recipe → List α} {part : Request → List α}
    (hstart : get {} = []) (hstep : ∀ r q, get (apply r q) = get r ++ part q)
    (requests : List Request) : get (ofRequests requests) = requests.flatMap part := by
  have hrun : ∀ r, get (requests.foldl apply r) = get r ++ requests.flatMap part := by
    induction requests with
    | nil => simp
    | cons q requests ih =>
      intro r
      rw [List.foldl_cons, ih, hstep, List.flatMap_cons, List.append_assoc]
  rw [ofRequests, hrun, hstart, List.nil_append]

/-- A text that each request may set anew is the one set last. -/
theorem ofRequests_eq_getLast {get : Recipe → Text} {part : Request → Option Text}
    (hstart : get {} = []) (hstep : ∀ r q, get (apply r q) = (part q).getD (get r))
    (requests : List Request) :
    get (ofRequests requests) = ((requests.filterMap part).getLast?).getD [] := by
  have hrun : ∀ r, get (requests.foldl apply r) =
      ((requests.filterMap part).getLast?).getD (get r) := by
    induction requests with
    | nil => simp
    | cons q requests ih =>
      intro r
      rw [List.foldl_cons, ih, hstep, List.filterMap_cons]
      cases part q with
      | none => rfl
      | some t => rw [List.getLast?_cons, Option.getD_some, Option.getD_some]
  rw [ofRequests, hrun, hstart]

/-- The renaming is made of the replacements, in order. -/
theorem replace_ofRequests :
    (ofRequests requests).replace = Renaming.ofList (requests.filterMap Request.replacement?) := by
  have hrun : ∀ r, (requests.foldl apply r).replace =
      r.replace.putAll (requests.filterMap Request.replacement?) := by
    induction requests with
    | nil => exact fun r => rfl
    | cons q requests ih =>
      intro r
      rw [List.foldl_cons, ih]
      cases q <;> rfl
  exact hrun {}

theorem buildPath_ofRequests : (ofRequests requests).buildPath =
    ((requests.filterMap Request.outputPath?).getLast?).getD [] :=
  ofRequests_eq_getLast rfl (fun r q => by cases q <;> rfl) requests

theorem copyright_ofRequests : (ofRequests requests).copyright =
    ((requests.filterMap Request.notice?).getLast?).getD [] :=
  ofRequests_eq_getLast rfl (fun r q => by cases q <;> rfl) requests

theorem imports_ofRequests : (ofRequests requests).imports = requests.flatMap Request.imported :=
  ofRequests_eq_flatMap rfl (fun r q => by cases q <;> simp [apply, Request.imported]) requests

theorem inherit_ofRequests : (ofRequests requests).inherit = requests.flatMap Request.inherited :=
  ofRequests_eq_flatMap rfl (fun r q => by cases q <;> simp [apply, Request.inherited]) requests

theorem modules_ofRequests :
    (ofRequests requests).modules = requests.filterMap Request.task? := by
  rw [List.filterMap_eq_flatMap_toList]
  exact ofRequests_eq_flatMap rfl
    (fun r q => by cases q <;> simp [apply, Request.task?]) requests

variable {x : Text}

theorem mem_remove_ofRequests :
    x ∈ (ofRequests requests).remove ↔ x ∈ requests.flatMap Request.removed :=
  mem_ofRequests rfl fun r q => by cases q <;> rfl

theorem mem_exclude_ofRequests :
    x ∈ (ofRequests requests).exclude ↔ x ∈ requests.flatMap Request.excluded :=
  mem_ofRequests rfl fun r q => by cases q <;> rfl

theorem mem_expose_ofRequests :
    x ∈ (ofRequests requests).expose ↔ x ∈ requests.flatMap Request.exposed :=
  mem_ofRequests rfl fun r q => by cases q <;> rfl

theorem mem_getters_ofRequests :
    x ∈ (ofRequests requests).getters ↔ x ∈ requests.flatMap Request.shown :=
  mem_ofRequests rfl fun r q => by cases q <;> rfl

end Runs
end Recipe
end SolInterface
