import SolInterface.Interface.Assemble
import SolInterface.Proofs.Recipe

/-!
Leaving members out. Whether a member stands in an interface is decided by the policy for its sort:
an excluded function stays if it is asked for, an excluded variable keeps a getter that is asked
for, and nothing keeps an event or an error. Main statement: more names to exclude give the
interface of the declarations without the members of these names that nothing keeps.
-/
namespace SolInterface

def Recipe.excluding (r : Recipe) (names : NameSet) : Recipe :=
  { r with exclude := r.exclude.insertAll names.toList }

/-- The declarations without the members of these names, but for the functions and the variables
that the recipe asks for. -/
def Source.without (s : Source) (r : Recipe) (names : NameSet) : Source :=
  { s with
    functions := s.functions.filter fun f => !(f.name ∈ names && f.name ∉ r.expose)
    events := s.events.filter fun n => n.name ∉ names
    errors := s.errors.filter fun n => n.name ∉ names
    stateVariables := s.stateVariables.filter fun v => !(v.name ∈ names && v.name ∉ r.getters) }

namespace Recipe
variable (r : Recipe) (names : NameSet)

theorem mem_exclude_excluding {name : Text} :
    name ∈ (r.excluding names).exclude ↔ name ∈ r.exclude ∨ name ∈ names :=
  NameSet.mem_insertAll

/-! The policies under more names to exclude. -/

theorem keepsNotice_excluding (n : Notice) :
    (r.excluding names).keepsNotice n = (r.keepsNotice n && decide (n.name ∉ names)) := by
  simp only [keepsNotice, mem_exclude_excluding, not_or, Bool.decide_and]

theorem keepsFunction_excluding (f : Function) :
    (r.excluding names).keepsFunction f =
      (r.keepsFunction f && !(f.name ∈ names && f.name ∉ r.expose)) := by
  have hexpose : (r.excluding names).expose = r.expose := rfl
  simp only [keepsFunction, mem_exclude_excluding, hexpose]
  by_cases hasked : f.name ∈ r.expose <;> by_cases hnames : f.name ∈ names <;>
    simp [hasked, hnames]

theorem wantsGetter_excluding (v : Variable) :
    (r.excluding names).wantsGetter v =
      (r.wantsGetter v && !(v.name ∈ names && v.name ∉ r.getters)) := by
  have hgetters : (r.excluding names).getters = r.getters := rfl
  simp only [wantsGetter, mem_exclude_excluding, hgetters]
  by_cases hasked : v.name ∈ r.getters <;> by_cases hnames : v.name ∈ names <;>
    simp [hasked, hnames]

end Recipe

namespace Interface
open Text

/-- Excluding members gives the text of the interface without them, with its documentation and its
groups. -/
theorem assemble_excluding (header : Header) (r : Recipe) (names : NameSet) (s : Source) :
    assemble header (r.excluding names) s = assemble header r (s.without r names) := by
  have hnotices : ∀ ns : List Notice, ns.filter (r.excluding names).keepsNotice =
      (ns.filter fun n => n.name ∉ names).filter r.keepsNotice := fun ns => by
    rw [List.filter_filter, funext (r.keepsNotice_excluding names)]
  have hfunctions : s.functions.filter (r.excluding names).keepsFunction =
      (s.without r names).functions.filter r.keepsFunction := by
    rw [Source.without, List.filter_filter, funext (r.keepsFunction_excluding names)]
  have hvariables : s.stateVariables.filter (r.excluding names).wantsGetter =
      (s.without r names).stateVariables.filter r.wantsGetter := by
    rw [Source.without, List.filter_filter, funext (r.wantsGetter_excluding names)]
  rw [assemble, assemble, getters, getters, hnotices, hnotices, hfunctions, hvariables]
  rfl

end Interface
end SolInterface
