import SolInterface.Directive.Dialect

/-!
The dialects that may be asked for by name, in order of registration, and the choice of one for a
source text.
-/
namespace SolInterface

/-- Dialects under their names, each name once. -/
structure Registry where
  dialects : List Dialect
  nodup_names : (dialects.map (·.name)).Nodup
  deriving Repr

namespace Registry
open Text

inductive Error where
  | unknownDialect (name : Text)
  /-- The text holds no marker, and there is no dialect to fall back on. -/
  | noDefault (name : Text)
  deriving DecidableEq, Repr

def empty : Registry := ⟨[], List.nodup_nil⟩

def standard : Registry := ⟨[.custom, .legacy], by decide⟩

def get? (r : Registry) (name : Text) : Option Dialect := r.dialects.find? (·.name == name)

def names (r : Registry) : List Text := r.dialects.map (·.name)

/-- The dialects with one in the place of that of its name. -/
def replace (d : Dialect) (dialects : List Dialect) : List Dialect :=
  dialects.map fun e => if e.name == d.name then d else e

theorem names_replace (d : Dialect) (dialects : List Dialect) :
    (replace d dialects).map (·.name) = dialects.map (·.name) := by
  rw [replace, List.map_map]
  refine List.map_congr_left fun e _ => ?_
  by_cases h : e.name = d.name <;> simp [h]

theorem nodup_concat {dialects : List Dialect} (h : (dialects.map (·.name)).Nodup) {d : Dialect}
    (hd : dialects.any (·.name == d.name) = false) :
    ((dialects ++ [d]).map (·.name)).Nodup := by
  rw [List.map_append, List.map_singleton, List.nodup_append]
  refine ⟨h, by simp, fun name hname other hother => ?_⟩
  obtain ⟨e, he, rfl⟩ := List.mem_map.1 hname
  rw [List.mem_singleton.1 hother]
  exact fun heq => absurd (List.any_eq_false.1 hd e he) (by simp [heq])

/-- A dialect whose name is taken replaces the one that had it; else it comes last. -/
def register (r : Registry) (d : Dialect) : Registry :=
  if h : r.dialects.any (·.name == d.name) then
    ⟨replace d r.dialects, names_replace d r.dialects ▸ r.nodup_names⟩
  else ⟨r.dialects ++ [d], nodup_concat r.nodup_names (Bool.eq_false_iff.2 h)⟩

def buildMarkers (r : Registry) : List Text := r.dialects.map (·.buildMarker)

/-- The first dialect whose marker occurs in the text, and else the one named `fallback`. -/
def detect (r : Registry) (content : Text) (fallback : Text) : Except Error Dialect :=
  match r.dialects.find? fun d => occursIn d.marker content with
  | some d => .ok d
  | none =>
    match r.get? fallback with
    | some d => .ok d
    | none => .error (.noDefault fallback)

/-- The name leaves the choice to the text. -/
def isAuto (name : Text) : Bool := name.isEmpty || name == "auto".toList

/-- The dialect of that name, or the one that the text calls for. -/
def resolve (r : Registry) (name : Text) (content : Text) : Except Error Dialect :=
  if isAuto name then r.detect content "custom"
  else match r.get? name with
    | some d => .ok d
    | none => .error (.unknownDialect name)

end Registry

/-- How a caller asks for a dialect: by name, or by giving it. -/
inductive DialectChoice where
  | named (name : Text)
  | given (dialect : Dialect)
  deriving DecidableEq, Repr

namespace DialectChoice

def resolve (registry : Registry) (content : Text) :
    DialectChoice → Except Registry.Error Dialect
  | named name => registry.resolve name content
  | given d => .ok d

/-- The dialects that may come up under this choice: all of them if it is left open. -/
def candidates (registry : Registry) : DialectChoice → Except Registry.Error (List Dialect)
  | given d => .ok [d]
  | named name =>
    if Registry.isAuto name then .ok registry.dialects
    else (registry.resolve name []).map fun d => [d]

end DialectChoice
end SolInterface
