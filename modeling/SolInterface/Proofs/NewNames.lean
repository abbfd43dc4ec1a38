import SolInterface.Directive.Dialect
import SolInterface.Interface.Policy
import SolInterface.Proofs.Recipe
import SolInterface.Proofs.TypeSubstitution

/-!
The new names of bases and of types. A base is looked up once, while a type goes through all entries
of the renaming in their order, so that an entry may change what an earlier one has put there. The
two agree on a name exactly if the entries after its own leave its new name alone.
-/
namespace SolInterface
open Text Directive

/-! What is read are names. -/

namespace Text

theorem isName_of_word? {t w rest : Text} (h : word? t = some (w, rest)) : IsName w := by
  obtain ⟨-, hne, hword, -⟩ := word?_eq_some.1 h
  exact ⟨hne, hword⟩

/-- Every occurrence was read somewhere in the text. -/
theorem exists_read_of_mem_occurrencesFrom {α : Type} {read : Bool → Text → Option (α × Text)}
    {skip line : Nat} {inWord : Bool} {t : Text} {found : Occurrence α}
    (h : found ∈ occurrencesFrom read skip inWord line t) :
    ∃ b s rest, read b s = some (found.value, rest) := by
  induction t generalizing skip line inWord with
  | nil => simp [occurrencesFrom] at h
  | cons c t ih =>
    cases skip with
    | succ skip => exact ih h
    | zero =>
      rw [occurrencesFrom] at h
      dsimp only at h
      split at h
      · next a rest hread =>
        rcases List.mem_cons.1 h with rfl | h
        · exact ⟨inWord, c :: t, rest, hread⟩
        · exact ih h
      · exact ih h

end Text

theorem ModuleFlags.isName_of_mem_replace {t : Text} {entry : Text × Text}
    (h : entry ∈ (ModuleFlags.parse t).replace) : IsName entry.1 ∧ IsName entry.2 := by
  obtain ⟨found, hfound, rfl⟩ := List.mem_map.1 h
  obtain ⟨-, s, rest, hread⟩ := exists_read_of_mem_occurrencesFrom hfound
  simp only [replaceFlag?, Option.bind_eq_bind, Option.bind_eq_some_iff] at hread
  obtain ⟨_, -, _, -, ⟨old, _⟩, hold, _, -, _, -, _, -, ⟨new, _⟩, hnew, hend⟩ := hread
  split at hend
  · simp only [Option.some.injEq, Prod.mk.injEq] at hend
    rw [← hend.1]
    exact ⟨isName_of_word? hold, isName_of_word? hnew⟩
  · cases hend

namespace Directive.Request

theorem isName_of_replace? {t old new : Text} (h : replace? t = some (.replace old new)) :
    IsName old ∧ IsName new := by
  simp only [replace?, Option.bind_eq_bind, Option.bind_eq_some_iff] at h
  obtain ⟨_, -, ⟨a, _⟩, hold, _, -, _, -, _, -, ⟨b, _⟩, hnew, hend⟩ := h
  split at hend
  · cases hend
    exact ⟨isName_of_word? hold, isName_of_word? hnew⟩
  · cases hend

/-- Among the forms of both grammars only that of a replacement gives one. -/
theorem isName_of_shared? {t old new : Text} (h : shared? t = some (.replace old new)) :
    IsName old ∧ IsName new := by
  simp only [shared?, nameList?, Option.orElse_eq_orElse, Option.orElse_eq_or,
    Option.or_eq_some_iff, Option.map_eq_some_iff, reduceCtorEq, and_false, exists_false,
    or_false] at h
  rcases h with h | ⟨-, h | ⟨-, h⟩⟩
  · simp [copyright?, Option.bind_eq_some_iff] at h
  · simp only [quotedImport?, Option.bind_eq_bind, Option.bind_eq_some_iff] at h
    obtain ⟨_, -, _, -, hend⟩ := h
    split at hend <;> cases hend
  · exact isName_of_replace? h

theorem isName_of_custom? {t old new : Text} (h : custom? t = some (.replace old new)) :
    IsName old ∧ IsName new := by
  simp only [custom?, Option.orElse_eq_orElse, Option.orElse_eq_or, Option.or_eq_some_iff] at h
  rcases h with h | ⟨-, h | ⟨-, h | ⟨-, h⟩⟩⟩
  · simp [quotedBuild?, Option.bind_eq_some_iff] at h
  · simp only [moduleTask?, Option.bind_eq_bind, Option.bind_eq_some_iff] at h
    obtain ⟨_, -, _, -, _, -, _, -, _, -, _, -, hend⟩ := h
    split at hend <;> cases hend
  · simp only [bareImport?, Option.bind_eq_bind, Option.bind_eq_some_iff] at h
    obtain ⟨_, -, hend⟩ := h
    split at hend
    · cases hend
    · split at hend <;> cases hend
  · exact isName_of_shared? h

end Directive.Request

theorem Grammar.isName_of_read {g : Grammar} {content old new : Text}
    (h : g.read content = .replace old new) : IsName old ∧ IsName new := by
  have hread {found : Option Request}
      (hfound : found.getD (.unrecognised content) = .replace old new) :
      found = some (.replace old new) := by
    cases found with
    | none => cases hfound
    | some r => exact congrArg some hfound
  cases g with
  | custom => exact Request.isName_of_custom? (hread h)
  | legacy =>
    have hlegacy : Request.legacy? content = some (.replace old new) := hread h
    simp only [Request.legacy?, Request.lineBuild?, Option.orElse_eq_orElse, Option.orElse_eq_or,
      Option.or_eq_some_iff, Option.map_eq_some_iff, reduceCtorEq, and_false, exists_false,
      false_or] at hlegacy
    exact Request.isName_of_shared? hlegacy.2
  | empty => cases h
  | formal =>
    have hformal := hread h
    simp [Option.bind_eq_some_iff] at hformal

/-! One name. -/

namespace Renaming

/-- The entries after the one for `x`; none if there is none for it. -/
def later (x : Text) : List (Text × Text) → List (Text × Text)
  | [] => []
  | entry :: entries => if entry.1 = x then entries else later x entries

theorem retype_cons (entry : Text × Text) (entries : List (Text × Text)) (x : Text) :
    retype (entry :: entries) x = retype entries (swap entry x) := rfl

/-- Names that are no old names stay. -/
theorem retype_of_notMem {entries : List (Text × Text)} {x : Text}
    (h : x ∉ entries.map (·.1)) : retype entries x = x := by
  induction entries with
  | nil => rfl
  | cons entry entries ih =>
    obtain ⟨hne, hrest⟩ := not_or.1 (mt List.mem_cons.2 h)
    rw [retype_cons, swap, if_neg hne, ih hrest]

/-- A name that goes through all entries comes out as its new name does after those that follow. -/
theorem retype_pairs (r : Renaming) (x : Text) :
    retype r.pairs x = retype (later x r.pairs) (r.rename x) := by
  obtain ⟨pairs, hnodup⟩ := r
  unfold rename
  induction pairs with
  | nil => rfl
  | cons entry entries ih =>
    obtain ⟨hfresh, hrest⟩ := List.nodup_cons.1 hnodup
    dsimp only
    rw [retype_cons, swap, later, lookup_cons_eq_ite]
    by_cases hx : x = entry.1
    · rw [if_pos hx, if_pos hx, if_pos hx.symm, Option.getD_some]
    · rw [if_neg hx, if_neg hx, if_neg (Ne.symm hx)]
      exact ih hrest

/-- A fragment that is one name is renamed as that name is. -/
theorem applyTypes_name {r : Renaming} (hr : ∀ entry ∈ r.pairs, IsName entry.1 ∧ IsName entry.2)
    {x : Text} (hx : IsName x) : r.applyTypes x = retype r.pairs x := by
  refine applyTypes_eq (fun σ => σ x) hr fun σ hσ entry hentry => ?_
  dsimp only
  unfold replaceType swap
  split
  · rfl
  · exact replaceFrom_word_end (hr entry hentry).1 entry.2 (hσ x hx) none

theorem putAll_ofList (entries more : List (Text × Text)) :
    (ofList entries).putAll more = ofList (entries ++ more) :=
  List.foldl_append.symm

end Renaming

/-! Recipes that were read. -/

namespace Recipe
open Renaming

/-- The recipe of directives, each the text after its marker, and then of module flags. -/
def ofTexts (contents : List (Grammar × Text)) (flags : List Text) : Recipe :=
  flags.foldl (fun r t => r.overlay (ModuleFlags.parse t))
    (ofRequests (contents.map fun content => content.1.read content.2))

theorem replace_ofTexts (contents : List (Grammar × Text)) (flags : List Text) :
    (ofTexts contents flags).replace =
      ofList ((contents.map fun content => content.1.read content.2).filterMap
          Request.replacement? ++
        flags.flatMap fun t => (ModuleFlags.parse t).replace) := by
  unfold ofTexts
  rw [← putAll_ofList, ← replace_ofRequests]
  generalize ofRequests _ = r
  induction flags generalizing r with
  | nil => rfl
  | cons t flags ih =>
    rw [List.foldl_cons, ih, List.flatMap_cons]
    exact List.foldl_append.symm

theorem isName_of_mem_ofTexts {contents : List (Grammar × Text)} {flags : List Text}
    {entry : Text × Text} (h : entry ∈ (ofTexts contents flags).replace.pairs) :
    IsName entry.1 ∧ IsName entry.2 := by
  rw [replace_ofTexts] at h
  rcases List.mem_append.1 (mem_pairs_ofList h) with h | h
  · obtain ⟨request, hrequest, hentry⟩ := List.mem_filterMap.1 h
    obtain ⟨content, -, hread⟩ := List.mem_map.1 hrequest
    cases request <;> cases hentry
    exact Grammar.isName_of_read hread
  · obtain ⟨t, -, hentry⟩ := List.mem_flatMap.1 h
    exact ModuleFlags.isName_of_mem_replace hentry

theorem bases_of_notMem_remove {r : Recipe} {x : Text} (h : x ∉ r.remove) :
    r.bases [x] = r.replace.rename x :: r.inherit := by
  simp [bases, h]

/-- A base and a type of one name get the same new name exactly if the entries after that of the
name leave its new name alone, as they do if the new name is none of their old names. -/
theorem base_eq_type_iff (contents : List (Grammar × Text)) (flags : List Text) {x : Text}
    (hx : IsName x) (hkept : x ∉ (ofTexts contents flags).remove) :
    let r := ofTexts contents flags
    let new := r.replace.rename x
    let after := later x r.replace.pairs
    (r.bases [x] = r.replace.applyTypes x :: r.inherit ↔ retype after new = new) ∧
      (new ∉ after.map (·.1) → r.bases [x] = r.replace.applyTypes x :: r.inherit) ∧
      r.bases [x] = new :: r.inherit ∧ r.replace.applyTypes x = retype after new := by
  intro r new after
  have hbase : r.bases [x] = new :: r.inherit := bases_of_notMem_remove hkept
  have htype : r.replace.applyTypes x = retype after new := by
    rw [applyTypes_name (fun entry => isName_of_mem_ofTexts) hx, retype_pairs]
  have hiff : r.bases [x] = r.replace.applyTypes x :: r.inherit ↔ retype after new = new := by
    rw [hbase, htype, List.cons.injEq, and_iff_left rfl, eq_comm]
  exact ⟨hiff, fun hnew => hiff.2 (retype_of_notMem hnew), hbase, htype⟩

/-- Here a flag has changed the new name of `A`, so that the entry for `B` no longer touches it. -/
theorem base_eq_type_overwritten :
    let r := ofTexts [(.custom, "replace A with B"), (.legacy, "replace B with C")]
      ["--remove D --replace A with C"]
    IsName "A".toList ∧ "A".toList ∉ r.remove ∧
      r.bases ["A"] = r.replace.applyTypes "A" :: r.inherit ∧ r.bases ["A"] = ["C"] := by
  intro r
  have hx : IsName "A".toList := by decide
  have hkept : "A".toList ∉ r.remove := by decide
  have hafter : "C".toList ∉ (later "A" r.replace.pairs).map (·.1) := by decide
  exact ⟨hx, hkept, (base_eq_type_iff _ _ hx hkept).2.1 hafter, by decide⟩

/-- Two names that are swapped: the base `A` becomes `B`, and the type `A` becomes `B` and then `A`
again. -/
theorem swapped_base_ne_type :
    let r := ofTexts [(.custom, "replace A with B"), (.custom, "replace B with A")] []
    "A".toList ∉ r.remove ∧ r.bases ["A"] = ["B"] ∧ r.replace.applyTypes "A" = "A".toList := by
  decide

end Recipe
end SolInterface
