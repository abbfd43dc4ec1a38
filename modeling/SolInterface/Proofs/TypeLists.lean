import SolInterface.Proofs.TypeRuns

/-!
Renaming in a list of types, such as unnamed parameters or return types. Every type of the list is
renamed but the last one: nothing ends it. Only a list of one type, which is the whole fragment, is
renamed in its last place.
-/
namespace SolInterface.Renaming
open Text

/-! The runs of a list. -/

/-- A first part before others, with what stands between neighbours. -/
theorem intersperse_cons {α : Type} (sep x last : α) (xs : List α) :
    (x :: (xs ++ [last])).intersperse sep = x :: sep :: (xs ++ [last]).intersperse sep := by
  cases xs <;> rfl

/-- The types of a list and what stands between them take turns. -/
theorem alternate_list {ts : List Text} (hts : ∀ t ∈ ts, IsName t) :
    Alternate true (ts.intersperse [',', ' ']) := by
  have hsep : IsRun false [',', ' '] := ⟨by simp, by decide⟩
  induction ts with
  | nil => trivial
  | cons t ts ih =>
    obtain ⟨ht, hrest⟩ := List.forall_mem_cons.1 hts
    cases ts with
    | nil => exact ⟨ht, trivial⟩
    | cons u ts => exact ⟨ht, hsep, ih hrest⟩

theorem runs_list {ts : List Text} (hts : ∀ t ∈ ts, IsName t) :
    runs (joinWith [',', ' '] ts) = ts.intersperse [',', ' '] :=
  (alternate_list hts).runs_flatten

/-- A change of words reaches all types of a list but the last one, and that one if it is alone. -/
theorem retypeRuns_list (g : Text → Text) {ts : List Text} {last : Text}
    (hts : ∀ t ∈ ts ++ [last], IsName t) {before : Option Char} (hopens : opensType before = true) :
    retypeRuns g before ((ts ++ [last]).intersperse [',', ' ']) =
      (ts.map g ++ [if before.isNone && ts.isEmpty then g last else last]).intersperse
        [',', ' '] := by
  induction ts generalizing before with
  | nil =>
    have hword : last.all isWord = true := IsRun.all_isWord (hts last (by simp))
    simp [retypeRuns, standsAsType, hword, closesType]
  | cons t ts ih =>
    have hword : t.all isWord = true := IsRun.all_isWord (hts t (by simp))
    have hstands : standsAsType before t
        ([',', ' '] :: (ts ++ [last]).intersperse [',', ' ']) = true := by
      simp [standsAsType, hword, hopens, closesType]
    have hsep : ∀ rest, standsAsType t.getLast? [',', ' '] rest = false := fun rest => rfl
    have hspace : opensType (some ' ') = true := rfl
    have hrest := ih (fun u hu => hts u (List.mem_cons_of_mem _ hu)) hspace
    simp only [Option.isNone_some, Bool.false_and, Bool.false_eq_true, if_false] at hrest
    rw [List.cons_append, intersperse_cons, retypeRuns, if_pos hstands, retypeRuns, hsep,
      if_neg Bool.false_ne_true]
    simp only [List.getLast?_cons_cons, List.getLast?_singleton, hrest]
    simp [intersperse_cons]

/-! The list as a whole. -/

/-- Two lists of names that are written alike are the same. -/
theorem list_inj {ts us : List Text} (ht : ts ≠ []) (hts : ∀ t ∈ ts, IsName t) (hu : us ≠ [])
    (hus : ∀ u ∈ us, IsName u) (h : joinWith [',', ' '] ts = joinWith [',', ' '] us) : ts = us := by
  have hnames : ∀ {w : Text}, IsName w → trim w = w ∧ ',' ∉ w := fun hw =>
    ⟨trim_of_isName hw, hw.notMem rfl⟩
  rw [← commaParts_joinWith ht fun t hmem => hnames (hts t hmem), h,
    commaParts_joinWith hu fun u hmem => hnames (hus u hmem)]

variable {r : Renaming}

theorem rename_eq_self_iff (hfresh : ∀ entry ∈ r.pairs, entry.2 ∉ r.pairs.map (·.1)) {x : Text} :
    r.rename x = x ↔ x ∉ r.pairs.map (·.1) := by
  constructor
  · intro h
    exact h ▸ rename_notMem hfresh x
  · intro h
    rw [← retype_eq_rename hfresh, retype_of_notMem h]

theorem isName_rename (hr : ∀ entry ∈ r.pairs, IsName entry.1 ∧ IsName entry.2)
    (hfresh : ∀ entry ∈ r.pairs, entry.2 ∉ r.pairs.map (·.1)) {x : Text} (hx : IsName x) :
    IsName (r.rename x) :=
  retype_eq_rename hfresh x ▸ isName_retype (fun entry he => (hr entry he).2) hx

/-- In a list of types every type but the last one gets its new name, and the last one if there is
no other. So the list gets all its new names exactly if it has one type, or the last type has no new
name. -/
theorem applyTypes_list (hr : ∀ entry ∈ r.pairs, IsName entry.1 ∧ IsName entry.2)
    (hfresh : ∀ entry ∈ r.pairs, entry.2 ∉ r.pairs.map (·.1)) (ts : List Text) (last : Text)
    (hts : ∀ t ∈ ts ++ [last], IsName t) :
    r.applyTypes (joinWith [',', ' '] (ts ++ [last])) =
        joinWith [',', ' '] (ts.map r.rename ++ [if ts = [] then r.rename last else last]) ∧
      (r.applyTypes (joinWith [',', ' '] (ts ++ [last])) =
          joinWith [',', ' '] ((ts ++ [last]).map r.rename) ↔
        ts = [] ∨ last ∉ r.pairs.map (·.1)) := by
  have hrename : retype r.pairs = r.rename := funext (retype_eq_rename hfresh)
  have heq : r.applyTypes (joinWith [',', ' '] (ts ++ [last])) =
      joinWith [',', ' '] (ts.map r.rename ++ [if ts = [] then r.rename last else last]) := by
    rw [← flatten_runs (r.applyTypes _), runs_applyTypes hr, runs_list hts,
      retypeRuns_list _ hts rfl, hrename]
    simp [joinWith, List.intercalate]
  refine ⟨heq, ?_⟩
  rw [heq, List.map_append, List.map_singleton, ← rename_eq_self_iff hfresh]
  have hlast : IsName last := hts last (by simp)
  have hlist : ∀ {x : Text}, IsName x → ∀ t ∈ ts.map r.rename ++ [x], IsName t := by
    intro x hx t ht
    rcases List.mem_append.1 ht with ht | ht
    · obtain ⟨u, hu, rfl⟩ := List.mem_map.1 ht
      exact isName_rename hr hfresh (hts u (List.mem_append_left _ hu))
    · rwa [List.mem_singleton.1 ht]
  constructor
  · intro h
    by_cases hnil : ts = []
    · exact .inl hnil
    · rw [if_neg hnil] at h
      have hsame := list_inj (by simp) (hlist hlast) (by simp)
        (hlist (isName_rename hr hfresh hlast)) h
      rw [List.append_cancel_left_eq, List.singleton_inj] at hsame
      exact .inr hsame.symm
  · rintro (rfl | h)
    · rfl
    · simp [h]

/-- A list whose last type stands in two places: it is renamed in the first one only, and where it
is the whole list. -/
theorem applyTypes_list_twice :
    let r := ofList [("Ownable".toList, "IOwnable".toList), ("Vault".toList, "IVault".toList)]
    r.applyTypes "Ownable, uint256, Vault, Ownable".toList =
        "IOwnable, uint256, IVault, Ownable".toList ∧
      r.applyTypes "Vault, Ownable, uint256".toList = "IVault, IOwnable, uint256".toList ∧
      r.applyTypes "Ownable".toList = "IOwnable".toList := by
  intro r
  have hr : ∀ entry ∈ r.pairs, IsName entry.1 ∧ IsName entry.2 := by decide
  have hfresh : ∀ entry ∈ r.pairs, entry.2 ∉ r.pairs.map (·.1) := by decide
  have hkept := (applyTypes_list hr hfresh ["Ownable".toList, "uint256".toList, "Vault".toList]
    "Ownable".toList (by decide)).1
  have hall := (applyTypes_list hr hfresh ["Vault".toList, "Ownable".toList] "uint256".toList
    (by decide)).2.2 (.inr (by decide))
  have halone := (applyTypes_list hr hfresh [] "Ownable".toList (by decide)).2.2 (.inl rfl)
  exact ⟨hkept, hall, halone⟩

/-- A type with a new name keeps its old one in the last place of a list. -/
theorem last_type_kept :
    let r := ofList [("Ownable".toList, "IOwnable".toList)]
    let ts := ["uint256".toList, "Ownable".toList]
    (∀ entry ∈ r.pairs, entry.2 ∉ r.pairs.map (·.1)) ∧
      joinWith [',', ' '] (ts.map r.rename) = "uint256, IOwnable".toList ∧
      r.applyTypes (joinWith [',', ' '] ts) = "uint256, Ownable".toList := by
  decide

end SolInterface.Renaming
