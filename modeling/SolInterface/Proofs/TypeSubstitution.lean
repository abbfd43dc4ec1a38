import SolInterface.Interface.Substitution
import SolInterface.Proofs.Text

/-!
Renaming types in a fragment, word by word. A word that may start and may end where it stands is
replaced if it is the old name; every other word, and all that stands between words, is kept.
-/
namespace SolInterface.Renaming
open Text

def swap (entry : Text × Text) (w : Text) : Text := if w = entry.1 then entry.2 else w

/-- A word under the entries of a renaming, one after the other. -/
def retype (entries : List (Text × Text)) (w : Text) : Text :=
  entries.foldl (fun w entry => swap entry w) w

/-! One entry. -/

/-- A character is kept where no occurrence of the old name stands as a type. -/
theorem replaceFrom_kept {old new t : Text} {before : Option Char} {c : Char}
    (h : ∀ rest, after? old (c :: t) = some rest → ¬ (opensType before && closesType rest) = true) :
    replaceFrom old new 0 before (c :: t) = c :: replaceFrom old new 0 (some c) t := by
  rw [replaceFrom.eq_def]
  cases hafter : after? old (c :: t) with
  | none => simp only [hafter]
  | some rest => simp only [hafter, h rest hafter, Bool.false_eq_true, if_false]

theorem replaceFrom_found {d c : Char} {more new t rest : Text} {before : Option Char}
    (hafter : after? (d :: more) (c :: t) = some rest)
    (h : (opensType before && closesType rest) = true) :
    replaceFrom (d :: more) new 0 before (c :: t) =
      new ++ replaceFrom (d :: more) new more.length (some c) t := by
  rw [replaceFrom.eq_def]
  simp only [hafter, h, if_true]

theorem after?_eq_none_of_sep {old : Text} (ho : IsName old) {c : Char} (hc : isWord c = false)
    (t : Text) : after? old (c :: t) = none := by
  obtain ⟨hne, hword⟩ := ho
  cases old with
  | nil => exact absurd rfl hne
  | cons d old =>
    rw [after?, if_neg (ne_of_isWord (hword d (by simp)) hc)]

/-- What stands between words is kept. -/
theorem replaceFrom_sep {old : Text} (ho : IsName old) (new : Text) (before : Option Char) {c : Char}
    (hc : isWord c = false) (t : Text) :
    replaceFrom old new 0 before (c :: t) = c :: replaceFrom old new 0 (some c) t := by
  refine replaceFrom_kept fun rest hrest => ?_
  rw [after?_eq_none_of_sep ho hc] at hrest
  cases hrest

theorem opensType_of_isWord {c : Char} (hc : isWord c = true) : opensType (some c) = false := by
  have hblank := isBlank_of_isWord hc
  have hparen : c ≠ '(' := ne_of_isWord hc (by decide)
  have hcomma : c ≠ ',' := ne_of_isWord hc (by decide)
  simp [opensType, hblank, hparen, hcomma]

/-- Nothing is replaced from the middle of a word on. -/
theorem replaceFrom_inner (old new : Text) {before : Option Char} (hb : opensType before = false)
    {w : Text} (hw : ∀ c ∈ w, isWord c = true) (t : Text) :
    ∃ b, replaceFrom old new 0 before (w ++ t) = w ++ replaceFrom old new 0 b t := by
  induction w generalizing before with
  | nil => exact ⟨before, rfl⟩
  | cons c w ih =>
    have hc := opensType_of_isWord (hw c (by simp))
    obtain ⟨b, hrest⟩ := ih hc fun d hd => hw d (List.mem_cons_of_mem _ hd)
    refine ⟨b, ?_⟩
    rw [List.cons_append, replaceFrom_kept (by simp [hb]), hrest]
    rfl

theorem replaceFrom_skip (old new : Text) (before : Option Char) (w t : Text) :
    ∃ b, replaceFrom old new w.length before (w ++ t) = replaceFrom old new 0 b t := by
  induction w generalizing before with
  | nil => exact ⟨before, rfl⟩
  | cons c w ih =>
    obtain ⟨b, hrest⟩ := ih (some c)
    refine ⟨b, ?_⟩
    rw [List.length_cons, List.cons_append, replaceFrom, hrest]

theorem isWord_of_closesType {c : Char} {t : Text} (h : closesType (c :: t) = true) :
    isWord c = false := by
  by_contra hw
  rw [Bool.not_eq_false] at hw
  have hblank := isBlank_of_isWord hw
  simp only [closesType, hblank, Bool.false_or, Bool.or_eq_true, beq_iff_eq] at h
  rcases h with (rfl | rfl) | rfl <;> exact absurd hw (by decide)

/-- A word whose end is a type's end is the old name as a whole, or does not start with it there. -/
theorem eq_of_closesType {old w t rest : Text} (ho : IsName old) (hw : IsName w)
    (ht : Stops isWord t) (h : w ++ t = old ++ rest) (hrest : closesType rest = true) :
    w = old ∧ t = rest := by
  have hstop : Stops isWord rest := by
    cases rest with
    | nil => exact stops_nil _
    | cons c rest => exact stops_cons.2 (isWord_of_closesType hrest)
  have hword : w = old := by
    rw [← takeWhile_run hw.2 ht, h, takeWhile_run ho.2 hstop]
  subst hword
  exact ⟨rfl, List.append_cancel_left h⟩

/-- A word is replaced if it is the old name, may start here and may end where it does. -/
theorem replaceFrom_word {old w : Text} (ho : IsName old) (new : Text) (hw : IsName w)
    (before : Option Char) {t : Text} (ht : Stops isWord t) :
    ∃ b, replaceFrom old new 0 before (w ++ t) =
      (if opensType before && closesType t then swap (old, new) w else w) ++
        replaceFrom old new 0 b t := by
  obtain ⟨c, more, rfl⟩ := List.exists_cons_of_ne_nil hw.1
  have hc := opensType_of_isWord (hw.2 c (by simp))
  obtain ⟨b, hinner⟩ := replaceFrom_inner old new hc
    (fun d hd => hw.2 d (List.mem_cons_of_mem _ hd)) t
  by_cases hreplaced : opensType before = true ∧ closesType t = true ∧ c :: more = old
  · obtain ⟨hopens, hcloses, rfl⟩ := hreplaced
    obtain ⟨b, hskip⟩ := replaceFrom_skip (c :: more) new (some c) more t
    refine ⟨b, ?_⟩
    have hfound : replaceFrom (c :: more) new 0 before (c :: (more ++ t)) =
        new ++ replaceFrom (c :: more) new more.length (some c) (more ++ t) :=
      replaceFrom_found (after?_append (c :: more) t) (by simp [hopens, hcloses])
    rw [List.cons_append, hfound, hskip]
    simp [hopens, hcloses, swap]
  · refine ⟨b, ?_⟩
    have hkept : (if opensType before && closesType t then swap (old, new) (c :: more)
        else c :: more) = c :: more := by
      unfold swap
      split
      · next h =>
        rw [Bool.and_eq_true] at h
        exact if_neg fun heq => hreplaced ⟨h.1, h.2, heq⟩
      · rfl
    rw [hkept, List.cons_append, List.cons_append, ← hinner]
    refine replaceFrom_kept fun rest hrest h => ?_
    rw [Bool.and_eq_true] at h
    obtain ⟨hword, rfl⟩ := eq_of_closesType ho hw ht (after?_eq_some.1 hrest) h.2
    exact hreplaced ⟨h.1, h.2, hword⟩

theorem replaceFrom_word_sep {old w : Text} (ho : IsName old) (new : Text) (hw : IsName w)
    (before : Option Char) {c : Char} (hc : isWord c = false) (t : Text) :
    replaceFrom old new 0 before (w ++ c :: t) =
      (if opensType before && closesType (c :: t) then swap (old, new) w else w) ++
        c :: replaceFrom old new 0 (some c) t := by
  obtain ⟨b, h⟩ := replaceFrom_word ho new hw before (stops_cons.2 hc : Stops isWord (c :: t))
  rw [h, replaceFrom_sep ho new b hc]

/-- The last word of a fragment has nothing to end it. -/
theorem replaceFrom_word_end {old w : Text} (ho : IsName old) (new : Text) (hw : IsName w)
    (before : Option Char) : replaceFrom old new 0 before w = w := by
  obtain ⟨b, h⟩ := replaceFrom_word ho new hw before (stops_nil isWord)
  have hend : replaceFrom old new 0 b [] = [] := by rw [replaceFrom]
  rw [List.append_nil, hend] at h
  simpa [closesType] using h

/-! Whole renamings. -/

theorem isName_swap {entry : Text × Text} (he : IsName entry.2) {w : Text} (hw : IsName w) :
    IsName (swap entry w) := by
  unfold swap
  split
  · exact he
  · exact hw

theorem applyTypes_eq_foldl {r : Renaming} (h : ∀ entry ∈ r.pairs, entry.1 ≠ []) (t : Text) :
    r.applyTypes t = r.pairs.foldl replaceType t := by
  unfold applyTypes
  split
  · next hempty =>
    rw [List.isEmpty_iff.1 hempty]
    refine (List.foldlRecOn r.pairs replaceType (motive := fun t => t = []) rfl ?_).symm
    rintro t rfl entry hentry
    rw [replaceType, if_neg (h entry hentry).symm, replaceFrom]
  · rfl

/-- A fragment given by its words is renamed as its words are, if that is so for each entry. -/
theorem applyTypes_eq {r : Renaming} (fragment : (Text → Text) → Text)
    (hnames : ∀ entry ∈ r.pairs, IsName entry.1 ∧ IsName entry.2)
    (hstep : ∀ σ, (∀ w, IsName w → IsName (σ w)) → ∀ entry ∈ r.pairs,
      replaceType (fragment σ) entry = fragment fun w => swap entry (σ w)) :
    r.applyTypes (fragment id) = fragment (retype r.pairs) := by
  rw [applyTypes_eq_foldl fun entry he => (hnames entry he).1.1]
  have hrun : ∀ entries, (∀ entry ∈ entries, entry ∈ r.pairs) → ∀ σ, (∀ w, IsName w → IsName (σ w)) →
      entries.foldl replaceType (fragment σ) = fragment fun w => retype entries (σ w) := by
    intro entries
    induction entries with
    | nil => exact fun _ _ _ => rfl
    | cons entry entries ih =>
      intro hmem σ hσ
      have hentry := hmem entry (by simp)
      rw [List.foldl_cons, hstep σ hσ entry hentry,
        ih (fun e he => hmem e (List.mem_cons_of_mem _ he)) _
          fun w hw => isName_swap (hnames entry hentry).2 (hσ w hw)]
      rfl
  exact hrun r.pairs (fun _ h => h) id fun _ h => h

theorem isName_retype {entries : List (Text × Text)} (h : ∀ entry ∈ entries, IsName entry.2)
    {w : Text} (hw : IsName w) : IsName (retype entries w) :=
  List.foldlRecOn entries _ hw fun _ hw entry he => isName_swap (h entry he) hw

/-! Renamings made from a list. -/

theorem mem_enter {old new : Text} {ps : List (Text × Text)} {p : Text × Text}
    (h : p ∈ enter old new ps) : p = (old, new) ∨ p ∈ ps := by
  induction ps with
  | nil => simpa [enter] using h
  | cons q ps ih =>
    rw [enter] at h
    split at h
    · rcases List.mem_cons.1 h with h | h
      · exact .inl h
      · exact .inr (List.mem_cons_of_mem _ h)
    · rcases List.mem_cons.1 h with rfl | h
      · exact .inr (by simp)
      · exact (ih h).imp_right (List.mem_cons_of_mem _)

theorem mem_pairs_ofList {entries : List (Text × Text)} {p : Text × Text}
    (h : p ∈ (ofList entries).pairs) : p ∈ entries := by
  have hrun : ∀ r : Renaming, p ∈ (r.putAll entries).pairs → p ∈ r.pairs ∨ p ∈ entries := by
    clear h
    induction entries with
    | nil => exact fun r h => .inl h
    | cons entry entries ih =>
      intro r h
      rcases ih (r.put entry.1 entry.2) h with h | h
      · rcases mem_enter h with rfl | h
        · exact .inr (by simp)
        · exact .inl h
      · exact .inr (List.mem_cons_of_mem _ h)
  exact (hrun empty h).resolve_left List.not_mem_nil

theorem lookup_cons_eq_ite (p : Text × Text) (ps : List (Text × Text)) (x : Text) :
    (p :: ps).lookup x = if x = p.1 then some p.2 else ps.lookup x := by
  obtain ⟨old, new⟩ := p
  rw [List.lookup_cons]
  by_cases hx : x = old
  · simp [hx]
  · simp [beq_eq_false_iff_ne.2 hx, hx]

theorem lookup_eq_some_iff_mem {pairs : List (Text × Text)} (hnodup : (pairs.map (·.1)).Nodup)
    {x y : Text} : pairs.lookup x = some y ↔ (x, y) ∈ pairs := by
  induction pairs with
  | nil => simp
  | cons p ps ih =>
    obtain ⟨hfresh, hrest⟩ := List.nodup_cons.1 hnodup
    obtain ⟨old, new⟩ := p
    rw [lookup_cons_eq_ite]
    by_cases hx : x = old
    · subst hx
      have hnot : (x, y) ∉ ps := fun hmem => hfresh (List.mem_map_of_mem (f := (·.1)) hmem)
      simp [hnot, eq_comm]
    · simp [hx, ih hrest]

theorem lookup_enter (old new x : Text) (ps : List (Text × Text)) :
    (enter old new ps).lookup x = if x = old then some new else ps.lookup x := by
  induction ps with
  | nil => exact lookup_cons_eq_ite (old, new) [] x
  | cons p ps ih =>
    rw [enter]
    split
    · next hp =>
      subst hp
      rw [lookup_cons_eq_ite, lookup_cons_eq_ite]
      split <;> rfl
    · next hp =>
      rw [lookup_cons_eq_ite, lookup_cons_eq_ite, ih]
      by_cases hxp : x = p.1
      · rw [if_pos hxp, if_neg fun hx => hp (hxp.symm.trans hx), if_pos hxp]
      · rw [if_neg hxp, if_neg hxp]

/-- The last entry for a name counts, and before all entries what was there. -/
theorem lookup_putAll (r : Renaming) (entries : List (Text × Text)) (x : Text) :
    (r.putAll entries).pairs.lookup x = (entries.reverse.lookup x).or (r.pairs.lookup x) := by
  induction entries generalizing r with
  | nil => rfl
  | cons entry entries ih =>
    have hput : (r.put entry.1 entry.2).pairs = enter entry.1 entry.2 r.pairs := rfl
    have hfold : r.putAll (entry :: entries) = (r.put entry.1 entry.2).putAll entries := rfl
    rw [hfold, ih, hput, lookup_enter, List.reverse_cons, List.lookup_append, Option.or_assoc]
    congr 1
    rw [lookup_cons_eq_ite]
    split <;> rfl

theorem rename_ofList (entries : List (Text × Text)) (x : Text) :
    (ofList entries).rename x = (entries.reverse.lookup x).getD x := by
  have hempty : empty.pairs.lookup x = none := rfl
  rw [rename, ofList, lookup_putAll, hempty, Option.or_none]

end SolInterface.Renaming
