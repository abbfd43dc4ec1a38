import Mathlib.Data.List.SplitBy
import SolInterface.Proofs.NewNames

/-!
What renaming types does to a fragment as a whole. The fragment is cut into maximal runs of word
characters and of other characters. A run of word characters that is all of the fragment, or that
stands where a type may start and may end, goes through the entries of the renaming one after the
other; every other run is kept. The entries are applied to the whole fragment in turn, and it does
not matter: no entry moves the place where a type may start or end.
-/
namespace SolInterface
open Text

/-! Maximal runs. -/

namespace Text

/-- The maximal runs of word characters and of other characters, in their order. -/
def runs (t : Text) : List Text := t.splitBy fun c d => isWord c == isWord d

def IsRun (word : Bool) (w : Text) : Prop := w ≠ [] ∧ ∀ c ∈ w, isWord c = word

/-- The texts are runs of word characters and of other characters in turn; the first is of word
characters or not, as said. -/
def Alternate : Bool → List Text → Prop
  | _, [] => True
  | word, w :: rest => IsRun word w ∧ Alternate (!word) rest

@[simp] theorem flatten_runs (t : Text) : (runs t).flatten = t := List.flatten_splitBy _ t

theorem IsRun.all_isWord {word : Bool} {w : Text} (h : IsRun word w) : w.all isWord = word := by
  obtain ⟨hne, hw⟩ := h
  cases word with
  | true => exact List.all_eq_true.2 hw
  | false =>
    obtain ⟨c, w, rfl⟩ := List.exists_cons_of_ne_nil hne
    simp [hw c List.mem_cons_self]

theorem isRun_of_isChain {c : Char} {w : Text}
    (h : (c :: w).IsChain fun a b => (isWord a == isWord b) = true) : IsRun (isWord c) (c :: w) := by
  refine ⟨List.cons_ne_nil c w, List.forall_mem_cons.2 ⟨rfl, ?_⟩⟩
  induction w generalizing c with
  | nil => simp
  | cons d w ih =>
    obtain ⟨hcd, hrest⟩ := List.isChain_cons_cons.1 h
    rw [beq_iff_eq.1 hcd]
    exact List.forall_mem_cons.2 ⟨rfl, ih hrest⟩

theorem IsRun.isChain {word : Bool} {w : Text} (h : IsRun word w) :
    w.IsChain fun a b => (isWord a == isWord b) = true := by
  refine List.Pairwise.isChain (List.pairwise_of_forall_mem_list fun a ha b hb => ?_)
  rw [h.2 a ha, h.2 b hb, beq_self_eq_true]

theorem exists_alternate_runs (t : Text) : ∃ word, Alternate word (runs t) := by
  have hruns : ∀ rs : List Text, [] ∉ rs →
      (∀ w ∈ rs, w.IsChain fun a b => (isWord a == isWord b) = true) →
      (rs.IsChain fun w v => ∃ hw hv, (isWord (w.getLast hw) == isWord (v.head hv)) = false) →
      ∃ word, Alternate word rs ∧ ∀ w ∈ rs.head?, IsRun word w := by
    intro rs
    induction rs with
    | nil => exact fun _ _ _ => ⟨true, trivial, by simp⟩
    | cons w rs ih =>
      intro hnil hchain hturns
      obtain ⟨hw, hrest⟩ := not_or.1 (mt List.mem_cons.2 hnil)
      obtain ⟨c, w, rfl⟩ := List.exists_cons_of_ne_nil (Ne.symm hw)
      have hrun := isRun_of_isChain (hchain _ List.mem_cons_self)
      obtain ⟨word, halternate, hhead⟩ :=
        ih hrest (fun v hv => hchain v (List.mem_cons_of_mem _ hv)) hturns.tail
      refine ⟨isWord c, ⟨hrun, ?_⟩, by simpa using hrun⟩
      cases rs with
      | nil => exact trivial
      | cons v rs =>
        -- The last character of the first run and the first one of the next are of two sorts.
        obtain ⟨hw, hv, hturn⟩ := (List.isChain_cons_cons.1 hturns).1
        rw [hrun.2 _ (List.getLast_mem hw), (hhead v rfl).2 _ (List.head_mem hv)] at hturn
        have hword : word = !isWord c := by
          revert hturn
          cases word <;> cases isWord c <;> simp
        exact hword ▸ halternate
  obtain ⟨word, halternate, -⟩ := hruns (runs t) (List.nil_notMem_splitBy _ t)
    (fun _ => List.isChain_of_mem_splitBy)
    (List.isChain_getLast_head_splitBy (fun c d => isWord c == isWord d) t)
  exact ⟨word, halternate⟩

theorem Alternate.exists_isRun {word : Bool} {rs : List Text} (h : Alternate word rs) {w : Text}
    (hw : w ∈ rs) : ∃ word', IsRun word' w := by
  induction rs generalizing word with
  | nil => exact absurd hw List.not_mem_nil
  | cons v rs ih =>
    rcases List.mem_cons.1 hw with rfl | hw
    · exact ⟨word, h.1⟩
    · exact ih h.2 hw

/-- Runs that take turns are the runs of the text they make up. -/
theorem Alternate.runs_flatten {word : Bool} {rs : List Text} (h : Alternate word rs) :
    runs rs.flatten = rs := by
  refine List.splitBy_flatten (fun hnil => ?_) (fun w hw => ?_) ?_
  · obtain ⟨_, hrun⟩ := h.exists_isRun hnil
    exact hrun.1 rfl
  · obtain ⟨_, hrun⟩ := h.exists_isRun hw
    exact hrun.isChain
  · induction rs generalizing word with
    | nil => exact List.isChain_nil
    | cons w rs ih =>
      cases rs with
      | nil => exact List.isChain_singleton w
      | cons v rs =>
        refine List.isChain_cons_cons.2 ⟨⟨h.1.1, h.2.1.1, ?_⟩, ih h.2⟩
        rw [h.1.2 _ (List.getLast_mem h.1.1), h.2.1.2 _ (List.head_mem h.2.1.1)]
        cases word <;> rfl

theorem IsName.runs_eq {w : Text} (h : IsName w) : runs w = [w] := by
  have hrun : Alternate true [w] := ⟨h, trivial⟩
  simpa using hrun.runs_flatten

end Text

/-! The runs of a fragment under a change of words. -/

namespace Renaming

/-- The run is a word, and it is the whole fragment, or a type may start after what is before it and
end before what follows it. -/
def standsAsType (before : Option Char) (run : Text) (rest : List Text) : Bool :=
  run.all isWord &&
    (before.isNone && rest.isEmpty || opensType before && closesType rest.flatten)

/-- The runs with the words that stand as types changed; the character before the first is given. -/
def retypeRuns (g : Text → Text) : Option Char → List Text → List Text
  | _, [] => []
  | before, run :: rest =>
    (if standsAsType before run rest then g run else run) :: retypeRuns g run.getLast? rest

variable {f g : Text → Text} {word : Bool} {before before' : Option Char} {rs : List Text}

theorem retypeRuns_id (before : Option Char) (rs : List Text) : retypeRuns id before rs = rs := by
  induction rs generalizing before with
  | nil => rfl
  | cons run rest ih => simp [retypeRuns, ih]

/-- Only whether something stands before, and whether a type may start after it, matters. -/
theorem retypeRuns_before (hnone : before.isNone = before'.isNone)
    (hopens : opensType before = opensType before') :
    retypeRuns g before rs = retypeRuns g before' rs := by
  cases rs with
  | nil => rfl
  | cons run rest =>
    have hstands : standsAsType before run rest = standsAsType before' run rest := by
      rw [standsAsType, standsAsType, hnone, hopens]
    rw [retypeRuns, retypeRuns, hstands]

theorem opensType_getLast? {w : Text} (h : IsName w) : opensType w.getLast? = false := by
  rw [List.getLast?_eq_some_getLast h.1]
  exact opensType_of_isWord (h.2 _ (List.getLast_mem h.1))

theorem closesType_of_isName {w : Text} (h : IsName w) (t : Text) : closesType (w ++ t) = false := by
  obtain ⟨c, w, rfl⟩ := List.exists_cons_of_ne_nil h.1
  by_contra hcloses
  have hc := isWord_of_closesType ((Bool.not_eq_false _).mp hcloses)
  rw [h.2 c List.mem_cons_self] at hc
  cases hc

/-- A run stays of its sort. -/
theorem isRun_retyped (hg : ∀ w, IsName w → IsName (g w)) {run : Text} (h : IsRun word run)
    (before : Option Char) (rest : List Text) :
    IsRun word (if standsAsType before run rest then g run else run) := by
  split
  · next hstands =>
    rw [standsAsType, h.all_isWord, Bool.and_eq_true] at hstands
    obtain rfl := hstands.1
    exact hg run h
  · exact h

theorem alternate_retypeRuns (hg : ∀ w, IsName w → IsName (g w)) (h : Alternate word rs)
    (before : Option Char) : Alternate word (retypeRuns g before rs) := by
  induction rs generalizing word before with
  | nil => trivial
  | cons run rest ih => exact ⟨isRun_retyped hg h.1 before rest, ih h.2 _⟩

/-- The character that ends a type, if one does, is none of a word and so is kept. -/
theorem closesType_retypeRuns (hg : ∀ w, IsName w → IsName (g w)) (h : Alternate word rs)
    (before : Option Char) :
    closesType (retypeRuns g before rs).flatten = closesType rs.flatten := by
  cases rs with
  | nil => rfl
  | cons run rest =>
    rw [retypeRuns, List.flatten_cons, List.flatten_cons]
    cases word with
    | true => rw [closesType_of_isName (isRun_retyped hg h.1 before rest), closesType_of_isName h.1]
    | false =>
      obtain ⟨c, run, rfl⟩ := List.exists_cons_of_ne_nil h.1.1
      rw [standsAsType, h.1.all_isWord]
      rfl

/-- Words stand as types after a change of words where they did before it. -/
theorem standsAsType_retypeRuns (hf : ∀ w, IsName w → IsName (f w)) {run : Text} {rest : List Text}
    (h : Alternate word (run :: rest)) (before before' : Option Char) :
    standsAsType before (if standsAsType before run rest then f run else run)
        (retypeRuns f before' rest) = standsAsType before run rest := by
  have hempty : (retypeRuns f before' rest).isEmpty = rest.isEmpty := by cases rest <;> rfl
  have hrun := isRun_retyped hf h.1 before rest
  generalize (if standsAsType before run rest then f run else run) = new at hrun ⊢
  rw [standsAsType, standsAsType, hrun.all_isWord, h.1.all_isWord, hempty,
    closesType_retypeRuns hf h.2]

/-- Two changes of words, one after the other, are one. -/
theorem retypeRuns_comp (hf : ∀ w, IsName w → IsName (f w)) (h : Alternate word rs)
    (before : Option Char) :
    retypeRuns g before (retypeRuns f before rs) = retypeRuns (fun w => g (f w)) before rs := by
  induction rs generalizing word before with
  | nil => rfl
  | cons run rest ih =>
    have hrun := isRun_retyped hf h.1 before rest
    have hnext : retypeRuns g (if standsAsType before run rest then f run else run).getLast?
        (retypeRuns f run.getLast? rest) = retypeRuns (fun w => g (f w)) run.getLast? rest := by
      rw [← ih h.2]
      cases word with
      | true =>
        refine retypeRuns_before ?_ ?_
        · rw [List.getLast?_eq_some_getLast hrun.1, List.getLast?_eq_some_getLast h.1.1]
          rfl
        · rw [opensType_getLast? hrun, opensType_getLast? h.1]
      | false => rw [standsAsType, h.1.all_isWord, Bool.false_and, if_neg Bool.false_ne_true]
    rw [retypeRuns, retypeRuns, retypeRuns, standsAsType_retypeRuns hf h, hnext]
    split <;> rfl

/-! One entry. -/

theorem replaceFrom_gap {old : Text} (ho : IsName old) (new : Text) (before : Option Char)
    {gap : Text} (hgap : IsRun false gap) (t : Text) :
    replaceFrom old new 0 before (gap ++ t) = gap ++ replaceFrom old new 0 gap.getLast? t := by
  obtain ⟨hne, hword⟩ := hgap
  induction gap generalizing before with
  | nil => exact absurd rfl hne
  | cons c gap ih =>
    rw [List.cons_append, replaceFrom_sep ho new before (hword c List.mem_cons_self)]
    cases gap with
    | nil => rfl
    | cons d gap =>
      rw [ih (some c) (List.cons_ne_nil d gap) fun e he => hword e (List.mem_cons_of_mem _ he),
        List.getLast?_cons_cons]
      rfl

/-- What stands before characters that are none of a word does not matter. -/
theorem replaceFrom_before {old : Text} (ho : IsName old) (new : Text) (h : Alternate false rs)
    (before before' : Option Char) :
    replaceFrom old new 0 before rs.flatten = replaceFrom old new 0 before' rs.flatten := by
  cases rs with
  | nil => simp [replaceFrom]
  | cons gap rest =>
    rw [List.flatten_cons, replaceFrom_gap ho new before h.1, replaceFrom_gap ho new before' h.1]

/-- One entry changes the words that stand as types, run by run. -/
theorem replaceFrom_flatten {old : Text} (ho : IsName old) (new : Text) (h : Alternate word rs)
    (before : Option Char) (hwhole : before = none → rs ≠ [old]) :
    replaceFrom old new 0 before rs.flatten =
      (retypeRuns (swap (old, new)) before rs).flatten := by
  induction rs generalizing word before with
  | nil => simp [replaceFrom, retypeRuns]
  | cons run rest ih =>
    have hlast : run.getLast? = none → rest ≠ [old] := fun hnone =>
      absurd (List.getLast?_eq_none_iff.1 hnone) h.1.1
    have hrest := ih h.2 run.getLast? hlast
    rw [retypeRuns, List.flatten_cons, List.flatten_cons, ← hrest, standsAsType, h.1.all_isWord]
    cases word with
    | false => exact replaceFrom_gap ho new before h.1 _
    | true =>
      have hstops : Stops isWord rest.flatten := by
        cases rest with
        | nil => exact stops_nil _
        | cons gap rest =>
          obtain ⟨c, gap, rfl⟩ := List.exists_cons_of_ne_nil h.2.1.1
          exact stops_cons.2 (h.2.1.2 c List.mem_cons_self)
      obtain ⟨b, hword⟩ := replaceFrom_word ho new h.1 before hstops
      rw [hword, replaceFrom_before ho new h.2 b run.getLast?]
      congr 1
      cases rest with
      | cons gap rest => simp
      | nil =>
        cases before with
        | some c => simp [closesType]
        | none =>
          have hne : run ≠ old := fun heq => hwhole rfl (by rw [heq])
          simp [closesType, swap, hne]

theorem replaceType_flatten {entry : Text × Text} (he : IsName entry.1) (h : Alternate word rs) :
    replaceType rs.flatten entry = (retypeRuns (swap entry) none rs).flatten := by
  unfold replaceType
  split
  · next hold =>
    have hrs : rs = [entry.1] := by rw [← h.runs_flatten, hold, he.runs_eq]
    have hall : entry.1.all isWord = true := IsRun.all_isWord he
    simp [hrs, retypeRuns, standsAsType, hall, swap]
  · next hold =>
    refine replaceFrom_flatten he entry.2 h none fun _ hrs => hold ?_
    rw [hrs, List.flatten_singleton]

/-! A whole renaming. -/

variable {r : Renaming}

/-- The runs of the result are those of the fragment, with the words that stand as types renamed. -/
theorem runs_applyTypes (hr : ∀ entry ∈ r.pairs, IsName entry.1 ∧ IsName entry.2) (t : Text) :
    runs (r.applyTypes t) = retypeRuns (retype r.pairs) none (runs t) := by
  obtain ⟨word, hruns⟩ := exists_alternate_runs t
  have hretype : ∀ w, IsName w → IsName (retype r.pairs w) := fun w =>
    isName_retype fun entry he => (hr entry he).2
  have hwhole := applyTypes_eq (fun σ => (retypeRuns σ none (runs t)).flatten) hr ?_
  · rw [retypeRuns_id, flatten_runs] at hwhole
    rw [hwhole, (alternate_retypeRuns hretype hruns none).runs_flatten]
  · intro σ hσ entry hentry
    rw [replaceType_flatten (hr entry hentry).1 (alternate_retypeRuns hσ hruns none),
      retypeRuns_comp hσ hruns]

/-- Each run is kept, or is a word that becomes a word. -/
theorem forall₂_retypeRuns (hg : ∀ w, IsName w → IsName (g w)) (h : Alternate word rs)
    (before : Option Char) :
    List.Forall₂ (fun run run' => run' = run ∨ IsName run ∧ IsName run') rs
      (retypeRuns g before rs) := by
  induction rs generalizing word before with
  | nil => exact .nil
  | cons run rest ih =>
    refine .cons ?_ (ih h.2 _)
    have hrun := isRun_retyped hg h.1 before rest
    cases word with
    | true => exact Or.inr ⟨h.1, hrun⟩
    | false => simp [standsAsType, h.1.all_isWord]

theorem filter_of_isName {w : Text} (h : IsName w) : w.filter (fun c => !isWord c) = [] :=
  List.filter_eq_nil_iff.2 fun c hc => by simp [h.2 c hc]

/-- What is kept of a fragment: the characters that are none of a word, and the number of words. -/
theorem kept_of_forall₂ {rs rs' : List Text}
    (h : List.Forall₂ (fun run run' => run' = run ∨ IsName run ∧ IsName run') rs rs') :
    rs'.flatten.filter (fun c => !isWord c) = rs.flatten.filter (fun c => !isWord c) ∧
      rs'.countP (·.all isWord) = rs.countP (·.all isWord) := by
  induction h with
  | nil => exact ⟨rfl, rfl⟩
  | cons hrun _ ih =>
    rcases hrun with rfl | ⟨hold, hnew⟩
    · simp [List.countP_cons, ih]
    · rw [List.flatten_cons, List.flatten_cons, List.filter_append, List.filter_append,
        filter_of_isName hold, filter_of_isName hnew, ih.1]
      simp [IsRun.all_isWord hold, IsRun.all_isWord hnew, ih.2]

/-! Renamings whose new names are no old names. -/

theorem rename_perm {r' : Renaming} (h : r'.pairs.Perm r.pairs) (x : Text) :
    r'.rename x = r.rename x := by
  have hlookup : r'.pairs.lookup x = r.pairs.lookup x := by
    refine Option.ext fun y => ?_
    rw [lookup_eq_some_iff_mem r'.nodup, lookup_eq_some_iff_mem r.nodup, h.mem_iff]
  rw [rename, rename, hlookup]

/-- The new name of a name that has one, and else the name itself, is no old name. -/
theorem rename_notMem (hfresh : ∀ entry ∈ r.pairs, entry.2 ∉ r.pairs.map (·.1)) (x : Text) :
    r.rename x ∉ r.pairs.map (·.1) := by
  unfold rename
  cases hx : r.pairs.lookup x with
  | some y => exact hfresh (x, y) ((lookup_eq_some_iff_mem r.nodup).1 hx)
  | none =>
    intro hmem
    obtain ⟨entry, hentry, rfl⟩ := List.mem_map.1 hmem
    have hsome := (lookup_eq_some_iff_mem r.nodup (x := entry.1) (y := entry.2)).2 hentry
    exact Option.some_ne_none _ (hsome.symm.trans hx)

theorem later_subset (x : Text) (pairs : List (Text × Text)) : later x pairs ⊆ pairs := by
  induction pairs with
  | nil => exact List.Subset.refl _
  | cons entry entries ih =>
    unfold later
    split
    · exact List.subset_cons_self _ _
    · exact List.subset_cons_of_subset _ ih

/-- Then a name that goes through all entries is changed once at most. -/
theorem retype_eq_rename (hfresh : ∀ entry ∈ r.pairs, entry.2 ∉ r.pairs.map (·.1)) (x : Text) :
    retype r.pairs x = r.rename x := by
  rw [retype_pairs, retype_of_notMem fun hmem => rename_notMem hfresh x ?_]
  exact List.map_subset _ (later_subset x r.pairs) hmem

/-- Renaming the types of a fragment renames its words that stand as types, each by all entries in
turn, and keeps all else: the other words, what stands between words, and the number of words. If no
new name is an old name, a second renaming changes nothing, and the order of the entries does not
matter. -/
theorem applyTypes_runs (hr : ∀ entry ∈ r.pairs, IsName entry.1 ∧ IsName entry.2) (t : Text) :
    r.applyTypes t = (retypeRuns (retype r.pairs) none (runs t)).flatten ∧
      (r.applyTypes t).filter (fun c => !isWord c) = t.filter (fun c => !isWord c) ∧
      (runs (r.applyTypes t)).countP (·.all isWord) = (runs t).countP (·.all isWord) ∧
      ((∀ entry ∈ r.pairs, entry.2 ∉ r.pairs.map (·.1)) →
        r.applyTypes (r.applyTypes t) = r.applyTypes t ∧
          ∀ r' : Renaming, r'.pairs.Perm r.pairs → r'.applyTypes t = r.applyTypes t) := by
  have heq : ∀ {r : Renaming}, (∀ entry ∈ r.pairs, IsName entry.1 ∧ IsName entry.2) → ∀ t,
      r.applyTypes t = (retypeRuns (retype r.pairs) none (runs t)).flatten := by
    intro r hr t
    rw [← runs_applyTypes hr, flatten_runs]
  obtain ⟨word, hruns⟩ := exists_alternate_runs t
  have hretype : ∀ w, IsName w → IsName (retype r.pairs w) := fun w =>
    isName_retype fun entry he => (hr entry he).2
  have hkept := kept_of_forall₂ (forall₂_retypeRuns hretype hruns none)
  rw [← runs_applyTypes hr, flatten_runs, flatten_runs] at hkept
  refine ⟨heq hr t, hkept.1, hkept.2, fun hfresh => ⟨?_, fun r' hperm => ?_⟩⟩
  · have htwice : (fun w => retype r.pairs (retype r.pairs w)) = retype r.pairs := by
      funext w
      rw [retype_eq_rename hfresh w, retype_of_notMem (rename_notMem hfresh w)]
    rw [heq hr (r.applyTypes t), runs_applyTypes hr, retypeRuns_comp hretype hruns, htwice,
      ← heq hr t]
  · have hr' : ∀ entry ∈ r'.pairs, IsName entry.1 ∧ IsName entry.2 := fun entry he =>
      hr entry (hperm.mem_iff.1 he)
    have hfresh' : ∀ entry ∈ r'.pairs, entry.2 ∉ r'.pairs.map (·.1) := fun entry he hmem =>
      hfresh entry (hperm.mem_iff.1 he) ((hperm.map _).mem_iff.1 hmem)
    have hsame : retype r'.pairs = retype r.pairs := by
      funext w
      rw [retype_eq_rename hfresh' w, retype_eq_rename hfresh w, rename_perm hperm]
    rw [heq hr' t, heq hr t, hsame]

/-- A parameter list in which a type is renamed as an array and before a comma, but not as part of a
longer name, not before a dot and not at the end. -/
theorem applyTypes_runs_parameters :
    let r := ofList [("Vault".toList, "IVault".toList), ("Fee".toList, "uint256".toList)]
    let t := "Vault[] a, Vault,Fee\tb, VaultFee c, (Vault.Id d), Fee".toList
    r.applyTypes t = "IVault[] a, IVault,uint256\tb, VaultFee c, (Vault.Id d), Fee".toList ∧
      (runs t).countP (·.all isWord) = 11 ∧ (runs (r.applyTypes t)).countP (·.all isWord) = 11 ∧
      r.applyTypes (r.applyTypes t) = r.applyTypes t := by
  intro r t
  have hr : ∀ entry ∈ r.pairs, IsName entry.1 ∧ IsName entry.2 := by decide
  have hfresh : ∀ entry ∈ r.pairs, entry.2 ∉ r.pairs.map (·.1) := by decide
  obtain ⟨heq, -, hcount, hrest⟩ := applyTypes_runs hr t
  have hruns : (retypeRuns (retype r.pairs) none (runs t)).flatten =
      "IVault[] a, IVault,uint256\tb, VaultFee c, (Vault.Id d), Fee".toList ∧
      (runs t).countP (·.all isWord) = 11 := by decide
  exact ⟨heq.trans hruns.1, hruns.2, hcount.trans hruns.2, (hrest hfresh).1⟩

end Renaming
end SolInterface
