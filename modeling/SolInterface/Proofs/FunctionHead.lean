import SolInterface.Proofs.Text
import SolInterface.Source.Header

/-!
What the reader of function heads accepts, and what it takes from a head whose specifiers are words
separated by spaces. `IsHead` says without the reader's order of trials which texts are heads.
-/
namespace SolInterface.Function
open Text

/-! The end of a head. -/

structure ReturnsClause (t types : Text) : Prop where
  exists_eq : ∃ gap gap' rest : Text, t = "returns" ++ gap ++ '(' :: types ++ ')' :: gap' ++ '{' :: rest ∧
    (∀ c ∈ gap, isBlank c) ∧ ∀ c ∈ gap', isBlank c
  noParen : ')' ∉ types

theorem returnsBrace?_eq_some {t types : Text} :
    returnsBrace? t = some types ↔ ReturnsClause t types := by
  constructor
  · intro h
    simp only [returnsBrace?, Option.bind_eq_bind, Option.bind_eq_some_iff] at h
    obtain ⟨r, hr, ⟨body, rest⟩, hp, hb⟩ := h
    obtain ⟨gap, hgap, hblank⟩ := skipBlanks_split r
    obtain ⟨gap', hgap', hblank'⟩ := skipBlanks_split rest
    obtain ⟨hpar, hno⟩ := parenthesised?_eq_some.1 hp
    split at hb
    · next hbrace =>
      obtain ⟨after, hafter⟩ := startsWith_iff.1 hbrace
      cases hb
      refine ⟨⟨gap, gap', after, ?_, hblank, hblank'⟩, hno⟩
      rw [after?_eq_some.1 hr, hgap, hpar]
      conv_lhs => rw [hgap', ← hafter]
      simp
    · cases hb
  · rintro ⟨⟨gap, gap', rest, rfl, hblank, hblank'⟩, hno⟩
    have hshape : "returns".toList ++ gap ++ '(' :: types ++ ')' :: gap' ++ '{' :: rest =
        "returns".toList ++ (gap ++ '(' :: (types ++ ')' :: (gap' ++ '{' :: rest))) := by simp
    have hopen : skipBlanks (gap ++ '(' :: (types ++ ')' :: (gap' ++ '{' :: rest))) =
        '(' :: (types ++ ')' :: (gap' ++ '{' :: rest)) := dropWhile_run hblank (stops_cons.2 rfl)
    have hbrace : skipBlanks (gap' ++ '{' :: rest) = '{' :: rest :=
      dropWhile_run hblank' (stops_cons.2 rfl)
    rw [hshape, returnsBrace?, after?_append]
    simp [hopen, parenthesised?_append _ hno, hbrace, startsWith]

def OpensBody (t : Text) : Prop := startsWith ['{'] (skipBlanks t) = true

def Ends (t : Text) : Prop :=
  ∃ fill rest : Text, t = fill ++ rest ∧ (∀ c ∈ fill, isFiller c) ∧
    (OpensBody rest ∨ ∃ types, ReturnsClause rest types)

theorem returnsBrace?_eq_none {t : Text} (h : ∀ types, ¬ ReturnsClause t types) :
    returnsBrace? t = none :=
  Option.eq_none_iff_forall_ne_some.2 fun types he => h types (returnsBrace?_eq_some.1 he)

theorem ReturnsClause.ne_nil {t types : Text} (h : ReturnsClause t types) : t ≠ [] := by
  obtain ⟨⟨gap, gap', rest, rfl, -, -⟩, -⟩ := h
  simp

theorem ending?_of_returns {t types : Text} (h : ReturnsClause t types) :
    ending? t = some types := by
  cases t with
  | nil => exact absurd rfl h.ne_nil
  | cons c t => simp [ending?, returnsBrace?_eq_some.2 h]

theorem ending?_of_opens {t : Text} (hno : ∀ types, ¬ ReturnsClause t types) (h : OpensBody t) :
    ending? t = some [] := by
  cases t with
  | nil => cases h
  | cons c t =>
    rw [ending?, returnsBrace?_eq_none hno]
    exact if_pos h

theorem ending?_cons {c : Char} {t : Text} (hno : ∀ types, ¬ ReturnsClause (c :: t) types)
    (h : ¬ OpensBody (c :: t)) :
    ending? (c :: t) = if isFiller c then ending? t else none := by
  rw [ending?, returnsBrace?_eq_none hno]
  exact if_neg h

theorem ends_cons {c : Char} {t : Text} :
    Ends (c :: t) ↔
      (OpensBody (c :: t) ∨ ∃ types, ReturnsClause (c :: t) types) ∨ (isFiller c ∧ Ends t) := by
  constructor
  · rintro ⟨fill, rest, h, hf, hend⟩
    cases fill with
    | nil => exact Or.inl (h ▸ hend)
    | cons d fill =>
      obtain ⟨rfl, rfl⟩ := List.cons.inj h
      exact Or.inr ⟨hf c (by simp), fill, rest, rfl, fun e he => hf e (by simp [he]), hend⟩
  · rintro (h | ⟨hc, fill, rest, rfl, hf, hend⟩)
    · exact ⟨[], c :: t, rfl, by simp, h⟩
    · refine ⟨c :: fill, rest, rfl, fun e he => ?_, hend⟩
      rcases List.mem_cons.1 he with rfl | he
      · exact hc
      · exact hf e he

theorem isSome_ending?_iff {t : Text} : (ending? t).isSome ↔ Ends t := by
  induction t with
  | nil =>
    constructor
    · intro h
      cases h
    · rintro ⟨fill, rest, h, -, hend⟩
      obtain ⟨rfl, rfl⟩ := List.append_eq_nil_iff.1 h.symm
      rcases hend with hopen | ⟨types, hret⟩
      · cases hopen
      · exact absurd rfl hret.ne_nil
  | cons c t ih =>
    rw [ends_cons]
    by_cases hret : ∃ types, ReturnsClause (c :: t) types
    · obtain ⟨types, h⟩ := hret
      simp [ending?_of_returns h, show ∃ types, ReturnsClause (c :: t) types from ⟨types, h⟩]
    · have hno : ∀ types, ¬ ReturnsClause (c :: t) types := not_exists.1 hret
      by_cases hopen : OpensBody (c :: t)
      · simp [ending?_of_opens hno hopen, hopen]
      · by_cases hc : isFiller c = true <;> simp [ending?_cons hno hopen, hc, hopen, hret, ih]

/-! Where only words and blanks stand before the end. -/

theorem isFiller_of_isPlain {c : Char} (h : isPlain c = true) : isFiller c = true := by
  simp only [isPlain, Bool.or_eq_true] at h
  simp [isFiller, h]

/-- Before its parenthesis, a `returns` clause holds that word alone. -/
theorem ReturnsClause.trimRight_takeWhile {t types : Text} (h : ReturnsClause t types) :
    trimRight (t.takeWhile (· != '(')) = "returns" := by
  obtain ⟨⟨gap, gap', rest, rfl, hgap, -⟩, -⟩ := h
  have hno : '(' ∉ "returns".toList ++ gap := by
    intro hm
    rcases List.mem_append.1 hm with hm | hm
    · exact absurd hm (by decide)
    · exact absurd (hgap _ hm) (by decide)
  have hshape : "returns".toList ++ gap ++ '(' :: types ++ ')' :: gap' ++ '{' :: rest =
      ("returns".toList ++ gap) ++ '(' :: (types ++ ')' :: (gap' ++ '{' :: rest)) := by simp
  rw [hshape, takeWhile_ne hno, trimRight_append_blank hgap]
  exact EndsSolid.trimRight ⟨"return".toList, 's', by decide, rfl⟩

theorem paren_notMem_of_isPlain {fill : Text} (h : ∀ c ∈ fill, isPlain c) : '(' ∉ fill :=
  fun hm => absurd (h _ hm) (by decide)

/-- Where the brace stands before any parenthesis, no `returns` clause starts. -/
theorem not_returnsClause_brace {fill tail types : Text} (h : ∀ c ∈ fill, isPlain c) :
    ¬ ReturnsClause (fill ++ '{' :: tail) types := by
  intro hret
  have hword := hret.trimRight_takeWhile
  have hfill : ∀ c ∈ fill ++ ['{'], (c != '(') = true := by
    intro c hc
    rcases List.mem_append.1 hc with hc | hc
    · simpa using fun he : c = '(' => paren_notMem_of_isPlain h (he ▸ hc)
    · rw [List.mem_singleton.1 hc]
      rfl
  have hshape : fill ++ '{' :: tail = (fill ++ ['{']) ++ tail := by simp
  rw [hshape, List.takeWhile_append_of_pos hfill, List.append_assoc, List.singleton_append,
    trimRight_append_cons _ rfl] at hword
  have hmem : '{' ∈ "returns".toList := hword ▸ by simp
  exact absurd hmem (by decide)

/-- Fillers are passed where no `returns` clause starts in them and, unless nothing is returned, the
body does not either. -/
theorem ending?_passed {fill rest types : Text} (hf : ∀ c ∈ fill, isFiller c)
    (hno : ∀ part, part <:+ fill → part ≠ [] → ∀ u, ¬ ReturnsClause (part ++ rest) u)
    (hopen : ∀ part, part <:+ fill → part ≠ [] → OpensBody (part ++ rest) → types = [])
    (hend : ending? rest = some types) : ending? (fill ++ rest) = some types := by
  induction fill with
  | nil => exact hend
  | cons c fill ih =>
    have hclause := hno (c :: fill) (List.suffix_refl _) (List.cons_ne_nil c fill)
    by_cases hbody : OpensBody (c :: fill ++ rest)
    · rw [hopen (c :: fill) (List.suffix_refl _) (List.cons_ne_nil c fill) hbody]
      exact ending?_of_opens hclause hbody
    · refine (ending?_cons hclause hbody).trans ?_
      rw [if_pos (hf c List.mem_cons_self)]
      exact ih (fun d hd => hf d (List.mem_cons_of_mem _ hd))
        (fun part hp => hno part (hp.trans (List.suffix_cons c fill)))
        fun part hp => hopen part (hp.trans (List.suffix_cons c fill))

theorem ending?_brace {fill : Text} (tail : Text) (h : ∀ c ∈ fill, isPlain c) :
    ending? (fill ++ '{' :: tail) = some [] := by
  have hno : ∀ part : Text, (∀ c ∈ part, isPlain c) →
      ∀ types, ¬ ReturnsClause (part ++ '{' :: tail) types := fun part hp types =>
    not_returnsClause_brace hp
  refine ending?_passed (fun c hc => isFiller_of_isPlain (h c hc))
    (fun part hp _ => hno part fun c hc => h c (hp.subset hc)) (fun _ _ _ _ => rfl) ?_
  exact ending?_of_opens (hno [] (by simp)) rfl

/-- Before the last word no `returns` clause starts. -/
theorem not_returnsClause_before {fill gap rest types : Text} (h : ∀ c ∈ fill, isPlain c)
    (hg : ∀ c ∈ gap, isBlank c) :
    ¬ ReturnsClause (fill ++ ' ' :: ("returns" ++ gap ++ '(' :: rest)) types := by
  intro hret
  have hword := hret.trimRight_takeWhile
  have hno : '(' ∉ fill ++ (' ' :: ("returns".toList ++ gap)) := by
    intro hm
    rcases List.mem_append.1 hm with hm | hm
    · exact paren_notMem_of_isPlain h hm
    · rcases List.mem_cons.1 hm with hm | hm
      · exact absurd hm (by decide)
      · rcases List.mem_append.1 hm with hm | hm
        · exact absurd hm (by decide)
        · exact absurd (hg _ hm) (by decide)
  have hshape : fill ++ ' ' :: ("returns".toList ++ gap ++ '(' :: rest) =
      (fill ++ (' ' :: ("returns".toList ++ gap))) ++ '(' :: rest := by simp
  have hsolid : EndsSolid (fill ++ ' ' :: "returns".toList) :=
    ⟨fill ++ ' ' :: "return".toList, 's', by simp, rfl⟩
  have hsplit : fill ++ (' ' :: ("returns".toList ++ gap)) = (fill ++ ' ' :: "returns".toList) ++ gap := by
    simp
  rw [hshape, takeWhile_ne hno, hsplit, trimRight_append_blank hg, hsolid.trimRight] at hword
  simpa using congrArg List.length hword

/-- Where a word stands before the brace, the body does not start yet. -/
theorem not_opensBody {fill rest : Text} {c : Char} (h : ∀ d ∈ fill, isFiller d)
    (hc : isWord c = true) : ¬ OpensBody (fill ++ c :: rest) := by
  intro hopen
  induction fill with
  | nil =>
    rw [OpensBody, List.nil_append, skipBlanks_of_stops (by simpa using isBlank_of_isWord hc)] at hopen
    obtain ⟨t, ht⟩ := startsWith_iff.1 hopen
    obtain ⟨rfl, -⟩ := List.cons.inj ht
    exact absurd hc (by decide)
  | cons d fill ih =>
    cases hd : isBlank d with
    | true =>
      rw [OpensBody, List.cons_append, skipBlanks, List.dropWhile_cons_of_pos hd] at hopen
      exact ih (fun e he => h e (by simp [he])) hopen
    | false =>
      rw [OpensBody, List.cons_append, skipBlanks_of_stops (by simpa using hd)] at hopen
      obtain ⟨t, ht⟩ := startsWith_iff.1 hopen
      obtain ⟨rfl, -⟩ := List.cons.inj ht
      exact absurd (h '{' (by simp)) (by decide)

theorem ReturnsClause.isPrefix {t types : Text} (h : ReturnsClause t types) :
    "returns".toList <+: t := by
  obtain ⟨⟨gap, gap', rest, rfl, -, -⟩, -⟩ := h
  exact ⟨gap ++ '(' :: types ++ ')' :: gap' ++ '{' :: rest, by simp⟩

theorem ReturnsClause.not_opensBody {fill clause types : Text} (h : ReturnsClause clause types)
    (hf : ∀ c ∈ fill, isFiller c) : ¬ OpensBody (fill ++ ' ' :: clause) := by
  obtain ⟨more, rfl⟩ := h.isPrefix
  have hshape : fill ++ ' ' :: ("returns".toList ++ more) =
      (fill ++ [' ']) ++ 'r' :: ("eturns".toList ++ more) := by simp
  rw [hshape]
  refine Function.not_opensBody (fun c hc => ?_) rfl
  rcases List.mem_append.1 hc with hc | hc
  · exact hf c hc
  · rw [List.mem_singleton.1 hc]
    rfl

/-- Fillers are passed up to a `returns` clause if none starts before. -/
theorem ending?_passed_returns {fill clause types : Text} (hf : ∀ c ∈ fill, isFiller c)
    (hno : ∀ part, part <:+ fill → ∀ u, ¬ ReturnsClause (part ++ ' ' :: clause) u)
    (h : ReturnsClause clause types) : ending? (fill ++ ' ' :: clause) = some types := by
  have hshut : ∀ part, part <:+ fill → ¬ OpensBody (part ++ ' ' :: clause) := fun part hp =>
    h.not_opensBody fun c hc => hf c (hp.subset hc)
  refine ending?_passed hf (fun part hp _ => hno part hp)
    (fun part hp _ hopen => absurd hopen (hshut part hp)) ?_
  have hspace := ending?_cons (hno [] (List.nil_suffix)) (hshut [] (List.nil_suffix))
  exact hspace.trans (ending?_of_returns h)

theorem ending?_returns {fill gap gap' types : Text} (tail : Text) (h : ∀ c ∈ fill, isPlain c)
    (hg : ∀ c ∈ gap, isBlank c) (hg' : ∀ c ∈ gap', isBlank c) (ht : ')' ∉ types) :
    ending? (fill ++ ' ' :: ("returns" ++ gap ++ '(' :: types ++ ')' :: gap' ++ '{' :: tail)) =
      some types := by
  refine ending?_passed_returns (fun c hc => isFiller_of_isPlain (h c hc)) (fun part hp u => ?_)
    ⟨⟨gap, gap', tail, rfl, hg, hg'⟩, ht⟩
  have hshape : "returns".toList ++ gap ++ '(' :: types ++ ')' :: gap' ++ '{' :: tail =
      "returns".toList ++ gap ++ '(' :: (types ++ ')' :: gap' ++ '{' :: tail) := by simp
  rw [hshape]
  exact not_returnsClause_before (fun c hc => h c (hp.subset hc)) hg

/-! The parts of a head. -/

def takeVisibility (t : Text) : Option Visibility × Text :=
  match oneOf? visibilities t with
  | some (v, more) => (some v, skipBlanks more)
  | none => (none, t)

theorem Head.read?_front {name params gap gap' : Text} (rest : Text) (hne : gap ≠ [])
    (hg : ∀ c ∈ gap, isBlank c) (hn : IsName name) (hg' : ∀ c ∈ gap', isBlank c)
    (hp : ')' ∉ params) :
    Head.read? ("function" ++ gap ++ name ++ gap' ++ '(' :: params ++ ')' :: rest) =
      (specified? (takeVisibility (skipBlanks rest)).2).map fun found =>
        ⟨name, trim params, (takeVisibility (skipBlanks rest)).1, found.1, trim found.2⟩ := by
  let body : Text := '(' :: (params ++ ')' :: rest)
  have hshape : "function".toList ++ gap ++ name ++ gap' ++ '(' :: params ++ ')' :: rest =
      "function".toList ++ (gap ++ (name ++ (gap' ++ body))) := by simp [body]
  have hblanks : blanks? (gap ++ (name ++ (gap' ++ body))) = some (name ++ (gap' ++ body)) :=
    blanks?_append hne hg (hn.stops_isBlank _)
  have hstop : Stops isWord (gap' ++ body) := by
    cases gap' with
    | nil => exact stops_cons.2 rfl
    | cons c gap' => exact stops_cons.2 (isWord_of_isBlank (hg' c (by simp)))
  have hbody : skipBlanks (gap' ++ body) = body := dropWhile_run hg' (stops_cons.2 rfl)
  rw [hshape, Head.read?, after?_append]
  simp only [Option.bind_eq_bind, Option.bind_some, hblanks, hn.word?_append hstop, hbody, body,
    parenthesised?_append rest hp, takeVisibility]
  exact Option.map_eq_bind.symm

/-- The texts that start with a function's head: the word, a name, parentheses, and then fillers up
to the body or to a `returns` clause and the body. -/
def IsHead (t : Text) : Prop :=
  ∃ gap name gap' params rest : Text,
    t = "function" ++ gap ++ name ++ gap' ++ '(' :: params ++ ')' :: rest ∧ gap ≠ [] ∧
      (∀ c ∈ gap, isBlank c) ∧ IsName name ∧ (∀ c ∈ gap', isBlank c) ∧ ')' ∉ params ∧ Ends rest

theorem Ends.append {fill t : Text} (h : Ends t) (hf : ∀ c ∈ fill, isFiller c) :
    Ends (fill ++ t) := by
  obtain ⟨more, rest, rfl, hm, hend⟩ := h
  refine ⟨fill ++ more, rest, by simp, fun c hc => ?_, hend⟩
  exact (List.mem_append.1 hc).elim (hf c) (hm c)

theorem isFiller_of_isBlank {c : Char} (h : isBlank c = true) : isFiller c = true := by
  simp [isFiller, h]

theorem ends_skipBlanks {t : Text} : Ends (skipBlanks t) ↔ Ends t := by
  obtain ⟨gap, hgap, hblank⟩ := skipBlanks_split t
  constructor
  · intro h
    rw [hgap]
    exact h.append fun c hc => isFiller_of_isBlank (hblank c hc)
  · intro h
    rw [hgap] at h
    clear hgap
    induction gap with
    | nil => exact h
    | cons c gap ih =>
      have hc : isBlank c = true := hblank c (by simp)
      have htail : ∀ d ∈ gap, isBlank d := fun d hd => hblank d (by simp [hd])
      rw [List.cons_append, ends_cons] at h
      rcases h with (hopen | ⟨types, hret⟩) | ⟨-, hend⟩
      · refine ih htail ⟨[], _, rfl, by simp, Or.inl ?_⟩
        rwa [OpensBody, skipBlanks, List.dropWhile_cons_of_pos hc] at hopen
      · obtain ⟨u, hu⟩ := hret.isPrefix
        obtain ⟨rfl, -⟩ := List.cons.inj hu
        exact absurd hc (by decide)
      · exact ih htail hend

/-- A word of which no rest can start `returns` is passed as a filler. -/
theorem Ends.of_word {w t : Text} (h : Ends (w ++ t)) (hw : ∀ c ∈ w, isWord c)
    (hno : ∀ s ∈ w.tails, s ≠ [] → ¬ s <+: "returns".toList ∧ ¬ "returns".toList <+: s) :
    Ends t := by
  induction w with
  | nil => exact h
  | cons c w ih =>
    have hshut : ¬ OpensBody ([] ++ c :: (w ++ t)) := not_opensBody (by simp) (hw c (by simp))
    have hret : ∀ types, ¬ ReturnsClause (c :: w ++ t) types := by
      intro types hret
      have hself := hno (c :: w) (by simp) (by simp)
      exact (List.prefix_or_prefix_of_prefix (List.prefix_append (c :: w) t) hret.isPrefix).elim
        hself.1 hself.2
    rcases ends_cons.1 h with (hopen | ⟨types, hclause⟩) | ⟨-, hend⟩
    · exact absurd hopen hshut
    · exact absurd hclause (hret types)
    · exact ih hend (fun d hd => hw d (by simp [hd])) fun s hs => hno s (by simp [hs])

theorem ends_takeVisibility {t : Text} : Ends (takeVisibility t).2 ↔ Ends t := by
  unfold takeVisibility
  cases h : oneOf? visibilities t with
  | none => rfl
  | some found =>
    obtain ⟨v, rest⟩ := found
    obtain ⟨key, hkey, rfl⟩ := oneOf?_eq_some h
    have hall : ∀ o ∈ visibilities, (∀ c ∈ o.1, isWord c) ∧
        ∀ s ∈ o.1.tails, s ≠ [] → ¬ s <+: "returns".toList ∧ ¬ "returns".toList <+: s := by
      decide
    obtain ⟨hword, hno⟩ := hall _ hkey
    refine ends_skipBlanks.trans ⟨fun hr => ?_, fun hr => hr.of_word hword hno⟩
    exact hr.append fun c hc => by simp [isFiller, hword c hc]

theorem isSome_specified?_iff {t : Text} : (specified? t).isSome ↔ Ends t := by
  unfold specified?
  cases h : oneOf? mutabilities t with
  | none => simp [isSome_ending?_iff]
  | some found =>
    obtain ⟨m, rest⟩ := found
    obtain ⟨key, hkey, rfl⟩ := oneOf?_eq_some h
    have hall : ∀ o ∈ mutabilities, ∀ c ∈ o.1, isWord c := by decide
    have hrest : Ends rest → Ends (key ++ rest) := fun hr =>
      hr.append fun c hc => by simp [isFiller, hall _ hkey c hc]
    simp only [Option.orElse_eq_orElse, Option.orElse_eq_or, Option.isSome_or, Option.isSome_map,
      Bool.or_eq_true, isSome_ending?_iff, ends_skipBlanks]
    exact ⟨fun hr => hr.elim hrest id, Or.inr⟩

/-- What a head starts with: the word, blanks, its name as a whole word, and its parameters. -/
theorem Head.exists_front {t : Text} {head : Head} (h : Head.read? t = some head) :
    ∃ gap gap' params rest : Text,
      t = "function" ++ gap ++ head.name ++ gap' ++ '(' :: params ++ ')' :: rest ∧ gap ≠ [] ∧
        (∀ c ∈ gap, isBlank c) ∧ IsName head.name ∧ (∀ c ∈ gap', isBlank c) ∧ ')' ∉ params := by
  simp only [Head.read?, Option.bind_eq_bind, Option.bind_eq_some_iff] at h
  obtain ⟨r, hr, r', hr', ⟨name, after⟩, hword, ⟨params, rest⟩, hparen, found, -, hhead⟩ := h
  obtain ⟨gap, rfl, hne, hg, -⟩ := blanks?_eq_some.1 hr'
  obtain ⟨rfl, hn, hw, -⟩ := word?_eq_some.1 hword
  obtain ⟨gap', hgap', hg'⟩ := skipBlanks_split after
  obtain ⟨hp, hno⟩ := parenthesised?_eq_some.1 hparen
  cases hhead
  refine ⟨gap, gap', params, rest, ?_, hne, hg, ⟨hn, hw⟩, hg', hno⟩
  rw [after?_eq_some.1 hr, hgap', hp]
  simp

/-- The reader finds a head exactly where one stands. -/
theorem isSome_read?_iff {t : Text} : (Head.read? t).isSome ↔ IsHead t := by
  constructor
  · intro h
    obtain ⟨head, hread⟩ := Option.isSome_iff_exists.1 h
    obtain ⟨gap, gap', params, rest, rfl, hne, hg, hn, hg', hp⟩ := Head.exists_front hread
    rw [Head.read?_front rest hne hg hn hg' hp, Option.isSome_map, isSome_specified?_iff,
      ends_takeVisibility, ends_skipBlanks] at h
    exact ⟨gap, head.name, gap', params, rest, rfl, hne, hg, hn, hg', hp, h⟩
  · rintro ⟨gap, name, gap', params, rest, rfl, hne, hg, hn, hg', hp, hend⟩
    rw [Head.read?_front rest hne hg hn hg' hp, Option.isSome_map, isSome_specified?_iff,
      ends_takeVisibility, ends_skipBlanks]
    exact hend

end SolInterface.Function
