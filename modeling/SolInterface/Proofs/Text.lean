import Mathlib.Data.List.TakeWhile
import Mathlib.Tactic.Common
import SolInterface.Text.Lines
import SolInterface.Text.Scan

/-!
What the readers of text do on a text that was put together from known parts: each gives the part
back with the rest, provided the rest cannot extend the part.
-/
namespace SolInterface.Text

/-! A statement on the characters of a text is decided along the text, not for all characters. -/

instance (priority := 2000) decidableForallMemText (p : Char → Prop) [DecidablePred p]
    (t : List Char) : Decidable (∀ c ∈ t, p c) :=
  List.decidableBAll p t

instance (priority := 2000) decidableForallMemHead (p : Char → Prop) [DecidablePred p]
    (c? : Option Char) : Decidable (∀ c ∈ c?, p c) :=
  Option.decidableForallMem c?

/-- The text does not go on with a character of the class. -/
def Stops (p : Char → Bool) (t : Text) : Prop := ∀ c ∈ t.head?, p c = false

@[simp] theorem stops_nil (p : Char → Bool) : Stops p [] := by simp [Stops]

@[simp] theorem stops_cons {p : Char → Bool} {c : Char} {t : Text} :
    Stops p (c :: t) ↔ p c = false := by
  simp [Stops]

theorem stops_append {p : Char → Bool} {w : Text} (hne : w ≠ []) (t : Text) :
    Stops p (w ++ t) ↔ Stops p w := by
  cases w with
  | nil => exact absurd rfl hne
  | cons c w => simp

theorem stops_ite {c : Prop} [Decidable c] {p : Char → Bool} {t u : Text} (ht : Stops p t)
    (hu : Stops p u) : Stops p (if c then t else u) := by
  split <;> assumption

theorem stops_dropWhile (p : Char → Bool) (t : Text) : Stops p (t.dropWhile p) := by
  induction t with
  | nil => simp
  | cons c t ih => cases h : p c <;> simp [h, ih]

theorem takeWhile_of_stops {p : Char → Bool} {t : Text} (h : Stops p t) : t.takeWhile p = [] := by
  cases t with
  | nil => rfl
  | cons c t => simp [stops_cons.1 h]

theorem dropWhile_of_stops {p : Char → Bool} {t : Text} (h : Stops p t) : t.dropWhile p = t := by
  cases t with
  | nil => rfl
  | cons c t => simp [stops_cons.1 h]

/-- A run of the class is taken whole. -/
theorem takeWhile_run {p : Char → Bool} {w t : Text} (hw : ∀ c ∈ w, p c) (ht : Stops p t) :
    (w ++ t).takeWhile p = w := by
  rw [List.takeWhile_append_of_pos hw, takeWhile_of_stops ht, List.append_nil]

theorem dropWhile_run {p : Char → Bool} {w t : Text} (hw : ∀ c ∈ w, p c) (ht : Stops p t) :
    (w ++ t).dropWhile p = t := by
  rw [List.dropWhile_append_of_pos hw, dropWhile_of_stops ht]

/-- Text without the character `c` is read up to the next `c`. -/
theorem takeWhile_ne {c : Char} {body t : Text} (h : c ∉ body) :
    (body ++ c :: t).takeWhile (· != c) = body :=
  takeWhile_run (fun d hd => by simpa using fun he : d = c => h (he ▸ hd)) (by simp)

theorem dropWhile_ne {c : Char} {body t : Text} (h : c ∉ body) :
    (body ++ c :: t).dropWhile (· != c) = c :: t :=
  dropWhile_run (fun d hd => by simpa using fun he : d = c => h (he ▸ hd)) (by simp)

theorem takeWhile_ne_self {c : Char} {t : Text} (h : c ∉ t) : t.takeWhile (· != c) = t :=
  List.takeWhile_eq_self_iff.2 fun d hd => by simpa using fun he : d = c => h (he ▸ hd)

theorem dropWhile_ne_self {c : Char} {t : Text} (h : c ∉ t) : t.dropWhile (· != c) = [] :=
  List.dropWhile_eq_nil_iff.2 fun d hd => by simpa using fun he : d = c => h (he ▸ hd)

/-! Readers of one part. -/

theorem after?_eq_some {lead t rest : Text} : after? lead t = some rest ↔ t = lead ++ rest := by
  induction lead generalizing t with
  | nil => simp [after?]
  | cons a lead ih =>
    cases t with
    | nil => simp [after?]
    | cons c t => by_cases h : a = c <;> simp [after?, h, ih, eq_comm]

@[simp] theorem after?_append (lead t : Text) : after? lead (lead ++ t) = some t :=
  after?_eq_some.2 rfl

theorem after?_append_cons {lead : Text} {c : Char} (hc : c ∉ lead) (w t : Text) :
    after? lead (w ++ c :: t) = (after? lead w).map (· ++ c :: t) := by
  induction lead generalizing w with
  | nil => rfl
  | cons a lead ih =>
    obtain ⟨hac, hlead⟩ := not_or.1 (mt List.mem_cons.2 hc)
    cases w with
    | nil => simp [after?, Ne.symm hac]
    | cons d w => by_cases had : a = d <;> simp [after?, had, ih hlead w]

theorem startsWith_iff {lead t : Text} : startsWith lead t = true ↔ lead <+: t := by
  simp [startsWith]

theorem skipBlanks_of_stops {t : Text} (h : Stops isBlank t) : skipBlanks t = t :=
  dropWhile_of_stops h

theorem skipBlanks_append {b t : Text} (hb : ∀ c ∈ b, isBlank c) :
    skipBlanks (b ++ t) = skipBlanks t :=
  List.dropWhile_append_of_pos hb

@[simp] theorem skipBlanks_space (t : Text) : skipBlanks (' ' :: t) = skipBlanks t := rfl

@[simp] theorem blanks?_space (t : Text) : blanks? (' ' :: t) = some (skipBlanks t) := rfl

theorem blanks?_append {gap t : Text} (hne : gap ≠ []) (hg : ∀ c ∈ gap, isBlank c)
    (ht : Stops isBlank t) : blanks? (gap ++ t) = some t := by
  cases gap with
  | nil => exact absurd rfl hne
  | cons c gap =>
    have hrest : skipBlanks (gap ++ t) = t := dropWhile_run (fun d hd => hg d (by simp [hd])) ht
    simp [blanks?, hg c (by simp), hrest]

theorem skipBlanks_split (t : Text) :
    ∃ gap : Text, t = gap ++ skipBlanks t ∧ ∀ c ∈ gap, isBlank c :=
  ⟨t.takeWhile isBlank, List.takeWhile_append_dropWhile.symm, fun _ hc => List.mem_takeWhile_imp hc⟩

theorem blanks?_eq_some {t rest : Text} :
    blanks? t = some rest ↔
      ∃ gap : Text, t = gap ++ rest ∧ gap ≠ [] ∧ (∀ c ∈ gap, isBlank c) ∧ Stops isBlank rest := by
  constructor
  · intro h
    cases t with
    | nil => cases h
    | cons c t =>
      simp only [blanks?] at h
      split at h
      · next hc =>
        obtain ⟨gap, hgap, hblank⟩ := skipBlanks_split t
        cases h
        refine ⟨c :: gap, by rw [List.cons_append, ← hgap], by simp, fun d hd => ?_,
          stops_dropWhile _ _⟩
        rcases List.mem_cons.1 hd with rfl | hd
        · exact hc
        · exact hblank d hd
      · cases h
  · rintro ⟨gap, rfl, hne, hg, hrest⟩
    exact blanks?_append hne hg hrest

theorem word?_eq_some {t w rest : Text} :
    word? t = some (w, rest) ↔
      t = w ++ rest ∧ w ≠ [] ∧ (∀ c ∈ w, isWord c) ∧ Stops isWord rest := by
  constructor
  · intro h
    unfold word? at h
    split at h
    · cases h
    · next hne =>
      simp only [Option.some.injEq, Prod.mk.injEq] at h
      obtain ⟨rfl, rfl⟩ := h
      exact ⟨List.takeWhile_append_dropWhile.symm, hne, fun c hc => List.mem_takeWhile_imp hc,
        stops_dropWhile _ _⟩
  · rintro ⟨rfl, hne, hw, hrest⟩
    unfold word?
    rw [takeWhile_run hw hrest, dropWhile_run hw hrest]
    cases w with
    | nil => exact absurd rfl hne
    | cons c w => rfl

theorem word?_append {w t : Text} (hne : w ≠ []) (hw : ∀ c ∈ w, isWord c) (ht : Stops isWord t) :
    word? (w ++ t) = some (w, t) :=
  word?_eq_some.2 ⟨rfl, hne, hw, ht⟩

theorem quoted?_append {body : Text} (t : Text) (hne : body ≠ []) (hb : '"' ∉ body) :
    quoted? ('"' :: (body ++ '"' :: t)) = some (body, t) := by
  simp only [quoted?]
  rw [takeWhile_ne hb, dropWhile_ne hb]
  cases body with
  | nil => exact absurd rfl hne
  | cons c body => rfl

theorem parenthesised?_append {body : Text} (t : Text) (hb : ')' ∉ body) :
    parenthesised? ('(' :: (body ++ ')' :: t)) = some (body, t) := by
  simp only [parenthesised?]
  rw [takeWhile_ne hb, dropWhile_ne hb]
  rfl

theorem parenthesised?_eq_some {t body rest : Text} :
    parenthesised? t = some (body, rest) ↔ t = '(' :: (body ++ ')' :: rest) ∧ ')' ∉ body := by
  constructor
  · intro h
    unfold parenthesised? at h
    split at h
    · next r =>
      split at h
      · next rest' hd =>
        simp only [Option.some.injEq, Prod.mk.injEq] at h
        obtain ⟨rfl, rfl⟩ := h
        refine ⟨?_, fun hm => by simpa using List.mem_takeWhile_imp hm⟩
        rw [← hd, List.takeWhile_append_dropWhile]
      · cases h
    · cases h
  · rintro ⟨rfl, hb⟩
    exact parenthesised?_append rest hb

/-- A line that starts with no blank is taken whole. -/
theorem lineTail?_space {t : Text} (hne : t ≠ []) (hs : Stops isBlank t) (hn : '\n' ∉ t) :
    lineTail? (' ' :: t) = some (t, []) := by
  have htake : (' ' :: t).takeWhile isBlank = [' '] := takeWhile_run (w := [' ']) (by decide) hs
  have hdrop : (' ' :: t).dropWhile isBlank = t := dropWhile_run (w := [' ']) (by decide) hs
  cases t with
  | nil => exact absurd rfl hne
  | cons c t => simp only [lineTail?, htake, hdrop, takeWhile_ne_self hn, dropWhile_ne_self hn]

/-! One of several keywords. -/

theorem oneOf?_eq_some {α : Type} {options : List (Text × α)} {t rest : Text} {a : α}
    (h : oneOf? options t = some (a, rest)) : ∃ key, (key, a) ∈ options ∧ t = key ++ rest := by
  obtain ⟨⟨key, b⟩, ho, hb⟩ := List.exists_of_findSome?_eq_some h
  obtain ⟨r, hr, he⟩ := Option.map_eq_some_iff.1 hb
  obtain ⟨rfl, rfl⟩ := Prod.mk.inj he
  exact ⟨key, ho, after?_eq_some.1 hr⟩

/-- A character that stands in none of the keywords bounds the search for one. -/
theorem oneOf?_append_cons {α : Type} {options : List (Text × α)} {c : Char}
    (hc : ∀ o ∈ options, c ∉ o.1) (w t : Text) :
    oneOf? options (w ++ c :: t) =
      (oneOf? options w).map fun found => (found.1, found.2 ++ c :: t) := by
  unfold oneOf?
  induction options with
  | nil => rfl
  | cons o options ih =>
    rw [List.findSome?_cons, List.findSome?_cons, after?_append_cons (hc o (by simp)),
      ih fun p hp => hc p (by simp [hp])]
    cases after? o.1 w <;> rfl

theorem isSome_oneOf? {α : Type} {options : List (Text × α)} {key t : Text} {a : α}
    (ho : (key, a) ∈ options) (h : key <+: t) : (oneOf? options t).isSome := by
  obtain ⟨rest, rfl⟩ := h
  rw [oneOf?, List.findSome?_isSome_iff]
  exact ⟨_, ho, by simp⟩

/-- Stretches without a word character that hold the blanks beyond ASCII. -/
def wordGaps : List (Nat × Nat) :=
  [(0x80, 0xA9), (0x1680, 0x1680), (0x2000, 0x206F), (0x3000, 0x3004)]

theorem wordRanges_avoid_gaps : (wordRanges.all fun r => wordGaps.all fun g =>
    Nat.blt r.2 g.1 || Nat.blt g.2 r.1) = true := by decide +kernel

theorem isWord_of_isBlank {c : Char} (h : isBlank c = true) : isWord c = false := by
  simp only [isBlank, Bool.or_eq_true, Bool.and_eq_true, decide_eq_true_eq, beq_iff_eq] at h
  by_cases hc : c.toNat < 128
  · have hcodes : ∀ n ∈ [9, 10, 11, 12, 13, 28, 29, 30, 31, 32], isWord (Char.ofNat n) = false := by
      decide
    rw [← Char.ofNat_toNat c]
    refine hcodes _ ?_
    simp only [List.mem_cons, List.not_mem_nil, or_false]
    omega
  · obtain ⟨g, hg, hlow, hhigh⟩ : ∃ g ∈ wordGaps, g.1 ≤ c.toNat ∧ c.toNat ≤ g.2 := by
      simp only [wordGaps, List.mem_cons, List.not_mem_nil, or_false, exists_eq_or_imp,
        exists_eq_left]
      omega
    rw [isWord, if_neg hc, inRanges, List.any_eq_false]
    intro r hr
    have hout := List.all_eq_true.1 (List.all_eq_true.1 wordRanges_avoid_gaps r hr) g hg
    simp only [Bool.or_eq_true, Nat.blt_eq] at hout
    simp only [Bool.and_eq_true, decide_eq_true_eq]
    omega

theorem isBlank_of_isWord {c : Char} (h : isWord c = true) : isBlank c = false := by
  by_contra hb
  rw [isWord_of_isBlank (by simpa using hb)] at h
  exact absurd h (by simp)

def isPlain (c : Char) : Bool := isWord c || isBlank c

def IsName (t : Text) : Prop := t ≠ [] ∧ ∀ c ∈ t, isWord c = true

instance (t : Text) : Decidable (IsName t) := inferInstanceAs (Decidable (_ ∧ _))

theorem ne_of_isWord {c d : Char} (hc : isWord c = true) (hd : isWord d = false) : c ≠ d := by
  rintro rfl
  rw [hc] at hd
  cases hd

theorem IsName.notMem {w : Text} (h : IsName w) {c : Char} (hc : isWord c = false) : c ∉ w :=
  fun hm => by simp [h.2 c hm] at hc

theorem IsName.stops_isBlank {w : Text} (h : IsName w) (t : Text) : Stops isBlank (w ++ t) := by
  obtain ⟨hne, hw⟩ := h
  cases w with
  | nil => exact absurd rfl hne
  | cons c w => simp [isBlank_of_isWord (hw c (by simp))]

theorem IsName.word?_append {w t : Text} (h : IsName w) (ht : Stops isWord t) :
    word? (w ++ t) = some (w, t) :=
  Text.word?_append h.1 h.2 ht

/-! Searching. -/

theorem firstMatch_of_some {α : Type} {read : Text → Option α} {t : Text} {a : α}
    (h : read t = some a) : firstMatch read t = some a := by
  cases t <;> simp [firstMatch, h]

theorem firstMatch_cons {α : Type} {read : Text → Option α} {c : Char} {t : Text}
    (h : read (c :: t) = none) : firstMatch read (c :: t) = firstMatch read t := by
  simp [firstMatch, h]

/-- Characters with which the reader cannot start are passed. -/
theorem firstMatch_append {α : Type} {read : Text → Option α} {b : Text} (t : Text)
    (h : ∀ c ∈ b, ∀ r, read (c :: r) = none) : firstMatch read (b ++ t) = firstMatch read t := by
  induction b with
  | nil => rfl
  | cons c b ih =>
    rw [List.cons_append, firstMatch_cons (h c (by simp) _), ih fun d hd => h d (by simp [hd])]

/-! One text inside another. -/

theorem isPrefixOf_eq_isSome (lead t : Text) : lead.isPrefixOf t = (after? lead t).isSome := by
  induction lead generalizing t with
  | nil => simp [after?]
  | cons a lead ih =>
    cases t with
    | nil => rfl
    | cons c t =>
      by_cases h : a = c
      · simp [after?, h, ih]
      · simp [after?, h, List.isPrefixOf]

theorem after?_nil {part : Text} (hne : part ≠ []) : after? part [] = none := by
  cases part with
  | nil => exact absurd rfl hne
  | cons a part => rfl

theorem after?_of_occursIn {part : Text} {t : Text} (hne : part ≠ [])
    (h : occursIn part t = false) : after? part t = none := by
  cases t with
  | nil => exact after?_nil hne
  | cons c t =>
    rw [occursIn, Bool.or_eq_false_iff, isPrefixOf_eq_isSome] at h
    simpa using h.1

/-- No occurrence reaches over a character that is not in the text looked for. -/
theorem occursIn_append_cons {part : Text} {c : Char} (hne : part ≠ []) (hc : c ∉ part)
    (u v : Text) : occursIn part (u ++ c :: v) = (occursIn part u || occursIn part v) := by
  induction u with
  | nil =>
    have hnone : after? part ([] ++ c :: v) = none := by
      rw [after?_append_cons hc, after?_nil hne, Option.map_none]
    rw [List.nil_append] at hnone ⊢
    simp [occursIn, isPrefixOf_eq_isSome, hnone, hne]
  | cons d u ih =>
    have hfirst := after?_append_cons hc (d :: u) v
    rw [List.cons_append] at hfirst ⊢
    rw [occursIn, isPrefixOf_eq_isSome, hfirst, Option.isSome_map, ih, occursIn,
      isPrefixOf_eq_isSome, Bool.or_assoc]

theorem occursIn_eq_false {part t : Text} {c : Char} (hc : c ∈ part) (ht : c ∉ t) :
    occursIn part t = false := by
  induction t with
  | nil => simpa [occursIn] using List.ne_nil_of_mem hc
  | cons d t ih =>
    have hfirst : part.isPrefixOf (d :: t) = false := by
      by_contra h
      exact ht ((List.isPrefixOf_iff_prefix.1 (by simpa using h)).subset hc)
    rw [occursIn, hfirst, ih fun hmem => ht (List.mem_cons_of_mem _ hmem), Bool.false_or]

theorem occursIn_iff_infix {part t : Text} : occursIn part t = true ↔ part <:+: t := by
  induction t with
  | nil => simp [occursIn]
  | cons c t ih => rw [occursIn, Bool.or_eq_true, List.isPrefixOf_iff_prefix, ih, List.infix_cons_iff]

theorem occursIn_of_isSuffix {word part t : Text} (h : occursIn word t = false) (hp : part <:+ t) :
    occursIn word part = false := by
  rw [← Bool.not_eq_true, occursIn_iff_infix] at h ⊢
  exact fun hin => h (hin.trans hp.isInfix)

theorem startsWith_eq_false {lead t : Text} {c : Char} (hc : c ∈ lead) (ht : c ∉ t) :
    startsWith lead t = false := by
  by_contra h
  exact ht ((startsWith_iff.1 (by simpa using h)).subset hc)

/-- Text that lacks what the reader starts with is passed, with the character after it. -/
theorem firstMatch_append_cons {α : Type} {read : Text → Option α} {lead u : Text} {c : Char}
    (hread : ∀ t, after? lead t = none → read t = none) (hne : lead ≠ []) (hc : c ∉ lead)
    (hu : occursIn lead u = false) (t : Text) :
    firstMatch read (u ++ c :: t) = firstMatch read t := by
  induction u with
  | nil =>
    have hnone := after?_append_cons hc [] t
    rw [after?_nil hne, Option.map_none, List.nil_append] at hnone
    exact firstMatch_cons (hread _ hnone)
  | cons d u ih =>
    have hnone := after?_append_cons hc (d :: u) t
    rw [after?_of_occursIn hne hu, Option.map_none] at hnone
    rw [occursIn, Bool.or_eq_false_iff] at hu
    rw [List.cons_append] at hnone ⊢
    rw [firstMatch_cons (hread _ hnone), ih hu.2]

/-- The answer comes from the first position at which the reader has one. -/
theorem firstMatch_eq_some_iff {α : Type} {read : Text → Option α} {t : Text} {a : α} :
    firstMatch read t = some a ↔
      ∃ skipped rest, t = skipped ++ rest ∧ read rest = some a ∧
        ∀ p q, skipped = p ++ q → q ≠ [] → read (q ++ rest) = none := by
  constructor
  · intro h
    induction t with
    | nil => exact ⟨[], [], rfl, h, by simp⟩
    | cons c t ih =>
      cases hc : read (c :: t) with
      | some b =>
        rw [firstMatch_of_some hc] at h
        exact ⟨[], c :: t, rfl, hc.trans h, by simp⟩
      | none =>
        rw [firstMatch_cons hc] at h
        obtain ⟨skipped, rest, rfl, hrest, hno⟩ := ih h
        refine ⟨c :: skipped, rest, rfl, hrest, fun p q hpq hq => ?_⟩
        cases p with
        | nil =>
          obtain rfl : c :: skipped = q := hpq
          exact hc
        | cons d p => exact hno p q (List.cons.inj hpq).2 hq
  · rintro ⟨skipped, rest, rfl, hrest, hno⟩
    induction skipped with
    | nil => exact firstMatch_of_some hrest
    | cons c skipped ih =>
      refine (firstMatch_cons (hno [] (c :: skipped) rfl (by simp))).trans ?_
      exact ih fun p q hpq hq => hno (c :: p) q (by rw [hpq, List.cons_append]) hq

/-! Trimming. -/

theorem trimRight_append_blank {t b : Text} (hb : ∀ c ∈ b, isBlank c) :
    trimRight (t ++ b) = trimRight t := by
  unfold trimRight
  rw [List.reverse_append, List.dropWhile_append_of_pos (by simpa using hb)]

/-- Trimming on the right does not reach past a character that is no blank. -/
theorem trimRight_append_cons {a : Text} {c : Char} (t : Text) (hc : isBlank c = false) :
    trimRight (a ++ c :: t) = a ++ c :: trimRight t := by
  have hcut : (t.reverse ++ c :: a.reverse).dropWhile isBlank =
      t.reverse.dropWhile isBlank ++ c :: a.reverse := by
    rw [List.dropWhile_append]
    split
    · next h => simp [List.isEmpty_iff.1 h, hc]
    · rfl
  unfold trimRight
  rw [List.reverse_append, List.reverse_cons, List.append_assoc, List.singleton_append, hcut]
  simp

def EndsSolid (t : Text) : Prop := ∃ a c, t = a ++ [c] ∧ isBlank c = false

theorem EndsSolid.append {t : Text} (h : EndsSolid t) (u : Text) : EndsSolid (u ++ t) := by
  obtain ⟨a, c, rfl, hc⟩ := h
  exact ⟨u ++ a, c, by simp, hc⟩

theorem EndsSolid.trimRight {t : Text} (h : EndsSolid t) : trimRight t = t := by
  obtain ⟨a, c, rfl, hc⟩ := h
  rw [trimRight_append_cons [] hc]
  rfl

theorem endsSolid_of_stops {t : Text} (hne : t ≠ []) (h : Stops isBlank t.reverse) :
    EndsSolid t := by
  obtain ⟨a, c, rfl⟩ := (List.eq_nil_or_concat t).resolve_left hne
  exact ⟨a, c, List.concat_eq_append, by simpa using h⟩

theorem endsSolid_of_forall {t : Text} (hne : t ≠ []) (h : ∀ c ∈ t, isBlank c = false) :
    EndsSolid t :=
  endsSolid_of_stops hne fun c hc => h c (List.mem_reverse.1 (List.mem_of_mem_head? hc))

theorem endsSolid_trim {t : Text} (hne : trim t ≠ []) : EndsSolid (trim t) := by
  refine endsSolid_of_stops hne ?_
  rw [trim, trimRight, List.reverse_reverse]
  exact stops_dropWhile _ _

@[simp] theorem trim_space (t : Text) : trim (' ' :: t) = trim t := rfl

theorem trim_append_left {b : Text} (t : Text) (hb : ∀ c ∈ b, isBlank c) :
    trim (b ++ t) = trim t := by
  unfold trim
  rw [skipBlanks_append hb]

theorem trim_append_right (t : Text) {b : Text} (hb : ∀ c ∈ b, isBlank c) :
    trim (t ++ b) = trim t := by
  unfold trim skipBlanks
  rw [List.dropWhile_append]
  split
  · next h =>
    rw [List.isEmpty_iff.1 h, List.dropWhile_eq_nil_iff.2 hb]
  · exact trimRight_append_blank hb

theorem trim_trimRight (t : Text) : trim (trimRight t) = trim t := by
  have hsplit : t = trimRight t ++ (t.reverse.takeWhile isBlank).reverse := by
    rw [trimRight, ← List.reverse_append, List.takeWhile_append_dropWhile, List.reverse_reverse]
  conv_rhs => rw [hsplit]
  exact (trim_append_right _ fun c hc => List.mem_takeWhile_imp (List.mem_reverse.1 hc)).symm

theorem mem_of_mem_trimRight {t : Text} {c : Char} (h : c ∈ trimRight t) : c ∈ t :=
  List.mem_reverse.1 (List.dropWhile_subset _ (List.mem_reverse.1 h))

theorem mem_of_mem_trim {t : Text} {c : Char} (h : c ∈ trim t) : c ∈ t :=
  List.dropWhile_subset _ (mem_of_mem_trimRight h)

/-- A text that starts with no blank is trimmed on the right alone. -/
theorem trim_of_stops {t : Text} (h : Stops isBlank t) : trim t = trimRight t := by
  rw [trim, skipBlanks_of_stops h]

/-- The first character that is no blank is the first one of the trimmed text. -/
theorem trim_append_cons {b : Text} {c : Char} (hb : ∀ d ∈ b, isBlank d) (hc : isBlank c = false)
    (t : Text) : trim (b ++ c :: t) = c :: trimRight t := by
  rw [trim_append_left _ hb, trim_of_stops (stops_cons.2 hc)]
  have hright : trimRight ([] ++ c :: t) = [] ++ c :: trimRight t := trimRight_append_cons t hc
  simpa using hright

/-- A text is trimmed if it neither starts nor ends with a blank. -/
theorem trim_eq_self_iff {t : Text} :
    trim t = t ↔ Stops isBlank t ∧ Stops isBlank t.reverse := by
  constructor
  · intro h
    have hright : (trimRight (skipBlanks t)).length ≤ (skipBlanks t).length := by
      simpa [trimRight] using List.length_dropWhile_le isBlank (skipBlanks t).reverse
    have hskip : skipBlanks t = t := by
      refine (List.dropWhile_suffix isBlank).eq_of_length_le ?_
      have hlen : (trim t).length = t.length := congrArg List.length h
      exact hlen.symm.le.trans hright
    refine ⟨hskip ▸ stops_dropWhile isBlank t, ?_⟩
    rw [trim, hskip] at h
    have hrev : t.reverse.dropWhile isBlank = t.reverse := by
      simpa [trimRight] using congrArg List.reverse h
    exact hrev ▸ stops_dropWhile isBlank t.reverse
  · rintro ⟨hl, hr⟩
    rw [trim_of_stops hl, trimRight, dropWhile_of_stops hr, List.reverse_reverse]

theorem trim_of_isName {w : Text} (h : IsName w) : trim w = w := by
  refine trim_eq_self_iff.2 ⟨by simpa using h.stops_isBlank [], fun c hc => ?_⟩
  exact isBlank_of_isWord (h.2 c (List.mem_reverse.1 (List.mem_of_mem_head? hc)))

theorem trimRight_isPrefix (t : Text) : trimRight t <+: t := by
  refine ⟨(t.reverse.takeWhile isBlank).reverse, ?_⟩
  rw [trimRight, ← List.reverse_append, List.takeWhile_append_dropWhile, List.reverse_reverse]

/-- The rest of a line starts, unless it is blank, right after the blanks. -/
theorem lineTail?_split {t found rest : Text} (h : lineTail? t = some (found, rest))
    (hsolid : trim found ≠ []) :
    ∃ gap body, t = gap ++ body ∧ gap ≠ [] ∧ (∀ c ∈ gap, isBlank c) ∧ trim found <+: body := by
  have hgap : ∀ c ∈ t.takeWhile isBlank, isBlank c := fun c hc => List.mem_takeWhile_imp hc
  unfold lineTail? at h
  split at h
  · cases h
  · next c more htake _ =>
    split at h
    · cases h
    · next b tail htail =>
      -- Only blanks are left, so that the text found is one of them.
      cases h
      have hb : isBlank b = true := by
        refine hgap b ?_
        rw [htake]
        have hmem : b ∈ more.reverse.dropWhile (· == '\n') := by rw [htail]; exact List.mem_cons_self
        exact List.mem_cons_of_mem _ (List.mem_reverse.1 (List.dropWhile_subset _ hmem))
      exact absurd (by simp [trim, skipBlanks, hb, trimRight]) hsolid
  · next hne _ =>
    cases h
    refine ⟨_, _, List.takeWhile_append_dropWhile.symm, hne, hgap, ?_⟩
    have hstops : Stops isBlank ((t.dropWhile isBlank).takeWhile (· != '\n')) := by
      have hdrop := stops_dropWhile isBlank t
      cases hrest : t.dropWhile isBlank with
      | nil => simp
      | cons c r =>
        rw [hrest, stops_cons] at hdrop
        by_cases hc : c = '\n' <;> simp [hc, hdrop]
    rw [trim_of_stops hstops]
    exact (trimRight_isPrefix _).trans (List.takeWhile_prefix _)

/-! Cutting a text that was joined from parts. -/

theorem pieces_of_none {p : Char → Bool} {w : Text} (hw : ∀ c ∈ w, p c = false) :
    pieces p w = [w] := by
  induction w with
  | nil => rfl
  | cons c w ih =>
    simp [pieces, hw c (by simp), ih fun d hd => hw d (by simp [hd])]

theorem pieces_append_cons {p : Char → Bool} {w : Text} {c : Char} (t : Text)
    (hw : ∀ c ∈ w, p c = false) (hc : p c = true) :
    pieces p (w ++ c :: t) = w :: pieces p t := by
  induction w with
  | nil => simp [pieces, hc]
  | cons d w ih =>
    simp [pieces, hw d (by simp), ih fun e he => hw e (by simp [he])]

theorem pieces_ne_nil (p : Char → Bool) (t : Text) : pieces p t ≠ [] := by
  cases t with
  | nil => simp [pieces]
  | cons c r =>
    rw [pieces]
    split
    · simp
    · split <;> simp

theorem eq_false_of_mem_pieces {p : Char → Bool} {t piece : Text} (h : piece ∈ pieces p t) :
    ∀ c ∈ piece, p c = false := by
  induction t generalizing piece with
  | nil =>
    rw [pieces, List.mem_singleton] at h
    simp [h]
  | cons d t ih =>
    obtain ⟨first, rest, hpieces⟩ := List.exists_cons_of_ne_nil (pieces_ne_nil p t)
    rw [hpieces] at ih
    rw [pieces, hpieces] at h
    cases hd : p d with
    | true =>
      rw [if_pos hd, List.mem_cons] at h
      rcases h with rfl | h
      · simp
      · exact ih h
    | false =>
      rw [if_neg (by simp [hd]), List.mem_cons] at h
      rcases h with rfl | h
      · exact List.forall_mem_cons.2 ⟨hd, ih List.mem_cons_self⟩
      · exact ih (List.mem_cons_of_mem _ h)

theorem pieces_joinWith {p : Char → Bool} {c : Char} {parts : List Text} (hne : parts ≠ [])
    (hc : p c = true) (hp : ∀ w ∈ parts, ∀ d ∈ w, p d = false) :
    pieces p (joinWith [c] parts) = parts := by
  unfold joinWith
  induction parts with
  | nil => exact absurd rfl hne
  | cons w parts ih =>
    have hw : ∀ d ∈ w, p d = false := hp w (by simp)
    cases parts with
    | nil => simpa using pieces_of_none hw
    | cons v parts =>
      rw [List.intercalate_cons_cons, List.append_assoc, List.singleton_append,
        pieces_append_cons _ hw hc, ih (by simp) fun u hu => hp u (by simp [hu])]

theorem joinWith_ne_nil {sep : Text} {parts : List Text} (hne : parts ≠ [])
    (hp : ∀ w ∈ parts, w ≠ []) : joinWith sep parts ≠ [] := by
  unfold joinWith
  cases parts with
  | nil => exact absurd rfl hne
  | cons w parts =>
    have hw := hp w (by simp)
    cases parts <;> simp [hw]

theorem mem_joinWith {sep : Text} {parts : List Text} {c : Char} (h : c ∈ joinWith sep parts) :
    c ∈ sep ∨ ∃ w ∈ parts, c ∈ w := by
  unfold joinWith at h
  induction parts with
  | nil => simp at h
  | cons w parts ih =>
    cases parts with
    | nil => exact Or.inr ⟨w, by simp, by simpa using h⟩
    | cons v parts =>
      rw [List.intercalate_cons_cons, List.append_assoc, List.mem_append, List.mem_append] at h
      rcases h with h | h | h
      · exact Or.inr ⟨w, by simp, h⟩
      · exact Or.inl h
      · exact (ih h).imp_right fun ⟨u, hu, hc⟩ => ⟨u, by simp [hu], hc⟩

/-- A joined text starts as its first part does. -/
theorem stops_joinWith {p : Char → Bool} {sep w : Text} {parts : List Text} (hne : w ≠ [])
    (hw : Stops p w) : Stops p (joinWith sep (w :: parts)) := by
  unfold joinWith
  cases parts with
  | nil => simpa using hw
  | cons v parts =>
    rw [List.intercalate_cons_cons, List.append_assoc, stops_append hne]
    exact hw

/-- A joined text ends as its last part does. -/
theorem stops_reverse_joinWith {p : Char → Bool} {sep : Text} {parts : List Text}
    (hp : ∀ w ∈ parts, w ≠ [] ∧ Stops p w.reverse) : Stops p (joinWith sep parts).reverse := by
  induction parts with
  | nil => simp [joinWith]
  | cons w parts ih =>
    cases parts with
    | nil => simpa [joinWith] using (hp w (by simp)).2
    | cons v parts =>
      have htail := ih fun u hu => hp u (by simp [hu])
      have hne : joinWith sep (v :: parts) ≠ [] :=
        joinWith_ne_nil (by simp) fun u hu => (hp u (by simp [hu])).1
      unfold joinWith at htail hne ⊢
      rw [List.intercalate_cons_cons, List.reverse_append, stops_append (by simpa using hne)]
      exact htail

/-- A text is one line, or its first line comes before a line feed. -/
theorem lines_cases (t : Text) :
    ('\n' ∉ t ∧ lines t = [t]) ∨
      ∃ u v, t = u ++ '\n' :: v ∧ '\n' ∉ u ∧ lines t = u :: lines v := by
  have hfeed : ∀ {w : Text}, '\n' ∉ w → ∀ c ∈ w, (c == '\n') = false := fun hw c hc => by
    simpa using fun he : c = '\n' => hw (he ▸ hc)
  by_cases h : '\n' ∈ t
  · obtain ⟨u, v, rfl, hu⟩ := List.eq_append_cons_of_mem h
    exact Or.inr ⟨u, v, rfl, hu, pieces_append_cons v (hfeed hu) rfl⟩
  · exact Or.inl ⟨h, pieces_of_none (hfeed h)⟩

theorem unlines_cons (line : Text) {more : List Text} (hne : more ≠ []) :
    unlines (line :: more) = line ++ '\n' :: unlines more := by
  obtain ⟨next, below, rfl⟩ := List.exists_cons_of_ne_nil hne
  rw [unlines, joinWith, List.intercalate_cons_cons, List.append_assoc, List.singleton_append]
  rfl

theorem lines_ne_nil (t : Text) : lines t ≠ [] := by
  rcases lines_cases t with ⟨-, h⟩ | ⟨_, _, -, -, h⟩ <;> simp [h]

theorem unlines_lines (t : Text) : unlines (lines t) = t := by
  induction hn : t.length using Nat.strong_induction_on generalizing t with
  | _ n ih =>
    rcases lines_cases t with ⟨-, hone⟩ | ⟨u, v, rfl, -, hmore⟩
    · rw [hone]
      simp [unlines, joinWith]
    · rw [hmore, unlines_cons u (lines_ne_nil v), ih v.length ?_ v rfl]
      rw [← hn, List.length_append, List.length_cons]
      omega

theorem notMem_of_mem_lines {t line : Text} (h : line ∈ lines t) : '\n' ∉ line := fun hfeed =>
  absurd (eq_false_of_mem_pieces h '\n' hfeed) (by decide)

/-- A line between the lines above it, each with its line feed, and those below. -/
theorem unlines_split (above below : List Text) (line : Text) :
    unlines (above ++ line :: below) =
      above.flatMap (· ++ ['\n']) ++ (line ++ below.flatMap ('\n' :: ·)) := by
  induction above with
  | nil =>
    induction below generalizing line with
    | nil => simp [unlines, joinWith]
    | cons next below ih =>
      have hnext : unlines (next :: below) = next ++ below.flatMap ('\n' :: ·) := ih next
      rw [List.nil_append, unlines_cons line (by simp), hnext]
      rfl
  | cons first above ih =>
    rw [List.cons_append, unlines_cons first (by simp), ih]
    simp

theorem lines_unlines {ls : List Text} (hne : ls ≠ []) (h : ∀ l ∈ ls, '\n' ∉ l) :
    lines (unlines ls) = ls :=
  pieces_joinWith hne rfl fun l hl c hc => by
    simpa using fun he : c = '\n' => h l hl (he ▸ hc)

theorem getLast?_endedLines (above : List Text) :
    ∀ c ∈ (above.flatMap (· ++ ['\n'])).getLast?, c = '\n' := by
  induction above with
  | nil => simp
  | cons l above ih =>
    intro c hc
    rw [List.flatMap_cons, List.getLast?_append] at hc
    cases hlast : (above.flatMap (· ++ ['\n'])).getLast? with
    | none => simpa [hlast, eq_comm] using hc
    | some d =>
      rw [hlast, Option.some_or] at hc
      exact ih c (hlast ▸ hc)

theorem count_endedLines {above : List Text} (h : ∀ l ∈ above, '\n' ∉ l) :
    (above.flatMap (· ++ ['\n'])).count '\n' = above.length := by
  induction above with
  | nil => rfl
  | cons l above ih =>
    rw [List.flatMap_cons, List.count_append, List.count_append, ih fun m hm => h m (by simp [hm]),
      List.count_eq_zero.2 (h l (by simp)), List.length_cons]
    simp [Nat.add_comm]

theorem head?_startedLines (below : List Text) :
    ∀ c ∈ (below.flatMap ('\n' :: ·)).head?, c = '\n' := by
  cases below <;> simp

/-- What holds no line feed stands on one of the lines. -/
theorem occursIn_iff_lines {part t : Text} (hne : part ≠ []) (hn : '\n' ∉ part) :
    occursIn part t = true ↔ ∃ line ∈ lines t, occursIn part line = true := by
  induction hlength : t.length using Nat.strong_induction_on generalizing t with
  | _ n ih =>
    rcases lines_cases t with ⟨-, hlines⟩ | ⟨u, v, rfl, -, hlines⟩
    · simp [hlines]
    · have hv := ih v.length (by simp at hlength; omega) rfl (t := v)
      rw [occursIn_append_cons hne hn, Bool.or_eq_true, hv, hlines]
      simp

/-- Lines that are ended by a line feed are read back, with an empty line after the last one. -/
theorem lines_flatMap {ls : List Text} (h : ∀ l ∈ ls, '\n' ∉ l) :
    lines (ls.flatMap (· ++ ['\n'])) = ls ++ [[]] := by
  unfold lines
  induction ls with
  | nil => rfl
  | cons l ls ih =>
    have hl : ∀ c ∈ l, (c == '\n') = false := fun c hc => by
      simpa using fun he : c = '\n' => h l (by simp) (he ▸ hc)
    have hcut := pieces_append_cons (ls.flatMap (· ++ ['\n'])) hl (show ('\n' == '\n') = true by rfl)
    rw [ih fun k hk => h k (by simp [hk])] at hcut
    simpa using hcut

/-- Names without blanks that are joined by spaces are read back. -/
theorem words_joinWith {names : List Text}
    (h : ∀ w ∈ names, w ≠ [] ∧ ∀ c ∈ w, isBlank c = false) :
    words (joinWith [' '] names) = names := by
  cases names with
  | nil => rfl
  | cons w names =>
    unfold words
    rw [pieces_joinWith (by simp) (by rfl) fun v hv => (h v hv).2]
    exact List.filter_eq_self.2 fun v hv => by simpa using (h v hv).1

/-- Trimmed names without commas that are joined by a comma and a space are read back. -/
theorem commaParts_joinWith {names : List Text} (hne : names ≠ [])
    (h : ∀ w ∈ names, trim w = w ∧ ',' ∉ w) :
    commaParts (joinWith [',', ' '] names) = names := by
  have hcomma : ∀ w ∈ names, ∀ c ∈ w, (c == ',') = false := fun w hw c hc => by
    simpa using fun he : c = ',' => (h w hw).2 (he ▸ hc)
  -- All parts but the first one keep the space before them, which `trim` removes.
  have hpieces : ∀ (w : Text) (rest : List Text), w ∈ names → (∀ v ∈ rest, v ∈ names) →
      pieces (· == ',') (joinWith [',', ' '] (w :: rest)) = w :: rest.map (' ' :: ·) := by
    intro w rest hw hrest
    induction rest generalizing w with
    | nil => simpa [joinWith] using pieces_of_none (hcomma w hw)
    | cons v rest ih =>
      have hv : v ∈ names := hrest v (by simp)
      have htail := ih v hv fun u hu => hrest u (by simp [hu])
      unfold joinWith at htail ⊢
      rw [List.intercalate_cons_cons, List.append_assoc, List.cons_append, List.cons_append,
        List.nil_append, pieces_append_cons _ (hcomma w hw) (by rfl)]
      simp [pieces, htail]
  cases names with
  | nil => exact absurd rfl hne
  | cons w names =>
    have htrim : ∀ v ∈ names, trim (' ' :: v) = v := fun v hv =>
      (trim_space v).trans (h v (by simp [hv])).1
    unfold commaParts
    rw [hpieces w names (by simp) (by simp +contextual), List.map_cons, (h w (by simp)).1,
      List.map_map]
    congr 1
    exact (List.map_congr_left htrim).trans (List.map_id' names)

/-! Numbers as they are written. -/

theorem ofNat_injective : Function.Injective ofNat :=
  Function.LeftInverse.injective (g := fun t => Nat.ofDigitChars 10 t 0) fun _ =>
    Nat.ofDigitChars_ten_toDigits

theorem notMem_ofNat {c : Char} (hc : c.isDigit = false) (n : Nat) : c ∉ ofNat n := by
  intro hmem
  have hdigit : c.isDigit = true := Nat.isDigit_of_mem_toDigits (by decide) (by decide) hmem
  rw [hc] at hdigit
  cases hdigit

end SolInterface.Text
