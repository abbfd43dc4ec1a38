import SolInterface.Proofs.Text
import SolInterface.Source.Member

/-!
What the readers of events, errors and variables find in a text that was put together from known
parts. All three start at the start of a word, and what they read is announced: by the word itself
before a parenthesis, or by one of a few characters that ends a run of words and blanks.
-/
namespace SolInterface.Text

/-- The reader finds nothing but at the start of a word. Where it finds something, the first
character that is no plain one is in the class `ends`, or it is an opening parenthesis and the word
is `key`. -/
structure WordLed {α : Type} (read : Bool → Text → Option (α × Text)) (key : Text)
    (ends : Char → Bool) : Prop where
  inWord : ∀ t, read true t = none
  stops : ∀ {b t}, Stops isWord t → read b t = none
  announced : ∀ {b t x}, read b t = some x →
    (∃ c r, t.dropWhile isPlain = c :: r ∧ ends c = true) ∨
      ∃ r, t.dropWhile isPlain = '(' :: r ∧ t.takeWhile isWord = key

variable {α : Type} {read : Bool → Text → Option (α × Text)} {key : Text} {ends : Char → Bool}

theorem ends_eq_false (he : ∀ c, ends c = true → c = '=' ∨ c = ';') {c : Char} (heq : c ≠ '=')
    (hsemi : c ≠ ';') : ends c = false := by
  by_contra hc
  rcases he c (by simpa using hc) with rfl | rfl
  · exact heq rfl
  · exact hsemi rfl

theorem occurrencesFrom_none {b : Bool} {n : Nat} {c : Char} {t : Text}
    (h : read b (c :: t) = none) :
    occurrencesFrom read 0 b n (c :: t) =
      occurrencesFrom read 0 (isWord c) (if c = '\n' then n + 1 else n) t := by
  rw [occurrencesFrom, h]

namespace WordLed

theorem occurrencesFrom_newline (h : WordLed read key ends) (b : Bool) (n : Nat) (t : Text) :
    occurrencesFrom read 0 b n ('\n' :: t) = occurrencesFrom read 0 false (n + 1) t :=
  occurrencesFrom_none (h.stops (stops_cons.2 rfl))

/-- A character that separates words is passed. -/
theorem occurrencesFrom_separator (h : WordLed read key ends) {c : Char} (hc : isWord c = false)
    (hn : c ≠ '\n') (b : Bool) (n : Nat) (t : Text) :
    occurrencesFrom read 0 b n (c :: t) = occurrencesFrom read 0 false n t := by
  rw [occurrencesFrom_none (h.stops (stops_cons.2 hc)), hc, if_neg hn]

theorem occurrencesFrom_inWord (h : WordLed read key ends) {w : Text} (hw : ∀ c ∈ w, isWord c)
    (n : Nat) (t : Text) :
    occurrencesFrom read 0 true n (w ++ t) = occurrencesFrom read 0 true n t := by
  induction w with
  | nil => rfl
  | cons c w ih =>
    have hc : isWord c = true := hw c (by simp)
    have hn : c ≠ '\n' := by
      rintro rfl
      exact absurd hc (by decide)
    rw [List.cons_append, occurrencesFrom_none (h.inWord _), hc, if_neg hn,
      ih fun d hd => hw d (by simp [hd])]

/-- A word at which nothing is found is passed as a whole. -/
theorem occurrencesFrom_word (h : WordLed read key ends) {w t : Text} (hw : IsName w)
    (hnone : read false (w ++ t) = none) (n : Nat) :
    occurrencesFrom read 0 false n (w ++ t) = occurrencesFrom read 0 true n t := by
  obtain ⟨hne, hw⟩ := hw
  cases w with
  | nil => exact absurd rfl hne
  | cons c w =>
    have hc : isWord c = true := hw c (by simp)
    have hn : c ≠ '\n' := by
      rintro rfl
      exact absurd hc (by decide)
    rw [List.cons_append] at hnone ⊢
    rw [occurrencesFrom_none hnone, hc, if_neg hn,
      h.occurrencesFrom_inWord fun d hd => hw d (by simp [hd])]

/-- Nothing is found at a word if the next character that is no plain one is not in `ends`, unless
it is a parenthesis and the word is `key`. -/
theorem read_eq_none (h : WordLed read key ends) {w t r : Text} {c : Char} (hc : ends c = false)
    (hw : IsName w) (hkey : c = '(' → w ≠ key) (ht : Stops isWord t)
    (hr : t.dropWhile isPlain = c :: r) (b : Bool) : read b (w ++ t) = none := by
  have hplain : (w ++ t).dropWhile isPlain = c :: r := by
    rw [List.dropWhile_append_of_pos fun c hc => by simp [isPlain, hw.2 c hc], hr]
  cases hx : read b (w ++ t) with
  | none => rfl
  | some x =>
    exfalso
    rcases h.announced hx with ⟨d, s, hd, hends⟩ | ⟨s, hs, htake⟩
    · obtain ⟨rfl, -⟩ := List.cons.inj (hplain.symm.trans hd)
      rw [hc] at hends
      cases hends
    · obtain ⟨rfl, -⟩ := List.cons.inj (hplain.symm.trans hs)
      rw [takeWhile_run hw.2 ht] at htake
      exact hkey rfl htake

end WordLed

theorem dropWhile_isPlain_append {u t r : Text} {c d : Char} (hc : isPlain c = false)
    (h : (u ++ c :: t).dropWhile isPlain = d :: r) : d ∈ u ∨ d = c := by
  rw [List.dropWhile_append] at h
  split at h
  · rw [dropWhile_of_stops (stops_cons.2 hc)] at h
    exact Or.inr (List.cons.inj h).1.symm
  · have hd : d ∈ u.dropWhile isPlain ++ c :: t := h ▸ List.mem_cons_self
    left
    cases hdrop : u.dropWhile isPlain with
    | nil => simp_all
    | cons e s =>
      rw [hdrop, List.cons_append] at h
      obtain ⟨rfl, -⟩ := List.cons.inj h
      exact List.dropWhile_subset _ (hdrop ▸ List.mem_cons_self)

/-- Text in which no parenthesis and no character of `ends` stands is passed, up to the next
character that is no plain one. -/
theorem WordLed.occurrencesFrom_bounded (h : WordLed read key ends) {u : Text} {c : Char}
    (hu : ∀ d ∈ u, ends d = false ∧ d ≠ '(') (hc : ends c = false ∧ c ≠ '(')
    (hplain : isPlain c = false) (b : Bool) (n : Nat) (t : Text) :
    occurrencesFrom read 0 b n (u ++ c :: t) =
      occurrencesFrom read 0 false (n + u.count '\n') t := by
  have hnone : ∀ v : Text, (∀ d ∈ v, ends d = false ∧ d ≠ '(') → ∀ b,
      read b (v ++ c :: t) = none := by
    intro v hv b
    cases hx : read b (v ++ c :: t) with
    | none => rfl
    | some x =>
      exfalso
      have hlast : ∀ d r, (v ++ c :: t).dropWhile isPlain = d :: r → ends d = false ∧ d ≠ '(' := by
        intro d r hd
        rcases dropWhile_isPlain_append hplain hd with hd | rfl
        · exact hv d hd
        · exact hc
      rcases h.announced hx with ⟨d, r, hd, hends⟩ | ⟨r, hr, -⟩
      · rw [(hlast d r hd).1] at hends
        cases hends
      · exact (hlast '(' r hr).2 rfl
  induction u generalizing b n with
  | nil =>
    have hword : isWord c = false := by
      simp only [isPlain, Bool.or_eq_false_iff] at hplain
      exact hplain.1
    have hn : c ≠ '\n' := by
      rintro rfl
      exact absurd hplain (by decide)
    rw [List.nil_append, occurrencesFrom_none (hnone [] (by simp) b), hword, if_neg hn]
    rfl
  | cons d u ih =>
    have hfirst := hnone (d :: u) hu b
    rw [List.cons_append] at hfirst ⊢
    rw [occurrencesFrom_none hfirst, ih fun e he => hu e (by simp [he])]
    by_cases hd : d = '\n'
    · have hcount : n + 1 + u.count '\n' = n + (d :: u).count '\n' := by
        rw [hd, List.count_cons_self]
        omega
      rw [if_pos hd, hcount]
    · rw [if_neg hd, List.count_cons_of_ne hd]

/-- The rest of what was found is passed without looking at it. -/
theorem occurrencesFrom_skip {v : Text} {c : Char} (hv : '\n' ∉ v) (hc : c ≠ '\n') (b : Bool)
    (n : Nat) (t : Text) :
    occurrencesFrom read (v.length + 1) b n (v ++ c :: t) =
      occurrencesFrom read 0 (isWord c) n t := by
  induction v generalizing b with
  | nil =>
    rw [List.length_nil, List.nil_append, occurrencesFrom, if_neg hc]
  | cons d v ih =>
    obtain ⟨hd, hv⟩ := not_or.1 (mt List.mem_cons.2 hv)
    rw [List.length_cons, List.cons_append, occurrencesFrom, if_neg (Ne.symm hd), ih hv]

/-- A find within a line is listed with its text, and the search goes on after it. -/
theorem occurrencesFrom_found {a : α} {v t : Text} {c : Char} {b : Bool} {n : Nat} (hv : '\n' ∉ v)
    (hc : c ≠ '\n') (h : read b (v ++ c :: t) = some (a, t)) :
    occurrencesFrom read 0 b n (v ++ c :: t) =
      ⟨n, v ++ [c], a⟩ :: occurrencesFrom read 0 (isWord c) n t := by
  cases v with
  | nil =>
    rw [List.nil_append] at h ⊢
    rw [occurrencesFrom, h, if_neg hc]
    simp
  | cons d v =>
    obtain ⟨hd, hv⟩ := not_or.1 (mt List.mem_cons.2 hv)
    have hused : (v ++ c :: t).length + 1 - t.length = v.length + 1 + 1 := by
      rw [List.length_append, List.length_cons]
      omega
    have htake : (d :: (v ++ c :: t)).take (v.length + 1 + 1) = d :: v ++ [c] := by
      simp [List.take_append, List.take_of_length_le]
    rw [List.cons_append] at h ⊢
    rw [occurrencesFrom, h, if_neg (Ne.symm hd)]
    simp only [hused, htake, Nat.add_sub_cancel]
    rw [occurrencesFrom_skip hv hc]

theorem line_count_cons (n : Nat) (c : Char) (t : Text) :
    n + (c :: t).count '\n' = (if c = '\n' then n + 1 else n) + t.count '\n' := by
  rw [List.count_cons]
  by_cases hc : c = '\n'
  · simp only [hc, beq_self_eq_true, if_true]
    omega
  · simp only [hc, beq_iff_eq, if_false, Nat.add_zero]

/-- What is found stands on one of the lines that are read. -/
theorem line_of_mem_occurrencesFrom {α : Type} {read : Bool → Text → Option (α × Text)} {skip : Nat}
    {b : Bool} {n : Nat} {t : Text} {o : Occurrence α} (h : o ∈ occurrencesFrom read skip b n t) :
    n ≤ o.line ∧ o.line ≤ n + t.count '\n' := by
  induction t generalizing skip b n with
  | nil => simp [occurrencesFrom] at h
  | cons c t ih =>
    have hnext : ∀ {skip : Nat} {b : Bool},
        o ∈ occurrencesFrom read skip b (if c = '\n' then n + 1 else n) t →
          n ≤ o.line ∧ o.line ≤ n + (c :: t).count '\n' := by
      intro skip b ho
      have hline := ih ho
      have hnext : n ≤ if c = '\n' then n + 1 else n := by
        split <;> omega
      rw [line_count_cons]
      omega
    cases skip with
    | succ skip => exact hnext h
    | zero =>
      rw [occurrencesFrom] at h
      split at h
      · rcases List.mem_cons.1 h with rfl | h
        · exact ⟨le_refl n, Nat.le_add_right n _⟩
        · exact hnext h
      · exact hnext h

/-! Where a word starts with a keyword. -/

theorem after?_eq_none_of_stops {c : Char} {lead t : Text} (hc : isWord c = true)
    (ht : Stops isWord t) : after? (c :: lead) t = none := by
  cases t with
  | nil => rfl
  | cons d t =>
    have hcd : c ≠ d := by
      rintro rfl
      rw [stops_cons.1 ht] at hc
      cases hc
    rw [after?, if_neg hcd]

end SolInterface.Text

namespace SolInterface.Notice
open Text

theorem read?_eq_some {keyword t name params rest : Text} {b : Bool}
    (h : read? keyword b t = some ((name, params), rest)) :
    b = false ∧ ∃ gap gap' tail : Text, t = keyword ++ (gap ++ (name ++ (gap' ++ '(' :: tail))) ∧
      gap ≠ [] ∧ (∀ c ∈ gap, isBlank c) ∧ IsName name ∧ ∀ c ∈ gap', isBlank c := by
  cases b with
  | true => cases h
  | false =>
    simp only [read?, Bool.false_eq_true, if_false, Option.bind_eq_bind,
      Option.bind_eq_some_iff] at h
    obtain ⟨_, hkey, _, hgap, ⟨_, more⟩, hname, ⟨_, _⟩, hparams, _, -, he⟩ := h
    obtain ⟨gap, rfl, hne, hblank, -⟩ := blanks?_eq_some.1 hgap
    obtain ⟨rfl, hn, hw, -⟩ := word?_eq_some.1 hname
    obtain ⟨gap', hmore, hblank'⟩ := skipBlanks_split more
    obtain ⟨hparen, -⟩ := parenthesised?_eq_some.1 hparams
    cases he
    rw [hparen] at hmore
    exact ⟨rfl, gap, gap', _, by rw [after?_eq_some.1 hkey, ← hmore], hne, hblank, ⟨hn, hw⟩, hblank'⟩

theorem wordLed {keyword : Text} (hk : IsName keyword) :
    WordLed (read? keyword) keyword fun _ => false where
  inWord t := rfl
  stops {b t} ht := by
    obtain ⟨hne, hword⟩ := hk
    cases keyword with
    | nil => exact absurd rfl hne
    | cons c keyword =>
      cases b with
      | true => rfl
      | false => simp [read?, after?_eq_none_of_stops (hword c (by simp)) ht]
  announced {b t x} hx := by
    obtain ⟨⟨name, params⟩, rest⟩ := x
    obtain ⟨-, gap, gap', tail, rfl, hne, hblank, hn, hblank'⟩ := read?_eq_some hx
    have hplain : ∀ c ∈ keyword ++ gap ++ name ++ gap', isPlain c := by
      intro c hc
      simp only [List.mem_append] at hc
      rcases hc with ((hc | hc) | hc) | hc
      · simp [isPlain, hk.2 c hc]
      · simp [isPlain, hblank c hc]
      · simp [isPlain, hn.2 c hc]
      · simp [isPlain, hblank' c hc]
    have hstop : Stops isWord (gap ++ (name ++ (gap' ++ '(' :: tail))) := by
      rw [stops_append hne]
      intro c hc
      exact isWord_of_isBlank (hblank c (List.mem_of_mem_head? hc))
    refine Or.inr ⟨tail, ?_, takeWhile_run hk.2 hstop⟩
    have hdrop := dropWhile_run hplain (show Stops isPlain ('(' :: tail) from stops_cons.2 rfl)
    simpa using hdrop

/-- A declaration as it is usually written is read as a whole. -/
theorem read?_declaration {keyword name params : Text} (hn : IsName name) (hp : ')' ∉ params)
    (t : Text) :
    read? keyword false (keyword ++ ' ' :: (name ++ '(' :: (params ++ ')' :: ';' :: t))) =
      some ((name, params), t) := by
  have hname : word? (name ++ '(' :: (params ++ ')' :: ';' :: t)) =
      some (name, '(' :: (params ++ ')' :: ';' :: t)) := hn.word?_append (stops_cons.2 rfl)
  have hopen : skipBlanks ('(' :: (params ++ ')' :: ';' :: t)) =
      '(' :: (params ++ ')' :: ';' :: t) := rfl
  have hclose : after? [';'] (skipBlanks (';' :: t)) = some t := rfl
  simp [read?, skipBlanks_of_stops (hn.stops_isBlank _), hname, hopen,
    parenthesised?_append _ hp, hclose]

end SolInterface.Notice

namespace SolInterface.Variable
open Text

/-- One pass over ranges in increasing order finds for each part the range it lies in. -/
theorem exists_of_foldl_dropWhile {α β : Type} {within : β → α → Bool} {ranges : List β}
    {parts : List α} (h : ranges.foldl (fun rest s => rest.dropWhile (within s)) parts = [])
    {r : α} (hr : r ∈ parts) : ∃ s ∈ ranges, within s r = true := by
  induction ranges generalizing parts with
  | nil =>
    rw [show parts = [] from h] at hr
    cases hr
  | cons s ranges ih =>
    rw [← List.takeWhile_append_dropWhile (p := within s) (l := parts), List.mem_append] at hr
    rcases hr with htake | hdrop
    · exact ⟨s, List.mem_cons_self, List.mem_takeWhile_imp htake⟩
    · obtain ⟨s', hs', hwithin⟩ := ih h hdrop
      exact ⟨s', List.mem_cons_of_mem _ hs', hwithin⟩

theorem digitRanges_within_wordRanges : wordRanges.foldl (fun rest s =>
    rest.dropWhile fun r => Nat.ble s.1 r.1 && Nat.ble r.2 s.2) digitRanges = [] := by
  decide +kernel

theorem isWord_of_isDigit {c : Char} (h : isDigit c = true) : isWord c = true := by
  unfold isDigit at h
  unfold isWord
  by_cases hc : c.toNat < 128
  · rw [if_pos hc] at h ⊢
    simp [Char.isAlphanum, h]
  · rw [if_neg hc] at h ⊢
    obtain ⟨r, hr, hin⟩ := List.any_eq_true.1 h
    obtain ⟨s, hs, hle⟩ := exists_of_foldl_dropWhile digitRanges_within_wordRanges hr
    refine List.any_eq_true.2 ⟨s, hs, ?_⟩
    simp only [Bool.and_eq_true, Nat.ble_eq, decide_eq_true_eq] at hin hle ⊢
    omega

theorem sized?_eq_some {stem t type rest : Text} (hs : IsName stem)
    (h : sized? stem t = some (type, rest)) : IsName type ∧ t = type ++ rest := by
  simp only [sized?, Option.bind_eq_bind, Option.bind_eq_some_iff, Option.some.injEq,
    Prod.mk.injEq] at h
  obtain ⟨more, hmore, rfl, rfl⟩ := h
  refine ⟨⟨by simp [hs.1], fun c hc => ?_⟩, ?_⟩
  · rcases List.mem_append.1 hc with hc | hc
    · exact hs.2 c hc
    · exact isWord_of_isDigit (List.mem_takeWhile_imp hc)
  · rw [after?_eq_some.1 hmore, List.append_assoc, List.takeWhile_append_dropWhile]

theorem plain?_eq_some {name t type rest : Text} (hn : IsName name)
    (h : plain? name t = some (type, rest)) : IsName type ∧ t = type ++ rest := by
  simp only [plain?, Option.map_eq_some_iff, Prod.mk.injEq] at h
  obtain ⟨more, hmore, rfl, rfl⟩ := h
  exact ⟨hn, after?_eq_some.1 hmore⟩

theorem mapping?_eq_some {t type rest : Text} (h : mapping? t = some (type, rest)) :
    t = type ++ rest ∧ ∃ tail, t = "mapping".toList ++ '(' :: tail := by
  simp only [mapping?, Option.bind_eq_bind, Option.bind_eq_some_iff] at h
  obtain ⟨more, hmore, ⟨inside, rest'⟩, hparen, hfound⟩ := h
  have htext := after?_eq_some.1 hmore
  rw [(parenthesised?_eq_some.1 hparen).1] at htext
  dsimp only at hfound
  split at hfound
  · cases hfound
  · obtain ⟨rfl, rfl⟩ := Prod.mk.inj (Option.some.inj hfound)
    exact ⟨by simp [htext, Text.cat], _, htext⟩

/-- A type is a word, or else `mapping` and a parenthesis. -/
theorem type?_eq_some {t type rest : Text} (h : type? t = some (type, rest)) :
    t = type ++ rest ∧ (IsName type ∨ ∃ tail, t = "mapping".toList ++ '(' :: tail) := by
  have hname : ∀ {t type rest : Text}, IsName type ∧ t = type ++ rest →
      t = type ++ rest ∧ (IsName type ∨ ∃ tail, t = "mapping".toList ++ '(' :: tail) :=
    fun h => ⟨h.2, .inl h.1⟩
  simp only [type?, Option.orElse_eq_orElse, Option.orElse_eq_or, Option.or_eq_some_iff] at h
  rcases h with h | ⟨-, h | ⟨-, h | ⟨-, h | ⟨-, h | ⟨-, h | ⟨-, h⟩⟩⟩⟩⟩⟩
  · exact hname (sized?_eq_some (by decide) h)
  · exact hname (sized?_eq_some (by decide) h)
  · exact hname (plain?_eq_some (by decide) h)
  · exact hname (plain?_eq_some (by decide) h)
  · exact hname (plain?_eq_some (by decide) h)
  · exact hname (sized?_eq_some (by decide) h)
  · exact ⟨(mapping?_eq_some h).1, .inr (mapping?_eq_some h).2⟩

def Closes (t : Text) : Prop := ∃ c r, t.dropWhile isPlain = c :: r ∧ (c == '=' || c == ';') = true

theorem Closes.append {u t : Text} (h : Closes t) (hu : ∀ c ∈ u, isPlain c) : Closes (u ++ t) := by
  obtain ⟨c, r, hdrop, hc⟩ := h
  exact ⟨c, r, by rw [List.dropWhile_append_of_pos hu, hdrop], hc⟩

theorem closes_of_skipBlanks {t : Text} (h : Closes (skipBlanks t)) : Closes t := by
  obtain ⟨gap, ht, hblank⟩ := skipBlanks_split t
  rw [ht]
  exact h.append fun c hc => by simp [isPlain, hblank c hc]

theorem closes_of_named? {t : Text} {x : Text × Text} (h : named? t = some x) : Closes t := by
  simp only [named?, Option.bind_eq_bind, Option.bind_eq_some_iff] at h
  obtain ⟨⟨name, rest⟩, hname, hend⟩ := h
  obtain ⟨rfl, -, hw, -⟩ := word?_eq_some.1 hname
  refine Closes.append (closes_of_skipBlanks ?_) fun c hc => by simp [isPlain, hw c hc]
  split at hend
  · next c more heq =>
    split at hend
    · next hc =>
      refine ⟨c, more, ?_, hc⟩
      have hplain : isPlain c = false := by
        simp only [Bool.or_eq_true, beq_iff_eq] at hc
        rcases hc with rfl | rfl <;> rfl
      rw [heq]
      exact dropWhile_of_stops (stops_cons.2 hplain)
    · cases hend
  · cases hend

theorem closes_of_keyword {β : Type} {options : List (Text × β)} {a : β} {t rest : Text}
    (ho : ∀ o ∈ options, ∀ c ∈ o.1, isPlain c) (h : oneOf? options t = some (a, rest))
    (hc : Closes (skipBlanks rest)) : Closes t := by
  obtain ⟨key, hkey, rfl⟩ := oneOf?_eq_some h
  exact (closes_of_skipBlanks hc).append (ho _ hkey)

theorem closes_of_constantNamed? {t : Text} {x : (Bool × Text) × Text}
    (h : constantNamed? t = some x) : Closes t := by
  unfold constantNamed? at h
  cases hkey : oneOf? constancies t with
  | none =>
    simp only [hkey, Option.map_eq_some_iff] at h
    obtain ⟨found, hfound, -⟩ := h
    exact closes_of_named? hfound
  | some found =>
    simp only [hkey, Option.orElse_eq_orElse, Option.orElse_eq_or, Option.or_eq_some_iff,
      Option.map_eq_some_iff] at h
    rcases h with ⟨_, hnamed, -⟩ | ⟨-, _, hnamed, -⟩
    · exact closes_of_keyword (by decide) hkey (closes_of_named? hnamed)
    · exact closes_of_named? hnamed

theorem Parts.closes_of_read? {b : Bool} {t : Text} {x : Parts × Text} (h : read? b t = some x) :
    Closes t ∨ ∃ tail, t = "mapping".toList ++ '(' :: tail := by
  cases b with
  | true => cases h
  | false =>
    simp only [read?, Bool.false_eq_true, if_false, Option.bind_eq_bind,
      Option.bind_eq_some_iff] at h
    obtain ⟨⟨type, rest⟩, htype, more, hgap, hfound⟩ := h
    obtain ⟨rfl, hname | hmapping⟩ := type?_eq_some htype
    · obtain ⟨gap, rfl, -, hblank, -⟩ := blanks?_eq_some.1 hgap
      have hmore : Closes more := by
        cases hkey : oneOf? visibilities more with
        | none =>
          simp only [hkey, Option.map_eq_some_iff] at hfound
          obtain ⟨_, hnamed, -⟩ := hfound
          exact closes_of_constantNamed? hnamed
        | some found =>
          simp only [hkey, Option.orElse_eq_orElse, Option.orElse_eq_or, Option.or_eq_some_iff,
            Option.map_eq_some_iff] at hfound
          rcases hfound with ⟨_, hnamed, -⟩ | ⟨-, _, hnamed, -⟩
          · exact closes_of_keyword (by decide) hkey (closes_of_constantNamed? hnamed)
          · exact closes_of_constantNamed? hnamed
      refine Or.inl (Closes.append (hmore.append fun c hc => ?_) fun c hc => ?_)
      · simp [isPlain, hblank c hc]
      · simp [isPlain, hname.2 c hc]
    · exact Or.inr hmapping

theorem type?_eq_none {t : Text} (ht : Stops isWord t) : type? t = none := by
  cases h : type? t with
  | none => rfl
  | some x =>
    obtain ⟨type, rest⟩ := x
    exfalso
    obtain ⟨rfl, ⟨hne, hw⟩ | ⟨tail, hmapping⟩⟩ := type?_eq_some h
    · rw [stops_append hne] at ht
      cases type with
      | nil => exact hne rfl
      | cons c type =>
        have hc : isWord c = true := hw c (by simp)
        rw [stops_cons.1 ht] at hc
        cases hc
    · rw [hmapping] at ht
      exact absurd (stops_cons.1 ht) (by decide)

theorem Parts.wordLed : WordLed read? "mapping" fun c => c == '=' || c == ';' where
  inWord t := rfl
  stops {b t} ht := by
    cases b with
    | true => rfl
    | false => simp [read?, type?_eq_none ht]
  announced {b t x} hx := by
    rcases closes_of_read? hx with hcloses | ⟨tail, rfl⟩
    · exact Or.inl hcloses
    · exact Or.inr ⟨tail, rfl, rfl⟩

def immutability (isImmutable : Bool) : Text := if isImmutable then "immutable " else []

theorem constantNamed?_declared {name : Text} (hn : IsName name)
    (hfree : oneOf? constancies name = none) (isImmutable : Bool) (t : Text) :
    constantNamed? (skipBlanks (immutability isImmutable ++ (name ++ ';' :: t))) =
      some ((isImmutable, name), t) := by
  have hnamed : named? (name ++ ';' :: t) = some (name, t) := by
    simp only [named?, hn.word?_append (show Stops isWord (';' :: t) from stops_cons.2 rfl)]
    rfl
  have hskip : skipBlanks (name ++ ';' :: t) = name ++ ';' :: t :=
    skipBlanks_of_stops (hn.stops_isBlank _)
  cases isImmutable with
  | false =>
    have hnone : oneOf? constancies (name ++ ';' :: t) = none := by
      rw [oneOf?_append_cons (by decide), hfree, Option.map_none]
    rw [show immutability false = [] from rfl, List.nil_append, hskip]
    simp [constantNamed?, hnone, hnamed]
  | true =>
    have hstart : skipBlanks (immutability true ++ (name ++ ';' :: t)) =
        immutability true ++ (name ++ ';' :: t) := rfl
    have hsome : oneOf? constancies (immutability true ++ (name ++ ';' :: t)) =
        some ((), ' ' :: (name ++ ';' :: t)) := rfl
    rw [hstart, constantNamed?, hsome]
    simp [hskip, hnamed]

/-- A declaration as it is usually written is read as a whole. -/
theorem Parts.read?_declaration {type declared name t : Text} {v : Visibility} {isConstant : Bool}
    (htype : ∀ t, type? (type ++ ' ' :: t) = some (type, ' ' :: t)) (hv : v ≠ .ext)
    (hdeclared : constantNamed? (skipBlanks declared) = some ((isConstant, name), t)) :
    read? false (type ++ ' ' :: (v.keyword ++ ' ' :: declared)) =
      some (⟨type, some v, isConstant, name⟩, t) := by
  have hvisible : oneOf? visibilities (skipBlanks (v.keyword ++ ' ' :: declared)) =
      some (v, ' ' :: declared) := by
    cases v with
    | ext => exact absurd rfl hv
    | pub => rfl
    | intern => rfl
    | priv => rfl
  simp only [read?, Bool.false_eq_true, if_false, htype, Option.bind_eq_bind, Option.bind_some,
    blanks?_space]
  rw [hvisible]
  simp [hdeclared]

/-- A mapping type is read as a whole. -/
theorem type?_mapping {inside : Text} (hne : inside ≠ []) (hno : ')' ∉ inside) (t : Text) :
    type? ("mapping(" ++ inside ++ ')' :: t) = some ("mapping(" ++ inside ++ [')'], t) := by
  have hmapping : mapping? ("mapping(" ++ inside ++ ')' :: t) =
      some ("mapping(" ++ inside ++ [')'], t) := by
    have hlead : after? "mapping" ("mapping(".toList ++ inside ++ ')' :: t) =
        some ('(' :: (inside ++ ')' :: t)) := by
      simp [after?]
    simp only [mapping?, hlead, Option.bind_eq_bind, Option.bind_some, parenthesised?_append t hno]
    simp [hne, Text.cat]
  rw [← hmapping]
  rfl

end SolInterface.Variable
