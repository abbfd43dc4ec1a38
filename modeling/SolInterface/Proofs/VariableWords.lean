import SolInterface.Proofs.ReaderLocality
import SolInterface.Proofs.SpecifierOrder

/-!
The words of a variable's declaration. Behind the type a visibility is looked for and then a
constancy, and each is also taken where it is only the start of a word; the rest of the word is then
the next part. The parts of a record are therefore the words of its declaration exactly if none of
the keywords has more of a word behind it at the place where it is looked for.
-/
namespace SolInterface.Text

theorem stops_isWord_append {gap t : Text} (hgap : ∀ c ∈ gap, isBlank c) (ht : Stops isWord t) :
    Stops isWord (gap ++ t) := by
  cases gap with
  | nil => exact ht
  | cons c gap => exact stops_cons.2 (isWord_of_isBlank (hgap c List.mem_cons_self))

/-- What is found stands in the text, and it was read there. -/
theorem exists_split_of_mem_occurrencesFrom {α : Type} {read : Bool → Text → Option (α × Text)}
    (hread : ∀ b, Local (read b)) {skip line : Nat} {b : Bool} {t : Text} {o : Occurrence α}
    (h : o ∈ occurrencesFrom read skip b line t) :
    ∃ before rest, t = before ++ (o.text ++ rest) ∧
      read ((before.getLast?.map isWord).getD b) (o.text ++ rest) = some (o.value, rest) := by
  induction t generalizing skip b line with
  | nil => simp [occurrencesFrom] at h
  | cons c t ih =>
    have hlater : ∀ {skip line : Nat}, o ∈ occurrencesFrom read skip (isWord c) line t →
        ∃ before rest, c :: t = before ++ (o.text ++ rest) ∧
          read ((before.getLast?.map isWord).getD b) (o.text ++ rest) = some (o.value, rest) := by
      intro skip line ho
      obtain ⟨before, rest, rfl, hfound⟩ := ih ho
      refine ⟨c :: before, rest, rfl, ?_⟩
      rw [← hfound, List.getLast?_cons]
      cases before.getLast? <;> rfl
    cases skip with
    | succ skip => exact hlater h
    | zero =>
      cases hfound : read b (c :: t) with
      | none =>
        rw [occurrencesFrom_none hfound] at h
        exact hlater h
      | some found =>
        obtain ⟨a, rest⟩ := found
        obtain ⟨m, hm, -⟩ := (hread b).split hfound
        rw [occurrencesFrom_some hfound hm] at h
        rcases List.mem_cons.1 h with rfl | h
        · exact ⟨[], rest, hm, by rw [← hm]; exact hfound⟩
        · exact hlater h

end SolInterface.Text

namespace SolInterface.Variable
open Text

/-! Declarations word by word. -/

/-- What stands behind a type: words, each with blanks before it, and the sign that ends the
declaration. -/
inductive Worded : List Text → Text → Prop where
  | ending {gap : Text} {sign : Char} (hgap : ∀ c ∈ gap, isBlank c)
      (hsign : sign = '=' ∨ sign = ';') : Worded [] (gap ++ [sign])
  | word {gap w t : Text} {ws : List Text} (hne : gap ≠ []) (hgap : ∀ c ∈ gap, isBlank c)
      (hw : IsName w) (h : Worded ws t) : Worded (w :: ws) (gap ++ (w ++ t))

theorem Worded.stops_isWord {ws : List Text} {t : Text} (h : Worded ws t) (rest : Text) :
    Stops isWord (t ++ rest) := by
  cases h with
  | ending hgap hsign =>
    rw [List.append_assoc]
    refine stops_isWord_append hgap (stops_cons.2 ?_)
    rcases hsign with rfl | rfl <;> rfl
  | word hne hgap _ _ =>
    rw [List.append_assoc, stops_append hne]
    exact fun c hc => isWord_of_isBlank (hgap c (List.mem_of_mem_head? hc))

def Begins (w : Text) (ws : List Text) (t : Text) : Prop := IsName w ∧ ∃ u, Worded ws u ∧ t = w ++ u

/-- A keyword and perhaps blanks in front of a word: they are one word, or two. -/
theorem Begins.behind {key gap w t : Text} {ws : List Text} (hk : IsName key)
    (hgap : ∀ c ∈ gap, isBlank c) (h : Begins w ws t) :
    ∃ v vs, Begins v vs (key ++ (gap ++ t)) ∧
      (v = key ++ w ∧ vs = ws ∨ v = key ∧ vs = w :: ws) := by
  obtain ⟨hw, u, hu, rfl⟩ := h
  by_cases hne : gap = []
  · subst hne
    have hname : IsName (key ++ w) := by
      refine ⟨by simp [hk.1], fun c hc => ?_⟩
      rcases List.mem_append.1 hc with hc | hc
      · exact hk.2 c hc
      · exact hw.2 c hc
    exact ⟨key ++ w, ws, ⟨hname, u, hu, by simp⟩, .inl ⟨rfl, rfl⟩⟩
  · exact ⟨key, w :: ws, ⟨hk, _, .word hne hgap hw hu, rfl⟩, .inr ⟨rfl, rfl⟩⟩

/-- What is left of the first word when it is cut. -/
theorem Begins.of_append {key w t : Text} {ws : List Text} (hw : w ≠ [])
    (h : Begins (key ++ w) ws t) : ∃ u, t = key ++ u ∧ Begins w ws u := by
  obtain ⟨⟨-, hword⟩, u, hu, rfl⟩ := h
  exact ⟨w ++ u, by simp, ⟨hw, fun c hc => hword c (List.mem_append_right key hc)⟩, u, hu, rfl⟩

theorem Begins.skipBlanks {w t : Text} {ws : List Text} (h : Begins w ws t) (rest : Text) :
    skipBlanks (t ++ rest) = t ++ rest := by
  obtain ⟨hw, u, -, rfl⟩ := h
  rw [List.append_assoc]
  exact skipBlanks_of_stops (hw.stops_isBlank _)

theorem named?_eq_some {t name rest : Text} :
    named? t = some (name, rest) ↔ ∃ m, Begins name [] m ∧ t = m ++ rest := by
  constructor
  · intro h
    simp only [named?, Option.bind_eq_bind, Option.bind_eq_some_iff] at h
    obtain ⟨⟨w, more⟩, hword, hend⟩ := h
    obtain ⟨rfl, hne, hw, -⟩ := word?_eq_some.1 hword
    obtain ⟨gap, hmore, hgap⟩ := skipBlanks_split more
    split at hend
    · next sign more' hskip =>
      split at hend
      · next hsign =>
        obtain ⟨rfl, rfl⟩ := Prod.mk.inj (Option.some.inj hend)
        rw [hskip] at hmore
        refine ⟨w ++ (gap ++ [sign]), ⟨⟨hne, hw⟩, _, .ending hgap (by simpa using hsign), rfl⟩, ?_⟩
        rw [hmore]
        simp
      · cases hend
    · cases hend
  · rintro ⟨m, ⟨hn, u, hu, rfl⟩, rfl⟩
    have hword := hn.word?_append (hu.stops_isWord rest)
    cases hu with
    | @ending gap sign hgap hsign =>
      have hskip : skipBlanks (gap ++ [sign] ++ rest) = sign :: rest := by
        rw [List.append_assoc, skipBlanks_append hgap]
        refine skipBlanks_of_stops (stops_cons.2 ?_)
        rcases hsign with rfl | rfl <;> rfl
      simp only [named?, List.append_assoc name, hword, Option.bind_eq_bind, Option.bind_some,
        hskip]
      simp [hsign]

/-! Parts of words. -/

/-- The words are made up of the parts in their order: each part is a word of its own, or it is
glued to the word behind it. -/
inductive Composes : List Text → List Text → Prop where
  | nil : Composes [] []
  | part {p : Text} {ps ws : List Text} (h : Composes ps ws) : Composes (p :: ps) (p :: ws)
  | glued {p w : Text} {ps ws : List Text} (hw : w ≠ []) (h : Composes ps (w :: ws)) :
      Composes (p :: ps) ((p ++ w) :: ws)

/-- One of the words starts with a keyword and goes on behind it. At each level one of the keywords
may stand as a word of its own; those of the next level are then looked for in the word behind it, and
otherwise in the same word. -/
def Glued : List (List Text) → List Text → Prop
  | keys :: later, w :: ws =>
    (∃ key ∈ keys, key <+: w ∧ key ≠ w) ∨ w ∈ keys ∧ Glued later ws ∨
      w ∉ keys ∧ Glued later (w :: ws)
  | _, _ => False

variable {α β γ : Type} {keys : List Text} {levels : List (List Text)} {w : Text} {ws : List Text}

theorem glued_of_no_lead (h : ∀ key ∈ keys, ¬ key <+: w) :
    Glued (keys :: levels) (w :: ws) ↔ Glued levels (w :: ws) := by
  have hw : w ∉ keys := fun hw => h w hw (List.prefix_refl w)
  have hno : ¬ ∃ key ∈ keys, key <+: w ∧ key ≠ w := fun ⟨key, hkey, hlead, _⟩ => h key hkey hlead
  simp [Glued, hno, hw]

theorem not_glued (h : ∀ keys ∈ levels, ∀ key ∈ keys, ¬ key <+: w) : ¬ Glued levels (w :: ws) := by
  induction levels with
  | nil => exact id
  | cons keys levels ih =>
    obtain ⟨hkeys, hlater⟩ := List.forall_mem_cons.1 h
    rw [glued_of_no_lead hkeys]
    exact ih hlater

theorem glued_of_mem (hw : w ∈ keys) (h : ∀ key ∈ keys, key <+: w → key = w) :
    Glued (keys :: levels) (w :: ws) ↔ Glued levels ws := by
  have hno : ¬ ∃ key ∈ keys, key <+: w ∧ key ≠ w := fun ⟨key, hkey, hlead, hne⟩ =>
    hne (h key hkey hlead)
  simp [Glued, hno, hw]

/-- The parts into which words are cut, the first of the words being `w`. If it is not the only one,
it starts with a keyword. -/
structure IsCut (levels : List (List Text)) (ps : List Text) (w : Text) (ws : List Text) :
    Prop where
  composes : Composes ps (w :: ws)
  eq_iff : ps = w :: ws ↔ ¬ Glued levels (w :: ws)
  leads : ws ≠ [] → ∃ keys ∈ levels, ∃ key ∈ keys, key <+: w

namespace IsCut
variable {ps : List Text}

/-- A keyword that is glued to the first word. -/
theorem glued {key : Text} (h : IsCut levels ps w ws) (hw : w ≠ []) (hkey : key ∈ keys) :
    IsCut (keys :: levels) (key :: ps) (key ++ w) ws where
  composes := .glued hw h.composes
  eq_iff := by
    have hne : key ≠ key ++ w := fun heq => hw (List.self_eq_append_right.1 heq)
    refine ⟨fun heq => absurd (List.cons.inj heq).1 hne, fun hno => absurd ?_ hno⟩
    exact .inl ⟨key, hkey, List.prefix_append key w, hne⟩
  leads _ := ⟨keys, List.mem_cons_self, key, hkey, List.prefix_append key w⟩

/-- A keyword that is a word of its own. -/
theorem part {key : Text} (h : IsCut levels ps w ws) (hkey : key ∈ keys)
    (hu : ∀ key' ∈ keys, key' <+: key → key' = key) :
    IsCut (keys :: levels) (key :: ps) key (w :: ws) where
  composes := .part h.composes
  eq_iff := by
    rw [glued_of_mem hkey hu, ← h.eq_iff, List.cons.injEq, eq_self, true_and]
  leads _ := ⟨keys, List.mem_cons_self, key, hkey, List.prefix_refl key⟩

/-- A level at which no keyword is taken. If the first word starts with one, it is the keyword, and
the only word there is. -/
theorem passed (h : IsCut levels ps w ws) (hone : ∀ key ∈ keys, key <+: w → key = w ∧ ws = [])
    (hother : ∀ key ∈ keys, ∀ later ∈ levels, ∀ key' ∈ later, ¬ key' <+: key) :
    IsCut (keys :: levels) ps w ws where
  composes := h.composes
  eq_iff := by
    rw [h.eq_iff, not_iff_not]
    by_cases hw : w ∈ keys
    · obtain ⟨-, rfl⟩ := hone w hw (List.prefix_refl w)
      rw [glued_of_mem hw fun key hkey hlead => (hone key hkey hlead).1]
      exact iff_of_false (not_glued (hother w hw)) (by simp [Glued])
    · refine (glued_of_no_lead fun key hkey hlead => ?_).symm
      exact hw ((hone key hkey hlead).1 ▸ hkey)
  leads hws := by
    obtain ⟨later, hlater, key, hkey⟩ := h.leads hws
    exact ⟨later, List.mem_cons_of_mem _ hlater, key, hkey⟩

end IsCut

/-! Readers of declarations. -/

/-- The reader finds the parts of a declaration from one of its words on. It finds something
wherever a single word is left. -/
structure Reads (levels : List (List Text)) (parts : α → List Text → Prop)
    (read : Text → Option (α × Text)) : Prop where
  found : ∀ {t a rest}, read t = some (a, rest) →
    ∃ m w ws ps, Begins w ws m ∧ t = m ++ rest ∧ parts a ps ∧ IsCut levels ps w ws
  total : ∀ {w m}, Begins w [] m → ∀ rest, (read (m ++ rest)).isSome

theorem reads_named : Reads [] (fun name ps => ps = [name]) named? where
  found {t name rest} h := by
    obtain ⟨m, hm, rfl⟩ := named?_eq_some.1 h
    exact ⟨m, name, [], [name], hm, rfl, rfl, .part .nil, by simp [Glued], by simp⟩
  total {w m} hm rest := by simp [named?_eq_some.2 ⟨m, hm, rfl⟩]

/-- If nothing is found behind a keyword with which the only word left starts, the word is the
keyword. -/
theorem Reads.eq_of_passed {parts : α → List Text → Prop} {read : Text → Option (α × Text)}
    (h : Reads levels parts read) {options : List (Text × β)} (hu : Function.Unmixed options)
    {o : Text × β} (ho : o ∈ options) {m rest : Text} (hm : Begins w [] m) (hlead : o.1 <+: w)
    (hnone : ∀ found, oneOf? options (m ++ rest) = some found → read (skipBlanks found.2) = none) :
    o.1 = w := by
  by_contra hne
  obtain ⟨more, rfl⟩ := hlead
  obtain ⟨u, rfl, hmore⟩ := hm.of_append (by simpa using hne)
  have hread := hnone (o.2, u ++ rest) (by rw [List.append_assoc, hu.oneOf?_append ho])
  have hsome := h.total hmore rest
  rw [← hmore.skipBlanks rest, hread] at hsome
  cases hsome

/-- A keyword that may stand in front of what a reader finds. Where nothing is found behind it, the
reader starts at the keyword itself. -/
theorem Reads.keyword {parts : α → List Text → Prop} {parts' : γ → List Text → Prop}
    {read : Text → Option (α × Text)} (h : Reads levels parts read) (f : β → α → γ) (g : α → γ)
    {options : List (Text × β)} (hu : Function.Unmixed options) (hk : ∀ o ∈ options, IsName o.1)
    (hother : ∀ o ∈ options, ∀ keys ∈ levels, ∀ key ∈ keys, ¬ key <+: o.1 ∧ ¬ o.1 <+: key)
    (hf : ∀ o ∈ options, ∀ a ps, parts a ps → parts' (f o.2 a) (o.1 :: ps))
    (hg : ∀ a ps, parts a ps → parts' (g a) ps) :
    Reads (options.map Prod.fst :: levels) parts' fun t =>
      ((oneOf? options t).bind fun found =>
        (read (skipBlanks found.2)).map fun more => (f found.1 more.1, more.2)) <|>
      (read t).map fun more => (g more.1, more.2) where
  found {t c rest} hread := by
    simp only [Option.orElse_eq_orElse, Option.orElse_eq_or, Option.or_eq_some_iff,
      Option.bind_eq_some_iff, Option.map_eq_some_iff, Option.bind_eq_none_iff,
      Option.map_eq_none_iff] at hread
    rcases hread with ⟨⟨b, more⟩, hkey, ⟨a, rest'⟩, hmore, heq⟩ | ⟨hnone, ⟨a, rest'⟩, hmore, heq⟩
    · obtain ⟨rfl, rfl⟩ := Prod.mk.inj heq
      obtain ⟨key, ho, rfl⟩ := oneOf?_eq_some hkey
      obtain ⟨gap, hsplit, hgap⟩ := skipBlanks_split more
      obtain ⟨m, w, ws, ps, hm, hskip, hparts, hcut⟩ := h.found hmore
      obtain ⟨v, vs, hbegins, hcases⟩ := hm.behind (hk _ ho) hgap
      have hmem : key ∈ options.map Prod.fst := List.mem_map_of_mem ho
      refine ⟨key ++ (gap ++ m), v, vs, key :: ps, hbegins, ?_, hf _ ho a ps hparts, ?_⟩
      · rw [hsplit, hskip]
        simp
      · rcases hcases with ⟨hv, rfl⟩ | ⟨hv, rfl⟩
        · rw [hv]
          exact hcut.glued hm.1.1 hmem
        · rw [hv]
          refine hcut.part hmem (List.forall_mem_map.2 fun o ho' hlead => ?_)
          exact congrArg Prod.fst (hu o ho' _ ho hlead)
    · obtain ⟨rfl, rfl⟩ := Prod.mk.inj heq
      obtain ⟨m, w, ws, ps, hm, rfl, hparts, hcut⟩ := h.found hmore
      have hlater : ∀ key ∈ options.map Prod.fst, ∀ later ∈ levels, ∀ key' ∈ later,
          ¬ key' <+: key := List.forall_mem_map.2 fun o ho later hlater key' hkey' =>
        (hother o ho later hlater key' hkey').1
      refine ⟨m, w, ws, ps, hm, rfl, hg a ps hparts,
        hcut.passed (List.forall_mem_map.2 fun o ho hlead => ?_) hlater⟩
      -- If another word followed, the first one would start with a keyword of a later level.
      obtain rfl : ws = [] := by
        by_contra hws
        obtain ⟨later, hlater, key, hkey, hlead'⟩ := hcut.leads hws
        obtain ⟨hno, hno'⟩ := hother o ho later hlater key hkey
        rcases List.prefix_or_prefix_of_prefix hlead hlead' with hmixed | hmixed
        · exact hno' hmixed
        · exact hno hmixed
      exact ⟨h.eq_of_passed hu ho hm hlead hnone, rfl⟩
  total {w m} hm rest := by
    simp [h.total hm rest]

/-- The words of a constancy and a name: where there is a constancy, either of its two words. -/
def Named (isConstant : Bool) (name : Text) (ps : List Text) : Prop :=
  if isConstant then ∃ o ∈ constancies, ps = [o.1, name] else ps = [name]

theorem unmixed_constancies : Function.Unmixed constancies := by
  unfold Function.Unmixed
  decide

theorem unmixed_visibilities : Function.Unmixed visibilities := by
  unfold Function.Unmixed
  decide

theorem reads_constantNamed :
    Reads [constancies.map Prod.fst] (fun found => Named found.1 found.2) constantNamed? := by
  rw [funext constantNamed?_eq]
  refine reads_named.keyword (fun _ name => (true, name)) (fun name => (false, name))
    unmixed_constancies (by decide) (by decide) ?_ ?_
  · rintro o ho name ps rfl
    exact ⟨o, ho, rfl⟩
  · rintro name ps rfl
    rfl

/-- The words for which a record stands: its visibility, if there is one, its constancy and its
name. -/
def Parts.Spelt (p : Parts) (ps : List Text) : Prop :=
  ∃ named, Named p.isConstant p.name named ∧ ps = (p.visibility.map (·.keyword)).toList ++ named

def keywordLevels : List (List Text) := [visibilities.map Prod.fst, constancies.map Prod.fst]

theorem Parts.reads_afterType (type : Text) :
    Reads keywordLevels (fun p ps => p.type = type ∧ p.Spelt ps) (Parts.afterType? type) := by
  refine reads_constantNamed.keyword (fun v found => Parts.mk type (some v) found.1 found.2)
    (fun found => Parts.mk type none found.1 found.2) unmixed_visibilities (by decide) (by decide)
    ?_ ?_
  · rintro o ho ⟨isConstant, name⟩ ps hnamed
    have hkey : ∀ o ∈ visibilities, o.2.keyword = o.1 := by decide
    exact ⟨rfl, ps, hnamed, by rw [← hkey o ho]; rfl⟩
  · rintro ⟨isConstant, name⟩ ps hnamed
    exact ⟨rfl, ps, hnamed, rfl⟩

theorem Parts.read?_eq_some {b : Bool} {t rest : Text} {p : Parts}
    (h : Parts.read? b t = some (p, rest)) :
    b = false ∧ ∃ spelled ws ps, t = p.type ++ (spelled ++ rest) ∧ Worded ws spelled ∧ p.Spelt ps ∧
      Composes ps ws ∧ (ps = ws ↔ ¬ Glued keywordLevels ws) := by
  cases b with
  | true => cases h
  | false =>
    rw [Parts.read?_eq] at h
    obtain ⟨⟨type, more⟩, htype, h⟩ := Option.bind_eq_some_iff.1 h
    obtain ⟨u, hblanks, h⟩ := Option.bind_eq_some_iff.1 h
    obtain ⟨gap, rfl, hne, hgap, -⟩ := blanks?_eq_some.1 hblanks
    obtain ⟨m, w, ws, ps, ⟨hw, v, hv, rfl⟩, rfl, ⟨rfl, hspelt⟩, hcut⟩ :=
      (reads_afterType type).found h
    refine ⟨rfl, gap ++ (w ++ v), w :: ws, ps, ?_, .word hne hgap hw hv, hspelt, hcut.composes,
      hcut.eq_iff⟩
    rw [(type?_eq_some htype).1]
    simp

theorem Composes.leads {p : Text} {ps : List Text} (h : Composes (p :: ps) ws) :
    ∃ w ∈ ws.head?, p <+: w := by
  cases h with
  | part _ => exact ⟨p, rfl, List.prefix_refl p⟩
  | glued _ _ => exact ⟨_, rfl, List.prefix_append p _⟩

theorem Composes.ne_singleton {p q : Text} {ps : List Text} (h : Composes (p :: q :: ps) ws) :
    ws ≠ [p] := by
  intro hws
  cases h with
  | part h =>
    cases h <;> cases hws
  | glued hw _ => exact hw (List.append_right_eq_self.1 (List.cons.inj hws).1)

theorem Composes.eq_singleton {p : Text} (h : Composes [p] ws) : ws = [p] := by
  cases h with
  | part h =>
    cases h
    rfl
  | glued _ h => cases h

theorem eq_of_keywords_lead {u v : Visibility} {w : Text} (hu : u.keyword <+: w)
    (hv : v.keyword <+: w) : u = v := by
  have hunmixed : ∀ {u v : Visibility}, u.keyword <+: v.keyword → u = v := by
    intro u v
    cases u <;> cases v <;> decide
  rcases List.prefix_or_prefix_of_prefix hu hv with h | h
  · exact hunmixed h
  · exact (hunmixed h).symm

/-- A visibility is found exactly if the first word starts with it, unless there is no more than the
keyword. -/
theorem Parts.Spelt.visibility_eq_some_iff {p : Parts} {ps : List Text} (h : p.Spelt ps)
    (hcomposes : Composes ps ws) (heq : ps = ws ↔ ¬ Glued keywordLevels ws) {v : Visibility}
    (hv : v.keyword ∈ visibilities.map Prod.fst) :
    p.visibility = some v ↔ ws ≠ [v.keyword] ∧ ∃ w ∈ ws.head?, v.keyword <+: w := by
  obtain ⟨named, hnamed, rfl⟩ := h
  cases hvisible : p.visibility with
  | some u =>
    rw [hvisible] at hcomposes
    obtain ⟨w, hw, hlead⟩ := hcomposes.leads
    constructor
    · rintro ⟨⟩
      refine ⟨?_, w, hw, hlead⟩
      unfold Named at hnamed
      split at hnamed
      · obtain ⟨o, -, rfl⟩ := hnamed
        exact hcomposes.ne_singleton
      · subst hnamed
        exact hcomposes.ne_singleton
    · rintro ⟨-, w', hw', hlead'⟩
      obtain rfl : w = w' := Option.some.inj (hw.symm.trans hw')
      rw [eq_of_keywords_lead hlead hlead']
  | none =>
    rw [hvisible] at hcomposes heq
    refine ⟨nofun, fun ⟨hne, w, hw, hlead⟩ => ?_⟩
    exfalso
    unfold Named at hnamed
    split at hnamed
    · obtain ⟨o, ho, rfl⟩ := hnamed
      obtain ⟨w', hw', hlead'⟩ := hcomposes.leads
      obtain rfl : w = w' := Option.some.inj (hw.symm.trans hw')
      have hunmixed : ∀ key ∈ visibilities.map Prod.fst, ∀ o ∈ constancies,
          ¬ key <+: o.1 ∧ ¬ o.1 <+: key := by decide
      rcases List.prefix_or_prefix_of_prefix hlead hlead' with hmixed | hmixed
      · exact (hunmixed _ hv o ho).1 hmixed
      · exact (hunmixed _ hv o ho).2 hmixed
    · subst hnamed
      obtain rfl := hcomposes.eq_singleton
      obtain rfl : p.name = w := Option.some.inj hw
      refine heq.1 rfl (.inl ⟨_, hv, hlead, fun hsame => hne ?_⟩)
      rw [hsame]

/-- The words for which the record of a variable stands. A visibility that was not found is
`internal`. -/
def Spelt (v : Variable) (ps : List Text) : Prop :=
  ∃ visibility : Option Visibility, v.visibility = visibility.getD .intern ∧
    Parts.Spelt ⟨v.type, visibility, v.isConstant, v.name⟩ ps

end SolInterface.Variable

namespace SolInterface.Source
open Text Variable

/-- The declaration of a variable stands in the text where no word goes on. It is the type and words
that are made up of the parts of the record. The parts are these words exactly if no keyword has more
of a word behind it, and the variable is public exactly if the first word starts with `public`, unless
there is no more than that. -/
theorem words_of_variable {content : Text} {markers : List Text} {s : Source} {v : Variable}
    (hs : extract? content markers = some s) (hv : v ∈ s.stateVariables) :
    ∃ before rest spelled ws ps, content = before ++ (v.signature ++ rest) ∧
      (∀ c ∈ before.getLast?, isWord c = false) ∧ v.signature = v.type ++ spelled ∧
      Worded ws spelled ∧ v.Spelt ps ∧ Composes ps ws ∧ (ps = ws ↔ ¬ Glued keywordLevels ws) ∧
      (v.visibility = .pub ↔
        ws ≠ ["public".toList] ∧ ∃ w ∈ ws.head?, "public".toList <+: w) := by
  simp only [extract?, Option.bind_eq_bind, Option.bind_eq_some_iff] at hs
  obtain ⟨contract, -, hs⟩ := hs
  obtain rfl := Option.some.inj hs
  obtain ⟨o, ho, rfl⟩ := List.mem_map.1 hv
  obtain ⟨before, rest, hcontent, hread⟩ :=
    exists_split_of_mem_occurrencesFrom Parts.local_read? (List.mem_filter.1 ho).1
  obtain ⟨hstart, spelled, ws, ps, htext, hworded, hspelt, hcomposes, heq⟩ :=
    Parts.read?_eq_some hread
  refine ⟨before, rest, spelled, ws, ps, hcontent, fun c hc => ?_, ?_, hworded,
    ⟨o.value.visibility, rfl, hspelt⟩, hcomposes, heq, ?_⟩
  · rw [Option.mem_def.1 hc] at hstart
    exact hstart
  · rw [← List.append_assoc] at htext
    exact List.append_cancel_right htext
  · refine Iff.trans ?_ (hspelt.visibility_eq_some_iff (v := .pub) hcomposes heq (by decide))
    cases o.value.visibility <;> simp

/-- A declaration with a keyword of each level. -/
theorem words_of_constant :
    let t : Text := "contract A \x7b\n  uint public constant rate = 1;\n\x7d"
    ∃ s v, extract? t [] = some s ∧ v ∈ s.stateVariables ∧
      v.signature = "uint public constant rate =".toList ∧ ∃ before rest spelled ws ps,
        t = before ++ (v.signature ++ rest) ∧
        (∀ c ∈ before.getLast?, isWord c = false) ∧ v.signature = v.type ++ spelled ∧
        Worded ws spelled ∧ v.Spelt ps ∧ Composes ps ws ∧ (ps = ws ↔ ¬ Glued keywordLevels ws) ∧
        (v.visibility = .pub ↔
          ws ≠ ["public".toList] ∧ ∃ w ∈ ws.head?, "public".toList <+: w) :=
  ⟨_, _, rfl, List.mem_cons_self, rfl, words_of_variable rfl List.mem_cons_self⟩

/-- A name that starts with `public` is cut. The variable is recorded under the rest of the name,
and its getter is wanted. -/
theorem name_after_public_cut :
    ∃ s v, extract? "contract A \x7b\n    uint256 publicKey;\n\x7d\n".toList [] = some s ∧
      s.stateVariables = [v] ∧ v.signature = v.type ++ " publicKey;".toList ∧
      Worded ["publicKey".toList] " publicKey;".toList ∧ v.name = "Key".toList ∧
      v.visibility = .pub ∧ ({} : Recipe).wantsGetter v = true ∧
      ∀ ps, v.Spelt ps → ps ≠ ["publicKey".toList] := by
  refine ⟨_, _, rfl, rfl, rfl, ?_, rfl, rfl, rfl, ?_⟩
  · exact @Worded.word " " "publicKey" ";" [] (by decide) (by decide) (by decide)
      (@Worded.ending [] ';' (by decide) (.inr rfl))
  · rintro ps ⟨visibility, hvisible, named, hnamed, rfl⟩
    obtain rfl : named = ["Key".toList] := hnamed
    cases visibility with
    | none => cases hvisible
    | some u => simp

end SolInterface.Source
