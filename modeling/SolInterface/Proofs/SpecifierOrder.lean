import SolInterface.Proofs.FunctionLines
import SolInterface.Interface.Policy

/-!
Functions whose head stands on one line, with specifiers that are words in any order. The reader
looks for a visibility at the start of the first word only, and for a mutability right after it; a
visibility word that comes later is passed as a filler, and the function is taken to be public.
-/
namespace SolInterface.Function
open Text

/-! Words, each followed by a space. -/

/-- The words, each with a space after it, and then the text. -/
def spaced (ws : List Text) (t : Text) : Text := ws.foldr (fun w t => w ++ ' ' :: t) t

@[simp] theorem spaced_nil (t : Text) : spaced [] t = t := rfl

@[simp] theorem spaced_cons (w : Text) (ws : List Text) (t : Text) :
    spaced (w :: ws) t = w ++ ' ' :: spaced ws t := rfl

theorem joinWith_space {ws : List Text} (hne : ws ≠ []) (t : Text) :
    joinWith [' '] ws ++ ' ' :: t = spaced ws t := by
  unfold joinWith
  induction ws with
  | nil => exact absurd rfl hne
  | cons w ws ih =>
    cases ws with
    | nil => simp
    | cons v ws =>
      have htail := ih (by simp)
      rw [List.intercalate_cons_cons, spaced_cons, ← htail]
      simp

theorem joinWith_concat (ps : List Text) (p : Text) : joinWith [' '] (ps ++ [p]) = spaced ps p := by
  unfold joinWith
  induction ps with
  | nil => simp
  | cons q ps ih =>
    rw [List.cons_append, List.intercalate_cons_of_ne_nil (by simp), ih]
    simp

theorem mem_spaced {ws : List Text} {c : Char} (h : c ∈ spaced ws []) :
    c = ' ' ∨ ∃ w ∈ ws, c ∈ w := by
  induction ws with
  | nil => simp at h
  | cons w ws ih =>
    rcases List.mem_append.1 h with h | h
    · exact Or.inr ⟨w, by simp, h⟩
    · rcases List.mem_cons.1 h with rfl | h
      · exact Or.inl rfl
      · obtain hc | ⟨v, hv, hc⟩ := ih h
        · exact Or.inl hc
        · exact Or.inr ⟨v, by simp [hv], hc⟩

theorem mem_spaced_of_mem {ws : List Text} {w : Text} {c : Char} (hw : w ∈ ws) (hc : c ∈ w) :
    c ∈ spaced ws [] := by
  induction ws with
  | nil => cases hw
  | cons v ws ih =>
    rcases List.mem_cons.1 hw with rfl | hw
    · exact List.mem_append_left _ hc
    · exact List.mem_append_right _ (List.mem_cons_of_mem _ (ih hw))

theorem isPlain_of_spaced {ws : List Text} (hw : ∀ w ∈ ws, IsName w) :
    ∀ c ∈ spaced ws [], isPlain c := by
  intro c hc
  rcases mem_spaced hc with rfl | ⟨w, hmem, hc⟩
  · rfl
  · simp [isPlain, (hw w hmem).2 c hc]

theorem spaced_append (ws : List Text) (t : Text) : spaced ws t = spaced ws [] ++ t := by
  induction ws with
  | nil => rfl
  | cons w ws ih => simp [ih]

def returnsPart (returns : Option Text) : Text :=
  returns.elim [] fun types => "returns (" ++ types ++ ") "

def headEnd (returns : Option Text) (tail : Text) : Text := returnsPart returns ++ '{' :: tail

theorem stops_headEnd (returns : Option Text) (tail : Text) :
    Stops isBlank (headEnd returns tail) := by
  cases returns <;> exact stops_cons.2 rfl

theorem ending?_spaced {ws : List Text} (hw : ∀ w ∈ ws, IsName w) {returns : Option Text}
    (hr : ∀ types ∈ returns, ')' ∉ types) (tail : Text) :
    ending? (spaced ws (headEnd returns tail)) = some (returns.getD []) := by
  cases returns with
  | none =>
    rw [spaced_append]
    exact ending?_brace tail (isPlain_of_spaced hw)
  | some types =>
    have hno : ')' ∉ types := hr types rfl
    have hend : headEnd (some types) tail =
        "returns".toList ++ [' '] ++ '(' :: types ++ ')' :: [' '] ++ '{' :: tail := by
      simp [headEnd, returnsPart]
    have hblank : ∀ c ∈ [' '], isBlank c := by decide
    by_cases hne : ws = []
    · subst hne
      exact ending?_of_returns ⟨⟨[' '], [' '], tail, hend, hblank, hblank⟩, hno⟩
    · have hplain : ∀ c ∈ joinWith [' '] ws, isPlain c := by
        intro c hc
        apply isPlain_of_spaced hw c
        rw [← joinWith_space hne []]
        exact List.mem_append_left _ hc
      rw [← joinWith_space hne, hend]
      exact ending?_returns tail hplain hblank hblank hno

/-! A keyword at the start of a word. -/

def leading? {α : Type} (options : List (Text × α)) : List Text → Option α
  | [] => none
  | w :: _ => (oneOf? options w).map (·.1)

def afterLeading {α : Type} (options : List (Text × α)) : List Text → List Text
  | [] => []
  | w :: ws =>
    match oneOf? options w with
    | none => w :: ws
    | some (_, []) => ws
    | some (_, rest) => rest :: ws

theorem isName_afterLeading {α : Type} {options : List (Text × α)} {ws : List Text}
    (hw : ∀ w ∈ ws, IsName w) : ∀ w ∈ afterLeading options ws, IsName w := by
  cases ws with
  | nil => simp [afterLeading]
  | cons w ws =>
    have hws : ∀ v ∈ ws, IsName v := fun v hv => hw v (by simp [hv])
    cases h : oneOf? options w with
    | none => simpa [afterLeading, h] using ⟨hw w (by simp), hws⟩
    | some found =>
      obtain ⟨a, rest⟩ := found
      obtain ⟨key, -, hkey⟩ := oneOf?_eq_some h
      cases rest with
      | nil => simpa [afterLeading, h] using hws
      | cons c rest =>
        have hrest : IsName (c :: rest) :=
          ⟨by simp, fun d hd => (hw w (by simp)).2 d (hkey ▸ List.mem_append_right key hd)⟩
        simpa [afterLeading, h] using ⟨hrest, hws⟩

theorem stops_spaced {ws : List Text} (hw : ∀ w ∈ ws, IsName w) {t : Text}
    (ht : Stops isBlank t) : Stops isBlank (spaced ws t) := by
  cases ws with
  | nil => exact ht
  | cons w ws => exact (hw w (by simp)).stops_isBlank _

/-- A keyword is looked for at the start of the first word. -/
theorem oneOf?_spaced {α : Type} {options : List (Text × α)} (hc : ∀ o ∈ options, ' ' ∉ o.1)
    {ws : List Text} (hw : ∀ w ∈ ws, IsName w) {t : Text} (ht : Stops isBlank t)
    (hno : oneOf? options t = none) :
    (oneOf? options (spaced ws t)).map (fun found => (found.1, skipBlanks found.2)) =
      (leading? options ws).map fun a => (a, spaced (afterLeading options ws) t) := by
  cases ws with
  | nil => simp [leading?, hno]
  | cons w ws =>
    have hws : ∀ v ∈ ws, IsName v := fun v hv => hw v (by simp [hv])
    have hafter : ∀ v ∈ afterLeading options (w :: ws), IsName v := isName_afterLeading hw
    rw [spaced_cons, oneOf?_append_cons hc]
    cases h : oneOf? options w with
    | none => simp [leading?, h]
    | some found =>
      obtain ⟨a, rest⟩ := found
      cases rest with
      | nil => simp [leading?, afterLeading, h, skipBlanks_of_stops (stops_spaced hws ht)]
      | cons c rest =>
        have hrest : IsName (c :: rest) := hafter _ (by simp [afterLeading, h])
        have hskip := skipBlanks_of_stops (hrest.stops_isBlank (' ' :: spaced ws t))
        rw [List.cons_append] at hskip
        simp [leading?, afterLeading, h, hskip]

def Leads {α : Type} (options : List (Text × α)) (ws : List Text) (a : α) : Prop :=
  ∃ key, (key, a) ∈ options ∧ ∃ w ∈ ws.head?, key <+: w

def Unmixed {α : Type} (options : List (Text × α)) : Prop :=
  ∀ o ∈ options, ∀ p ∈ options, o.1 <+: p.1 → o = p

/-- Which keyword is found does not depend on the order in which the keywords are tried. -/
theorem Unmixed.oneOf?_append {α : Type} {options : List (Text × α)} (hu : Unmixed options)
    {key : Text} {a : α} (hkey : (key, a) ∈ options) (t : Text) :
    oneOf? options (key ++ t) = some (a, t) := by
  have hlead : key <+: key ++ t := List.prefix_append key t
  obtain ⟨⟨b, rest⟩, hfound⟩ := Option.isSome_iff_exists.1 (isSome_oneOf? hkey hlead)
  obtain ⟨key', hkey', htext⟩ := oneOf?_eq_some hfound
  have hsame : (key, a) = (key', b) := by
    rcases List.prefix_or_prefix_of_prefix hlead (htext ▸ List.prefix_append key' rest) with h | h
    · exact hu _ hkey _ hkey' h
    · exact (hu _ hkey' _ hkey h).symm
  obtain ⟨rfl, rfl⟩ := Prod.mk.inj hsame
  rw [hfound, List.append_cancel_left htext]

theorem leading?_eq_some_iff {α : Type} {options : List (Text × α)} (hu : Unmixed options)
    {ws : List Text} {a : α} : leading? options ws = some a ↔ Leads options ws a := by
  cases ws with
  | nil => simp [leading?, Leads]
  | cons w ws =>
    rw [leading?, Option.map_eq_some_iff]
    constructor
    · rintro ⟨⟨b, rest⟩, hfound, rfl⟩
      obtain ⟨key, hkey, rfl⟩ := oneOf?_eq_some hfound
      exact ⟨key, hkey, _, rfl, List.prefix_append key rest⟩
    · rintro ⟨key, hkey, v, hv, rest, rfl⟩
      obtain rfl : w = key ++ rest := by simpa using hv
      exact ⟨_, hu.oneOf?_append hkey rest, rfl⟩

theorem getD_leading?_iff {α : Type} {options : List (Text × α)} (hu : Unmixed options)
    {ws : List Text} {a d : α} : (leading? options ws).getD d = a ↔
      Leads options ws a ∨ a = d ∧ ∀ b, ¬ Leads options ws b := by
  simp only [← leading?_eq_some_iff hu]
  cases leading? options ws with
  | none => simp [eq_comm]
  | some b => simp

theorem unmixed_visibilities : Unmixed visibilities := by
  unfold Unmixed
  decide

theorem unmixed_mutabilities : Unmixed mutabilities := by
  unfold Unmixed
  decide

theorem leading?_eq_none {α : Type} {options : List (Text × α)} {ws : List Text}
    (h : leading? options ws = none) : afterLeading options ws = ws := by
  cases ws with
  | nil => rfl
  | cons w ws =>
    have hw : oneOf? options w = none := by simpa [leading?] using h
    simp [afterLeading, hw]

/-! The head as a whole. -/

theorem takeVisibility_spaced {ws : List Text} (hw : ∀ w ∈ ws, IsName w) {returns : Option Text}
    (tail : Text) :
    takeVisibility (spaced ws (headEnd returns tail)) =
      (leading? visibilities ws,
        spaced (afterLeading visibilities ws) (headEnd returns tail)) := by
  have hno : oneOf? visibilities (headEnd returns tail) = none := by cases returns <;> rfl
  have hfound := oneOf?_spaced (by decide) hw (stops_headEnd returns tail) hno
  unfold takeVisibility
  cases h : oneOf? visibilities (spaced ws (headEnd returns tail)) with
  | none =>
    have hlead : leading? visibilities ws = none := by simpa [h] using hfound.symm
    simp [hlead, leading?_eq_none hlead]
  | some found =>
    obtain ⟨a, ha, he⟩ := Option.map_eq_some_iff.1 (hfound.symm.trans (by rw [h]; rfl))
    obtain ⟨rfl, hrest⟩ := Prod.mk.inj he
    simp [ha, hrest]

theorem specified?_spaced {ws : List Text} (hw : ∀ w ∈ ws, IsName w) {returns : Option Text}
    (hr : ∀ types ∈ returns, ')' ∉ types) (tail : Text) :
    specified? (spaced ws (headEnd returns tail)) =
      some (leading? mutabilities ws, returns.getD []) := by
  have hno : oneOf? mutabilities (headEnd returns tail) = none := by cases returns <;> rfl
  have hfound := oneOf?_spaced (by decide) hw (stops_headEnd returns tail) hno
  unfold specified?
  cases h : oneOf? mutabilities (spaced ws (headEnd returns tail)) with
  | none =>
    have hlead : leading? mutabilities ws = none := by simpa [h] using hfound.symm
    simp [hlead, ending?_spaced hw hr]
  | some found =>
    obtain ⟨a, ha, he⟩ := Option.map_eq_some_iff.1 (hfound.symm.trans (by rw [h]; rfl))
    obtain ⟨rfl, hrest⟩ := Prod.mk.inj he
    simp [ha, ← hrest, ending?_spaced (isName_afterLeading hw) hr]

/-- A function's head on one line up to its opening brace, with single spaces. -/
def headFront (name params : Text) (specs : List Text) (returns : Option Text) : Text :=
  "function " ++ name ++ '(' :: params ++ ')' :: ' ' :: spaced specs (returnsPart returns)

def headLine (name params : Text) (specs : List Text) (returns : Option Text) (tail : Text) : Text :=
  headFront name params specs returns ++ '{' :: tail

theorem headLine_eq (name params : Text) (specs : List Text) (returns : Option Text)
    (tail : Text) :
    headLine name params specs returns tail =
      "function".toList ++ [' '] ++ name ++ [] ++ '(' :: params ++
        ')' :: (' ' :: spaced specs (headEnd returns tail)) := by
  unfold headLine headFront
  rw [spaced_append specs (returnsPart returns), spaced_append specs (headEnd returns tail), headEnd]
  simp

theorem Head.read?_headLine {name params : Text} {specs : List Text} {returns : Option Text}
    (hn : IsName name) (hp : ')' ∉ params) (hw : ∀ w ∈ specs, IsName w)
    (hr : ∀ types ∈ returns, ')' ∉ types) (tail : Text) :
    Head.read? (headLine name params specs returns tail) =
      some ⟨name, trim params, leading? visibilities specs,
        leading? mutabilities (afterLeading visibilities specs), trim (returns.getD [])⟩ := by
  have hskip : skipBlanks (' ' :: spaced specs (headEnd returns tail)) =
      spaced specs (headEnd returns tail) := by
    rw [skipBlanks_space, skipBlanks_of_stops (stops_spaced hw (stops_headEnd returns tail))]
  rw [headLine_eq, Head.read?_front _ (by simp) (by decide) hn (by simp) hp, hskip,
    takeVisibility_spaced hw, specified?_spaced (isName_afterLeading hw) hr, Option.map_some]

/-! The line as a whole. -/

def Flat (t : Text) : Prop := '(' ∉ t ∧ ')' ∉ t ∧ '{' ∉ t ∧ '}' ∉ t

instance (t : Text) : Decidable (Flat t) := inferInstanceAs (Decidable (_ ∧ _))

theorem notMem_headFront {name params : Text} {specs : List Text} {returns : Option Text} {c : Char}
    (hc : c = '{' ∨ c = '}') (hn : c ∉ name) (hp : c ∉ params) (hw : ∀ w ∈ specs, c ∉ w)
    (hr : ∀ types ∈ returns, c ∉ types) : c ∉ headFront name params specs returns := by
  have hspecs : c ∉ spaced specs [] := fun hmem => by
    rcases mem_spaced hmem with rfl | ⟨w, hmem, hcw⟩
    · simp at hc
    · exact hw w hmem hcw
  have hreturns : c ∉ returnsPart returns := by
    cases returns with
    | none => simp [returnsPart]
    | some types =>
      have htypes := hr types rfl
      rcases hc with rfl | rfl <;> simp [returnsPart, htypes]
  unfold headFront
  rw [spaced_append]
  rcases hc with rfl | rfl <;> simp [hn, hp, hspecs, hreturns]

/-- The text of a declaration whose first line opens a brace and closes none before it. -/
theorem declarationText_opened {line front tail : Text} (h : trim line = front ++ '{' :: tail)
    (ho : '{' ∉ front) (hc : '}' ∉ front) (more : List Text) :
    declarationText 0 false (line :: more) = ' ' :: trim line := by
  rw [declarationText]
  simp [h, takeWhile_ne ho, List.count_eq_zero_of_not_mem hc]

theorem trim_headLine {indent : Text} (hi : ∀ c ∈ indent, isBlank c) (name params : Text)
    (specs : List Text) (returns : Option Text) (tail : Text) :
    trim (indent ++ headLine name params specs returns tail) =
      headLine name params specs returns (trimRight tail) := by
  have hstop : Stops isBlank (headLine name params specs returns tail) := by
    rw [headLine_eq]
    exact stops_cons.2 rfl
  rw [trim_append_left _ hi, trim_of_stops hstop]
  exact trimRight_append_cons tail rfl

end SolInterface.Function

namespace SolInterface.Source
open Text SolInterface.Function

theorem startsFunction_headLine {indent : Text} (hi : ∀ c ∈ indent, isBlank c) (name params : Text)
    (specs : List Text) (returns : Option Text) (tail : Text) :
    startsFunction (indent ++ headLine name params specs returns tail) = true := by
  rw [startsFunction, trim_headLine hi, startsWith_iff]
  unfold headLine headFront
  simp

/-- The record of a function whose head stands on one line. -/
theorem function?_headLine {indent name params : Text} {specs : List Text} {returns : Option Text}
    (hi : ∀ c ∈ indent, isBlank c) (hn : IsName name) (hp : Flat params)
    (hw : ∀ w ∈ specs, IsName w) (hr : ∀ types ∈ returns, Flat types) (tail doc : Text) (n : Nat)
    (more : List Text) :
    function? doc n ((indent ++ headLine name params specs returns tail) :: more) =
      some {
        name
        visibility := (leading? Function.visibilities specs).getD .pub
        mutability :=
          (leading? mutabilities (afterLeading Function.visibilities specs)).getD .nonpayable
        parameters := trim params
        returns := trim (returns.getD [])
        signature := ' ' :: headLine name params specs returns (trimRight tail)
        doc
        line := n } := by
  have hopen : '{' ∉ headFront name params specs returns :=
    notMem_headFront (.inl rfl) (hn.notMem rfl) hp.2.2.1 (fun w hmem => (hw w hmem).notMem rfl)
      fun types ht => (hr types ht).2.2.1
  have hclose : '}' ∉ headFront name params specs returns :=
    notMem_headFront (.inr rfl) (hn.notMem rfl) hp.2.2.2 (fun w hmem => (hw w hmem).notMem rfl)
      fun types ht => (hr types ht).2.2.2
  have htext : declarationText 0 false ((indent ++ headLine name params specs returns tail) :: more) =
      ' ' :: headLine name params specs returns (trimRight tail) := by
    rw [declarationText_opened (trim_headLine hi name params specs returns tail) hopen hclose,
      trim_headLine hi]
  have hread := Head.read?_headLine hn hp.2.1 hw (fun types ht => (hr types ht).2.1) (trimRight tail)
  rw [function?, htext, firstMatch_cons (by rfl), firstMatch_of_some hread]
  rfl

/-- The functions of a text with a contract head. -/
theorem exists_extract? {content : Text} (markers : List Text)
    (h : (firstMatch Contract.head? content).isSome) :
    ∃ s, extract? content markers = some s ∧ s.functions =
      (functionsFrom (Doc.above (lines content) markers) 1 (lines content)).filterMap
        Except.toOption := by
  obtain ⟨⟨name, bases⟩, hhead⟩ := Option.isSome_iff_exists.1 h
  simp [extract?, contract?, hhead]

theorem isExposed_eq_false_iff {v : Visibility} : v.isExposed = false ↔ v = .intern ∨ v = .priv := by
  cases v <;> simp [Visibility.isExposed]

/-- A line that is the head of a function gives one record. The record has the visibility `v`
exactly if the first specifier starts with the keyword of `v`, or if it starts with none and `v` is
`public`. It has the mutability `m` exactly if what follows that keyword starts with the keyword of
`m`, or if it starts with none and `m` says nothing. A function is hidden, and left out unless it is
asked for, exactly if its first specifier starts with `internal` or `private`. -/
theorem specifiers_of_head_line {content : Text} {pre post : List Text} {indent name params tail : Text}
    {specs : List Text} {returns : Option Text} (markers : List Text)
    (hcontract : (firstMatch Contract.head? content).isSome)
    (hlines : lines content = pre ++ (indent ++ headLine name params specs returns tail) :: post)
    (hi : ∀ c ∈ indent, isBlank c) (hn : IsName name) (hp : Flat params)
    (hw : ∀ w ∈ specs, IsName w) (hr : ∀ types ∈ returns, Flat types) :
    ∃ s f, extract? content markers = some s ∧
      s.functions.filter (·.line == pre.length + 1) = [f] ∧ f.name = name ∧
      (∀ v, f.visibility = v ↔ Leads Function.visibilities specs v ∨
        v = .pub ∧ ∀ u, ¬ Leads Function.visibilities specs u) ∧
      (∀ m, f.mutability = m ↔
        Leads mutabilities (afterLeading Function.visibilities specs) m ∨
        m = .nonpayable ∧ ∀ u, ¬ Leads mutabilities (afterLeading Function.visibilities specs) u) ∧
      (f.isExposed = false ↔ Leads Function.visibilities specs .intern ∨
        Leads Function.visibilities specs .priv) ∧
      ∀ r : Recipe, r.keepsFunction f = true ↔ name ∈ r.expose ∨
        name ∉ r.exclude ∧ ¬ (Leads Function.visibilities specs .intern ∨
          Leads Function.visibilities specs .priv) := by
  obtain ⟨s, hs, hfunctions⟩ := exists_extract? markers hcontract
  have hread := function?_headLine hi hn hp hw hr tail
    (Doc.above (lines content) markers (1 + pre.length)) (1 + pre.length) post
  have hone := filter_line_functionsFrom (startsFunction_headLine hi name params specs returns tail)
    hread
  rw [← hlines, ← hfunctions, Nat.add_comm] at hone
  have hvisible : ∀ v, (leading? Function.visibilities specs).getD .pub = v ↔
      Leads Function.visibilities specs v ∨ v = .pub ∧ ∀ u, ¬ Leads Function.visibilities specs u :=
    fun _ => getD_leading?_iff unmixed_visibilities
  refine ⟨s, _, hs, hone, rfl, hvisible, fun m => getD_leading?_iff unmixed_mutabilities, ?_⟩
  have hhidden : ((leading? Function.visibilities specs).getD .pub).isExposed = false ↔
      Leads Function.visibilities specs .intern ∨ Leads Function.visibilities specs .priv := by
    rw [isExposed_eq_false_iff, hvisible, hvisible]
    simp
  refine ⟨hhidden, fun r => ?_⟩
  rw [← hhidden]
  simp [Recipe.keepsFunction, Function.isExposed]

def internalSource : Text :=
  "contract A \x7b\n  function f() view internal \x7b\n  \x7d\n  function g(uint a) internal virtual view returns (uint) \x7b\n  \x7d\n\x7d\n"

/-- The function that names its mutability before `internal` is taken to be public and kept. -/
theorem late_internal_exposed :
    ["view".toList, "internal".toList].filterMap (List.lookup · Function.visibilities) = [.intern] ∧
    (lines internalSource)[1]? =
      some ("  ".toList ++ headLine "f" [] ["view".toList, "internal".toList] none []) ∧
    ∃ s, extract? internalSource [] = some s ∧ ∃ f ∈ s.functions, f.line = 2 ∧
      f.name = "f".toList ∧ f.visibility = .pub ∧ f.isExposed = true ∧
      ({} : Recipe).keepsFunction f = true :=
  ⟨rfl, rfl, _, rfl, _, List.mem_cons_self, rfl, rfl, rfl, rfl, rfl⟩

/-- The function that says `internal` first is hidden, and its late `view` is not seen. -/
theorem first_internal_hidden :
    ∃ s f, extract? internalSource [] = some s ∧ s.functions.filter (·.line == 4) = [f] ∧
      f.name = "g".toList ∧ f.visibility = .intern ∧ f.mutability = .nonpayable ∧
      f.isExposed = false ∧
      ∀ r : Recipe, r.keepsFunction f = true ↔ "g".toList ∈ r.expose := by
  have hfirst : Leads Function.visibilities ["internal".toList, "virtual".toList, "view".toList]
      .intern := (leading?_eq_some_iff unmixed_visibilities).1 rfl
  have hnone : ∀ m, ¬ Leads mutabilities (afterLeading Function.visibilities
      ["internal".toList, "virtual".toList, "view".toList]) m := by
    intro m hm
    have hlead : none = some m := (leading?_eq_some_iff unmixed_mutabilities).2 hm
    cases hlead
  have hlines : lines internalSource = ["contract A \x7b".toList,
      "  function f() view internal \x7b".toList, "  \x7d".toList] ++
      ("  ".toList ++ headLine "g" "uint a" ["internal".toList, "virtual".toList, "view".toList]
        (some "uint".toList) []) :: (lines internalSource).drop 4 := by decide +kernel
  obtain ⟨s, f, hs, hone, hname, hvisibility, hmutability, hexposed, hkeeps⟩ :=
    specifiers_of_head_line [] (by rfl) hlines (by decide) (by decide) (by decide) (by decide)
      (by simp; decide)
  refine ⟨s, f, hs, hone, hname, (hvisibility _).2 (.inl hfirst), (hmutability _).2 (.inr ⟨rfl, hnone⟩),
    hexposed.2 (.inl hfirst), fun r => ?_⟩
  exact (hkeeps r).trans ⟨fun h => h.resolve_right fun hkept => hkept.2 (.inl hfirst), .inl⟩

end SolInterface.Source
