import SolInterface.Proofs.Canonical.Names

/-!
The directives of a canonical source and the head of its contract: the directives are read back, the
readers of members find nothing in them, and the first contract head is that of the document.
-/
namespace SolInterface.Canonical
open Text Directive

/-! Lists of names. -/

theorem notMem_joinWith {names : List Text} (hn : ∀ w ∈ names, Safe w) {sep : Text} {c : Char}
    (hs : c ∉ sep) (hc : isWord c = false) : c ∉ joinWith sep names := by
  intro hmem
  rcases mem_joinWith hmem with h | ⟨w, hw, h⟩
  · exact hs h
  · exact (hn w hw).isName.notMem hc h

/-- No occurrence of `part` meets a `sep`. -/
def Cuts (part sep : Text) : Prop :=
  ∀ u v, occursIn part (u ++ (sep ++ v)) = (occursIn part u || occursIn part v)

theorem cuts_singleton {part : Text} {c : Char} (hne : part ≠ []) (hc : c ∉ part) : Cuts part [c] :=
  occursIn_append_cons hne hc

theorem Cuts.between {part mid sep sep' : Text} (h : Cuts part sep) (h' : Cuts part sep')
    (hm : occursIn part mid = false) : Cuts part (sep ++ mid ++ sep') := by
  intro u v
  rw [List.append_assoc, List.append_assoc, h, h', hm, Bool.false_or]

theorem Cuts.joinWith {part sep : Text} {names : List Text} (h : Cuts part sep) (hne : part ≠ [])
    (hn : ∀ w ∈ names, occursIn part w = false) : occursIn part (joinWith sep names) = false := by
  unfold Text.joinWith
  induction names with
  | nil => simpa [occursIn] using hne
  | cons w names ih =>
    have hw := hn w (by simp)
    cases names with
    | nil => simpa using hw
    | cons v names =>
      rw [List.intercalate_cons_cons, List.append_assoc, h, hw, Bool.false_or]
      exact ih fun x hx => hn x (by simp [hx])

theorem cuts_contract : ∀ sep ∈ [[' '], [',', ' '], " with ".toList], Cuts "contract" sep := by
  have hspace : Cuts "contract" [' '] := cuts_singleton (by decide) (by decide)
  have hcomma : Cuts "contract" [','] := cuts_singleton (by decide) (by decide)
  have hnil : occursIn "contract" [] = false := rfl
  have hwith : occursIn "contract" "with" = false := rfl
  intro sep hs
  simp only [List.mem_cons, List.not_mem_nil, or_false] at hs
  rcases hs with rfl | rfl | rfl
  · exact hspace
  · exact hcomma.between hspace hnil
  · exact hspace.between hspace hwith

/-! Directive lines. -/

theorem Quotable.quotable {t : Text} (h : Quotable t) : Wording.Quotable t :=
  ⟨h.ne_nil, fun hc => h.plain _ hc (by simp), fun hc => h.plain _ hc (by simp)⟩

theorem listable_of_safe {names : List Text} (h : names ≠ [] ∧ ∀ w ∈ names, Safe w) :
    Wording.Listable names :=
  ⟨h.1, fun w hw => ⟨(h.2 w hw).ne_nil, fun c hc => isBlank_of_isWord ((h.2 w hw).isName.2 c hc)⟩⟩

theorem commaListable_of_safe {names : List Text} (h : names ≠ [] ∧ ∀ w ∈ names, Safe w) :
    Wording.CommaListable names := by
  refine ⟨h.1, fun w hw => ?_⟩
  have hname := (h.2 w hw).isName
  exact ⟨hname.1, trim_of_isName hname, hname.notMem (by rfl), hname.notMem (by rfl)⟩

theorem Ordinary.fits {w : Wording} (h : Ordinary w) : w.Fits .custom := by
  cases w with
  | quotedBuild path => exact Quotable.quotable h
  | copyright notice => exact Quotable.quotable h
  | quotedImport path gap =>
    cases gap with
    | none => exact ⟨Quotable.quotable h, by simp⟩
    | some gap => exact h.elim
  | replace old new => exact ⟨h.1.isName, h.2.isName⟩
  | remove names => exact listable_of_safe h
  | exclude names => exact listable_of_safe h
  | expose names => exact listable_of_safe h
  | getter names => exact listable_of_safe h
  | inherit names => exact commaListable_of_safe h
  | bareBuild path => exact h.elim
  | moduleTask source output tail => exact h.elim
  | bareImport path gap => exact h.elim

/-- What follows the keyword is a quoted text, or safe names with separators between them. -/
theorem Ordinary.argument_cases {w : Wording} (h : Ordinary w) :
    (∃ t, Quotable t ∧ w.argument = Wording.inQuotes t []) ∨
      ∃ names sep, (∀ v ∈ names, Safe v) ∧ sep ∈ [[' '], [',', ' '], " with ".toList] ∧
        w.argument = joinWith sep names := by
  cases w with
  | quotedBuild path => exact Or.inl ⟨path, h, rfl⟩
  | copyright notice => exact Or.inl ⟨notice, h, rfl⟩
  | quotedImport path gap =>
    cases gap with
    | none => exact Or.inl ⟨path, h, rfl⟩
    | some gap => exact h.elim
  | replace old new =>
    have hsafe : Safe old ∧ Safe new := h
    refine Or.inr ⟨[old, new], " with ", by simpa using hsafe, by simp, ?_⟩
    simp [Wording.argument, joinWith]
  | remove names => exact Or.inr ⟨names, [' '], h.2, by simp, rfl⟩
  | exclude names => exact Or.inr ⟨names, [' '], h.2, by simp, rfl⟩
  | expose names => exact Or.inr ⟨names, [' '], h.2, by simp, rfl⟩
  | getter names => exact Or.inr ⟨names, [' '], h.2, by simp, rfl⟩
  | inherit names => exact Or.inr ⟨names, [',', ' '], h.2, by simp, rfl⟩
  | bareBuild path => exact h.elim
  | moduleTask source output tail => exact h.elim
  | bareImport path gap => exact h.elim

theorem Ordinary.notMem {w : Wording} (h : Ordinary w) {c : Char} (hc : c ∈ ['\n', '(', ';', '=']) :
    c ∉ directiveLine w := by
  have hmarker : ∀ c ∈ ['\n', '(', ';', '='], c ∉ Dialect.custom.marker := by decide
  have hkeyword : ∀ c ∈ ['\n', '(', ';', '='], c ∉ w.kind.keyword := by
    cases w.kind <;> decide
  have hsep : ∀ c ∈ ['\n', '(', ';', '='], ∀ sep ∈ [[' '], [',', ' '], " with ".toList], c ∉ sep := by
    decide
  have hplain : ∀ c ∈ ['\n', '(', ';', '='], c ∈ ['"', '\n', '{', '(', ';', '='] ∧ isWord c = false ∧
      c ≠ ' ' ∧ c ≠ '"' := by
    decide
  obtain ⟨hlisted, hword, hspace, hquote⟩ := hplain c hc
  have hargument : c ∉ w.argument := by
    rcases h.argument_cases with ⟨t, ht, harg⟩ | ⟨names, sep, hnames, hs, harg⟩
    · have hbody : c ∉ t := fun hmem => ht.plain c hmem hlisted
      rw [harg]
      simp [Wording.inQuotes, hquote, hbody]
    · rw [harg]
      exact notMem_joinWith hnames (hsep c hc sep hs) hword
  simp [directiveLine, Wording.text, hmarker c hc, hkeyword c hc, hspace, hargument]

theorem Ordinary.noContract {w : Wording} (h : Ordinary w) :
    occursIn "contract" (directiveLine w) = false := by
  have hspace : ' ' ∉ "contract".toList := by decide
  have hquote : '"' ∉ "contract".toList := by decide
  have hne : "contract".toList ≠ [] := by decide
  have hargument : occursIn "contract" w.argument = false := by
    rcases h.argument_cases with ⟨t, ht, harg⟩ | ⟨names, sep, hnames, hs, harg⟩
    · have hopen := occursIn_append_cons hne hquote [] (t ++ '"' :: [])
      rw [occursIn_append_cons hne hquote t [], ht.noContract] at hopen
      rw [harg]
      exact hopen
    · rw [harg]
      exact (cuts_contract sep hs).joinWith hne fun v hv => (hnames v hv).noContract
  rw [directiveLine, occursIn_append_cons hne hspace, Wording.text,
    occursIn_append_cons hne hspace, hargument]
  cases w.kind <;> rfl

/-! The contract's head. -/

def baseList (bases : List Identifier) : Text := joinWith [',', ' '] (bases.map (·.text))

theorem baseList_ne_nil {bases : List Identifier} (hne : bases ≠ []) : baseList bases ≠ [] := by
  refine joinWith_ne_nil (by simpa using hne) fun w hw => ?_
  obtain ⟨i, -, rfl⟩ := List.mem_map.1 hw
  exact i.isName.1

theorem trim_baseList (bases : List Identifier) : trim (baseList bases) = baseList bases := by
  refine trim_eq_self_iff.2 ⟨?_, stops_reverse_joinWith fun w hw => ?_⟩
  · cases bases with
    | nil => exact stops_nil _
    | cons i bases => exact stops_joinWith i.isName.1 (by simpa using i.isName.stops_isBlank [])
  · obtain ⟨i, -, rfl⟩ := List.mem_map.1 hw
    exact ⟨i.isName.1, fun c hc =>
      isBlank_of_isWord (i.isName.2 c (List.mem_reverse.1 (List.mem_of_mem_head? hc)))⟩

theorem notMem_baseList {c : Char} (hcomma : c ≠ ',') (hspace : c ≠ ' ') (hword : isWord c = false)
    (bases : List Identifier) : c ∉ baseList bases := by
  refine notMem_joinWith (fun w hw => ?_) (by simp [hcomma, hspace]) hword
  obtain ⟨i, -, rfl⟩ := List.mem_map.1 hw
  exact i.safe

theorem baseList?_append {bases : List Identifier} (hne : bases ≠ []) (t : Text) :
    Contract.baseList? ("is".toList ++ ' ' :: (baseList bases ++ ' ' :: '{' :: t)) =
      some (baseList bases) := by
  have hbrace : '{' ∉ ' ' :: (baseList bases ++ [' ']) := by
    simp [notMem_baseList (c := '{') (by decide) (by decide) (by rfl)]
  have hshape : ' ' :: (baseList bases ++ ' ' :: '{' :: t) =
      ' ' :: (baseList bases ++ [' ']) ++ '{' :: t := by simp
  have htrim : trim (' ' :: (baseList bases ++ [' '])) = baseList bases := by
    rw [trim_space, trim_append_right _ (by decide), trim_baseList]
  unfold Contract.baseList?
  simp only [after?_append, Option.bind_eq_bind, Option.bind_some, hshape, takeWhile_ne hbrace,
    dropWhile_ne hbrace]
  cases hlist : baseList bases with
  | nil => exact absurd hlist (baseList_ne_nil hne)
  | cons c rest =>
    have hblank : isBlank ' ' = true := rfl
    rw [hlist] at htrim
    simpa [hblank] using htrim

theorem head?_append {name : Text} (hn : IsName name) (t : Text) :
    Contract.head? ("contract".toList ++ ' ' :: (name ++ ' ' :: t)) =
      match skipBlanks t with
      | '{' :: _ => some (name, [])
      | other => (Contract.baseList? other).map fun bases => (name, bases) := by
  have hword : word? (name ++ ' ' :: t) = some (name, ' ' :: t) :=
    hn.word?_append (stops_cons.2 rfl)
  simp only [Contract.head?, after?_append, Option.bind_eq_bind, Option.bind_some, blanks?_space,
    skipBlanks_of_stops (hn.stops_isBlank _), hword, skipBlanks_space]
  rfl

theorem head?_contractLine (name : Identifier) (bases : List Identifier) (t : Text) :
    Contract.head? (contractLine name bases ++ t) = some (name.text, baseList bases) := by
  have hshape : contractLine name bases ++ t =
      "contract".toList ++ ' ' :: (name.text ++ ' ' :: (basesText bases ++ '{' :: t)) := by
    unfold contractLine
    simp
  rw [hshape, head?_append name.isName]
  by_cases hnil : bases = []
  · subst hnil
    rfl
  · have hbases : basesText bases ++ '{' :: t =
        "is".toList ++ ' ' :: (baseList bases ++ ' ' :: '{' :: t) := by
      simp [basesText, baseList, hnil]
    have hstart : skipBlanks ("is".toList ++ ' ' :: (baseList bases ++ ' ' :: '{' :: t)) =
        "is".toList ++ ' ' :: (baseList bases ++ ' ' :: '{' :: t) := rfl
    rw [hbases, hstart]
    exact congrArg (Option.map _) (baseList?_append hnil t)

theorem head?_eq_none {t : Text} (h : after? "contract" t = none) : Contract.head? t = none := by
  rw [Contract.head?, h]
  rfl

/-- No contract head is found in the directives. -/
theorem firstMatch_directives {ws : List Wording} (h : ∀ w ∈ ws, Ordinary w) (t : Text) :
    firstMatch Contract.head? (ws.flatMap (fun w => directiveLine w ++ ['\n']) ++ t) =
      firstMatch Contract.head? t := by
  induction ws with
  | nil => rfl
  | cons w ws ih =>
    have hline := firstMatch_append_cons (fun _ => head?_eq_none) (by decide)
      (show '\n' ∉ "contract".toList by decide) (h w (by simp)).noContract
      (ws.flatMap (fun w => directiveLine w ++ ['\n']) ++ t)
    rw [← ih fun v hv => h v (by simp [hv]), ← hline]
    simp

theorem notMem_contractLine {c : Char} (hc : c ∈ ['\n', '(', ';', '=', '*', '/'])
    (name : Identifier) (bases : List Identifier) : c ∉ contractLine name bases := by
  have hother : ∀ c ∈ ['\n', '(', ';', '=', '*', '/'], isWord c = false ∧ c ≠ ' ' ∧ c ≠ ',' ∧ c ≠ '{' ∧
      c ∉ "contract ".toList ∧ c ∉ "is ".toList := by
    decide
  obtain ⟨hword, hspace, hcomma, hbrace, hcontract, his⟩ := hother c hc
  have hname : c ∉ name.text := name.isName.notMem hword
  have hlist : c ∉ joinWith [',', ' '] (bases.map (·.text)) := notMem_baseList hcomma hspace hword bases
  have hbases : c ∉ basesText bases := by
    unfold basesText
    split
    · exact List.not_mem_nil
    · simp only [List.mem_append, List.mem_singleton, not_or]
      exact ⟨⟨his, hlist⟩, hspace⟩
  unfold contractLine
  simp only [List.mem_append, List.mem_cons, List.not_mem_nil, or_false, not_or]
  exact ⟨hcontract, hname, hspace, hbases, hbrace⟩

theorem count_directives {ws : List Wording} (h : ∀ w ∈ ws, Ordinary w) :
    (ws.flatMap fun w => directiveLine w ++ ['\n']).count '\n' = ws.length := by
  induction ws with
  | nil => rfl
  | cons w ws ih =>
    have hline : (directiveLine w).count '\n' = 0 :=
      List.count_eq_zero_of_not_mem ((h w (by simp)).notMem (by decide))
    rw [List.flatMap_cons, List.count_append, List.count_append, hline,
      ih fun v hv => h v (by simp [hv]), List.count_singleton_self, List.length_cons]
    omega

/-- The readers of members find nothing before the contract's body. -/
theorem occurrencesFrom_prelude {α : Type} {read : Bool → Text → Option (α × Text)} {key : Text}
    {ends : Char → Bool} (h : WordLed read key ends) (he : ∀ c, ends c = true → c = '=' ∨ c = ';')
    {ws : List Wording} (hw : ∀ w ∈ ws, Ordinary w) (name : Identifier) (bases : List Identifier)
    (t : Text) :
    occurrencesFrom read 0 false 1 (ws.flatMap (fun w => directiveLine w ++ ['\n']) ++
      (contractLine name bases ++ '\n' :: t)) = occurrencesFrom read 0 false (ws.length + 2) t := by
  let front : Text := "contract ".toList ++ (name.text ++ ' ' :: basesText bases)
  let prelude : Text := ws.flatMap (fun w => directiveLine w ++ ['\n']) ++ front
  have hcontract : contractLine name bases = front ++ ['{'] := by
    unfold contractLine
    simp [front]
  have hshape : ws.flatMap (fun w => directiveLine w ++ ['\n']) ++
      (contractLine name bases ++ '\n' :: t) = prelude ++ '{' :: '\n' :: t := by
    simp [prelude, hcontract]
  have hfront : ∀ c ∈ ['\n', '(', ';', '=', '*', '/'], c ∉ front := fun c hc hmem =>
    notMem_contractLine hc name bases (hcontract ▸ List.mem_append_left _ hmem)
  have hfree : ∀ c ∈ ['(', ';', '='], c ∉ prelude := by
    intro c hc hmem
    rcases List.mem_append.1 hmem with hmem | hmem
    · obtain ⟨w, hmem', hc'⟩ := List.mem_flatMap.1 hmem
      rcases List.mem_append.1 hc' with hc' | hc'
      · exact (hw w hmem').notMem (List.mem_cons_of_mem _ hc) hc'
      · rw [List.mem_singleton.1 hc'] at hc
        exact absurd hc (by decide)
    · exact hfront c (by revert hc; simp; tauto) hmem
  have hbound : ∀ d ∈ prelude, ends d = false ∧ d ≠ '(' := by
    intro d hd
    have hne : ∀ c ∈ ['(', ';', '='], d ≠ c := fun c hc heq => hfree c hc (heq ▸ hd)
    exact ⟨ends_eq_false he (hne '=' (by decide)) (hne ';' (by decide)), hne '(' (by decide)⟩
  have hcount : prelude.count '\n' = ws.length := by
    rw [List.count_append, count_directives hw,
      List.count_eq_zero_of_not_mem (hfront '\n' (by decide)), Nat.add_zero]
  have hbrace : ends '{' = false ∧ '{' ≠ '(' :=
    ⟨ends_eq_false he (by decide) (by decide), by decide⟩
  rw [hshape, h.occurrencesFrom_bounded hbound hbrace (by rfl), hcount, h.occurrencesFrom_newline]
  congr 1
  omega

end SolInterface.Canonical
