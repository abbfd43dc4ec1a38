import SolInterface.Proofs.Canonical.Names

/-!
What each of the readers of events, errors and variables finds in a member of a canonical source:
the member itself if it is of that sort, and nothing in a member of another sort.
-/
namespace SolInterface.Canonical
open Text SolInterface.Function

section Silence

variable {α : Type} {read : Bool → Text → Option (α × Text)} {key : Text} {ends : Char → Bool}
  {visibility : Visibility} {mutability : Option { m : Mutability // m ∈ [.view, .pure, .payable] }}

theorem occurrencesFrom_indent (h : WordLed read key ends) (n : Nat) (t : Text) :
    occurrencesFrom read 0 false n (indent ++ t) = occurrencesFrom read 0 false n t := by
  have hspace : ∀ u : Text, occurrencesFrom read 0 false n (' ' :: u) =
      occurrencesFrom read 0 false n u :=
    h.occurrencesFrom_separator (by rfl) (by decide) false n
  change occurrencesFrom read 0 false n (' ' :: ' ' :: ' ' :: ' ' :: t) = _
  rw [hspace, hspace, hspace, hspace]

theorem dropWhile_spaced {ws : List Text} (hw : ∀ w ∈ ws, IsName w) (t : Text) :
    (spaced ws t).dropWhile isPlain = t.dropWhile isPlain := by
  rw [spaced_append, List.dropWhile_append_of_pos (isPlain_of_spaced hw)]

/-- Words are passed up to a text that is not announced by `ends`, if none of them is the keyword
before a parenthesis. -/
theorem occurrencesFrom_words (h : WordLed read key ends) {ws : List Text} {c : Char}
    (hc : ends c = false) (hw : ∀ w ∈ ws, IsName w ∧ (c = '(' → w ≠ key)) {t r : Text}
    (hr : t.dropWhile isPlain = c :: r) (n : Nat) :
    occurrencesFrom read 0 false n (spaced ws t) = occurrencesFrom read 0 false n t := by
  induction ws with
  | nil => rfl
  | cons w ws ih =>
    obtain ⟨hname, hkey⟩ := hw w (by simp)
    have hws : ∀ v ∈ ws, IsName v ∧ (c = '(' → v ≠ key) := fun v hv => hw v (by simp [hv])
    have hnext : (' ' :: spaced ws t).dropWhile isPlain = c :: r := by
      change (spaced ws t).dropWhile isPlain = c :: r
      rw [dropWhile_spaced fun v hv => (hws v hv).1, hr]
    have hnone := h.read_eq_none hc hname hkey (stops_cons.2 rfl) hnext false
    rw [spaced_cons, h.occurrencesFrom_word hname hnone,
      h.occurrencesFrom_separator (by rfl) (by decide), ih hws]

/-- A word up to the character that ends it. -/
theorem occurrencesFrom_last (h : WordLed read key ends) {w : Text} {c : Char} (hc : ends c = false)
    (hw : IsName w) (hkey : c = '(' → w ≠ key) (hplain : isPlain c = false) (n : Nat) (t : Text) :
    occurrencesFrom read 0 false n (w ++ c :: t) = occurrencesFrom read 0 false n t := by
  have hword : isWord c = false := by
    simp only [isPlain, Bool.or_eq_false_iff] at hplain
    exact hplain.1
  have hn : c ≠ '\n' := by
    rintro rfl
    exact absurd hplain (by decide)
  have hdrop : (c :: t).dropWhile isPlain = c :: t := dropWhile_of_stops (stops_cons.2 hplain)
  have hnone := h.read_eq_none hc hw hkey (stops_cons.2 hword) hdrop false
  rw [h.occurrencesFrom_word hw hnone, h.occurrencesFrom_separator hword hn]

/-- The start of a declaration up to its parenthesis. -/
theorem occurrencesFrom_opening (h : WordLed read key ends) (he : ends '(' = false) {w name : Text}
    (hw : IsName w ∧ w ≠ key) (hn : IsName name ∧ name ≠ key) (n : Nat) (t : Text) :
    occurrencesFrom read 0 false n (w ++ ' ' :: (name ++ '(' :: t)) =
      occurrencesFrom read 0 false n t := by
  have hparen : (name ++ '(' :: t).dropWhile isPlain = '(' :: t :=
    dropWhile_run (fun c hc => by simp [isPlain, hn.1.2 c hc]) (stops_cons.2 rfl)
  have hfirst : occurrencesFrom read 0 false n (spaced [w] (name ++ '(' :: t)) =
      occurrencesFrom read 0 false n (name ++ '(' :: t) :=
    occurrencesFrom_words h he (by simpa using hw) hparen n
  rw [spaced_cons, spaced_nil] at hfirst
  rw [hfirst, occurrencesFrom_last h he hn.1 (fun _ => hn.2) (by rfl)]

/-- A list of fields up to the closing parenthesis. -/
theorem occurrencesFrom_fields (h : WordLed read key ends)
    (he : ∀ c, ends c = true → c = '=' ∨ c = ';') (fields : List Field) (n : Nat) (t : Text) :
    occurrencesFrom read 0 false n (fieldsText fields ++ ')' :: t) =
      occurrencesFrom read 0 false n t := by
  have hfields : ∀ d ∈ fieldsText fields, ends d = false ∧ d ≠ '(' := by
    intro d hd
    have hne : ∀ {e : Char}, isWord e = false → e ≠ ' ' → e ≠ ',' → d ≠ e := by
      rintro e hword hspace hcomma rfl
      exact notMem_fieldsText hword hspace hcomma fields hd
    exact ⟨ends_eq_false he (hne (by rfl) (by decide) (by decide)) (hne (by rfl) (by decide) (by decide)),
      hne (by rfl) (by decide) (by decide)⟩
  have hline : (fieldsText fields).count '\n' = 0 :=
    List.count_eq_zero_of_not_mem (notMem_fieldsText (by rfl) (by decide) (by decide) fields)
  rw [h.occurrencesFrom_bounded hfields ⟨ends_eq_false he (by decide) (by decide), by decide⟩ (by rfl), hline,
    Nat.add_zero]

/-- Nothing is found in an event or error under another keyword. -/
theorem occurrencesFrom_notice (h : WordLed read key ends)
    (he : ∀ c, ends c = true → c = '=' ∨ c = ';') (hkey : key ∈ reserved) {kind : NoticeKind}
    (hkind : kind.keyword ≠ key) (name : Identifier) (params : List Field) (n : Nat) (t : Text) :
    occurrencesFrom read 0 false n ((Member.notice kind name params).text ++ t) =
      occurrencesFrom read 0 false (n + 1) t := by
  have hshape : (Member.notice kind name params).text ++ t = indent ++ (kind.keyword ++ ' ' ::
      (name.text ++ '(' :: (fieldsText params ++ ')' :: ';' :: '\n' :: t))) := by
    simp [Member.text, Member.lines, Member.declaration]
  have hword : IsName kind.keyword := by cases kind <;> decide
  have hparen : ends '(' = false := ends_eq_false he (by decide) (by decide)
  rw [hshape, occurrencesFrom_indent h,
    occurrencesFrom_opening h hparen ⟨hword, hkind⟩ ⟨name.isName, name.ne_reserved hkey⟩,
    occurrencesFrom_fields h he, h.occurrencesFrom_separator (by rfl) (by decide),
    h.occurrencesFrom_newline]

theorem headEnd_returns {returns : List Field} (hne : returns ≠ []) (t : Text) :
    headEnd (returnsText returns) t = spaced ["returns".toList]
      ('(' :: (fieldsText returns ++ ')' :: ' ' :: '{' :: t)) := by
  simp [returnsText, hne, headEnd, returnsPart]

theorem dropWhile_headEnd (returns : List Field) (t : Text) :
    ∃ c r, (headEnd (returnsText returns) t).dropWhile isPlain = c :: r ∧ (c = '{' ∨ c = '(') := by
  by_cases hnil : returns = []
  · subst hnil
    exact ⟨'{', t, rfl, Or.inl rfl⟩
  · rw [headEnd_returns hnil, dropWhile_spaced (by decide)]
    exact ⟨'(', _, rfl, Or.inr rfl⟩

/-- The end of a function's head and its empty body. -/
theorem occurrencesFrom_headEnd (h : WordLed read key ends)
    (he : ∀ c, ends c = true → c = '=' ∨ c = ';') (hkey : key ≠ "returns".toList)
    (returns : List Field) (n : Nat) (t : Text) :
    occurrencesFrom read 0 false n
        (headEnd (returnsText returns) ('\n' :: (indent ++ '}' :: '\n' :: t))) =
      occurrencesFrom read 0 false (n + 2) t := by
  have hparen : ends '(' = false := ends_eq_false he (by decide) (by decide)
  have hbody : occurrencesFrom read 0 false n ('{' :: '\n' :: (indent ++ '}' :: '\n' :: t)) =
      occurrencesFrom read 0 false (n + 2) t := by
    rw [h.occurrencesFrom_separator (by rfl) (by decide), h.occurrencesFrom_newline,
      occurrencesFrom_indent h, h.occurrencesFrom_separator (by rfl) (by decide),
      h.occurrencesFrom_newline]
  by_cases hnil : returns = []
  · subst hnil
    exact hbody
  · have hreturns : ∀ w ∈ ["returns".toList], IsName w ∧ ('(' = '(' → w ≠ key) := by
      intro w hw
      rw [List.mem_singleton.1 hw]
      exact ⟨by decide, fun _ => hkey.symm⟩
    rw [headEnd_returns hnil, occurrencesFrom_words h hparen hreturns (dropWhile_of_stops (stops_cons.2 rfl)),
      h.occurrencesFrom_separator (by rfl) (by decide), occurrencesFrom_fields h he,
      h.occurrencesFrom_separator (by rfl) (by decide), hbody]

/-- Nothing is found in a function. -/
theorem occurrencesFrom_function (h : WordLed read key ends)
    (he : ∀ c, ends c = true → c = '=' ∨ c = ';') (hkey : key ∈ reserved)
    (hfree : key ∉ headWords) (name : Identifier) (params returns : List Field) (n : Nat) (t : Text) :
    occurrencesFrom read 0 false n
        ((Member.function name params visibility mutability returns).text ++ t) =
      occurrencesFrom read 0 false (n + 2) t := by
  have hother : ∀ {w : Text}, w ∈ headWords → w ≠ key := fun hw he => hfree (he ▸ hw)
  let tail : Text := headEnd (returnsText returns) ('\n' :: (indent ++ '}' :: '\n' :: t))
  have hshape : (Member.function name params visibility mutability returns).text ++ t =
      indent ++ ("function".toList ++ ' ' :: (name.text ++ '(' :: (fieldsText params ++ ')' :: ' ' ::
        spaced (specifiers visibility mutability) tail))) := by
    simp only [Member.text, Member.lines, Member.declaration, headLine_eq]
    rw [spaced_append _ tail, spaced_append]
    simp [tail, headEnd]
  have hparen : ends '(' = false := ends_eq_false he (by decide) (by decide)
  obtain ⟨c, r, hend, hc⟩ := dropWhile_headEnd returns ('\n' :: (indent ++ '}' :: '\n' :: t))
  have hc : ends c = false := by
    rcases hc with rfl | rfl <;> exact ends_eq_false he (by decide) (by decide)
  have hwords : ∀ w ∈ specifiers visibility mutability, IsName w ∧ (c = '(' → w ≠ key) :=
    fun w hw => ⟨isName_headWords w (mem_headWords hw), fun _ => hother (mem_headWords hw)⟩
  rw [hshape, occurrencesFrom_indent h,
    occurrencesFrom_opening h hparen ⟨by decide, hother (by decide)⟩
      ⟨name.isName, name.ne_reserved hkey⟩,
    occurrencesFrom_fields h he, h.occurrencesFrom_separator (by rfl) (by decide),
    occurrencesFrom_words h hc hwords hend, occurrencesFrom_headEnd h he (hother (by decide)).symm]

theorem immutability_append (isImmutable : Bool) (t : Text) :
    Variable.immutability isImmutable ++ t =
      spaced (if isImmutable then ["immutable".toList] else []) t := by
  cases isImmutable <;> rfl

/-- A type and the space after it, before a variable's name and semicolon. -/
theorem occurrencesFrom_type (h : WordLed read key fun _ => false) (hkey : key ≠ "mapping".toList)
    (type : VariableType) {t r : Text} (hr : t.dropWhile isPlain = ';' :: r) (n : Nat) :
    occurrencesFrom read 0 false n (type.text ++ ' ' :: t) = occurrencesFrom read 0 false n t := by
  have hspace : ∀ u : Text, occurrencesFrom read 0 false n (' ' :: u) =
      occurrencesFrom read 0 false n u :=
    h.occurrencesFrom_separator (by rfl) (by decide) false n
  cases type with
  | primitive p =>
    have hword : ∀ w ∈ [p.text], IsName w ∧ (';' = '(' → w ≠ key) := by
      intro w hw
      rw [List.mem_singleton.1 hw]
      exact ⟨p.isName, fun hne => absurd hne (by decide)⟩
    have hpass := occurrencesFrom_words h rfl hword hr n
    rwa [spaced_cons, spaced_nil] at hpass
  | mapping domain range =>
    have hshape : (VariableType.mapping domain range).text ++ ' ' :: t =
        "mapping".toList ++ '(' :: (spaced [domain.text] ('=' :: '>' :: ' ' ::
          (range.text ++ ')' :: ' ' :: t))) := by
      change mappingText domain range ++ ' ' :: t = _
      unfold mappingText
      rw [spaced_cons, spaced_nil]
      simp
    have hdomain : ∀ w ∈ [domain.text], IsName w ∧ ('=' = '(' → w ≠ key) := by
      intro w hw
      rw [List.mem_singleton.1 hw]
      exact ⟨domain.isName, fun hne => absurd hne (by decide)⟩
    rw [hshape, occurrencesFrom_last h rfl (by decide) (fun _ => Ne.symm hkey) (by rfl),
      occurrencesFrom_words h rfl hdomain (dropWhile_of_stops (stops_cons.2 rfl)),
      h.occurrencesFrom_separator (by rfl) (by decide),
      h.occurrencesFrom_separator (by rfl) (by decide), hspace,
      occurrencesFrom_last h rfl range.isName (fun hne => absurd hne (by decide)) (by rfl), hspace]

/-- No event and no error is found in a variable. -/
theorem occurrencesFrom_variable (h : WordLed read key fun _ => false)
    (hkey : key ≠ "mapping".toList) (type : VariableType) (v : { v : Visibility // v ≠ .ext })
    (isImmutable : Bool) (name : Identifier) (n : Nat) (t : Text) :
    occurrencesFrom read 0 false n ((Member.stateVariable type v isImmutable name).text ++ t) =
      occurrencesFrom read 0 false (n + 1) t := by
  let words : List Text := v.1.keyword :: if isImmutable then ["immutable".toList] else []
  have hshape : (Member.stateVariable type v isImmutable name).text ++ t =
      indent ++ (type.text ++ ' ' :: spaced words (name.text ++ ';' :: '\n' :: t)) := by
    rw [spaced_cons, ← immutability_append]
    simp [Member.text, Member.lines, Member.declaration]
  have hwords : ∀ w ∈ words, IsName w := by
    intro w hw
    rcases List.mem_cons.1 hw with rfl | hw
    · cases v.1 <;> decide
    · cases isImmutable with
      | false => cases hw
      | true =>
        rw [List.mem_singleton.1 hw]
        decide
  have hname : (name.text ++ ';' :: '\n' :: t).dropWhile isPlain = ';' :: '\n' :: t :=
    dropWhile_run (fun c hc => by simp [isPlain, name.isName.2 c hc]) (stops_cons.2 rfl)
  have hend := (dropWhile_spaced hwords (name.text ++ ';' :: '\n' :: t)).trans hname
  have hfree : ∀ w ∈ words, IsName w ∧ (';' = '(' → w ≠ key) :=
    fun w hw => ⟨hwords w hw, fun hne => absurd hne (by decide)⟩
  rw [hshape, occurrencesFrom_indent h, occurrencesFrom_type h hkey type hend,
    occurrencesFrom_words h rfl hfree hname,
    occurrencesFrom_last h rfl name.isName (fun hne => absurd hne (by decide)) (by rfl),
    h.occurrencesFrom_newline]

end Silence

/-! What is found in a member of the reader's own sort. -/

theorem occurrencesFrom_notice_self (kind : NoticeKind) (name : Identifier) (params : List Field)
    (n : Nat) (t : Text) :
    occurrencesFrom (Notice.read? kind.keyword) 0 false n
        ((Member.notice kind name params).text ++ t) =
      ⟨n, (Member.notice kind name params).declaration, (name.text, fieldsText params)⟩ ::
        occurrencesFrom (Notice.read? kind.keyword) 0 false (n + 1) t := by
  have hword : IsName kind.keyword := by cases kind <;> decide
  have h := Notice.wordLed hword
  let front : Text := kind.keyword ++ ' ' :: (name.text ++ '(' :: (fieldsText params ++ [')']))
  have hdeclaration : (Member.notice kind name params).declaration = front ++ [';'] := by
    simp [front, Member.declaration]
  have hshape : (Member.notice kind name params).text ++ t =
      indent ++ (front ++ ';' :: '\n' :: t) := by
    simp [Member.text, Member.lines, hdeclaration]
  have hline : '\n' ∉ front := fun hmem =>
    notMem_declaration (by rfl) (.notice kind name params)
      (hdeclaration ▸ List.mem_append_left _ hmem)
  have hread : Notice.read? kind.keyword false (front ++ ';' :: '\n' :: t) =
      some ((name.text, fieldsText params), '\n' :: t) := by
    have hparen : ')' ∉ fieldsText params := (flat_fieldsText params).2.1
    have hwhole : Notice.read? kind.keyword false (kind.keyword ++ ' ' ::
        (name.text ++ '(' :: (fieldsText params ++ ')' :: ';' :: '\n' :: t))) = _ :=
      Notice.read?_declaration name.isName hparen ('\n' :: t)
    simpa [front] using hwhole
  rw [hshape, occurrencesFrom_indent h, occurrencesFrom_found hline (by decide) hread, hdeclaration]
  exact congrArg _ (h.occurrencesFrom_newline _ n t)

theorem type?_primitive (p : Primitive) (t : Text) :
    Variable.type? (p.text ++ ' ' :: t) = some (p.text, ' ' :: t) := by
  cases p with
  | sized stem digits =>
    have hdigits : ∀ c ∈ digits.1, isDigit c := fun c hc => isDigit_of_isDecimal (digits.2 c hc)
    have hstop : Stops isDigit (' ' :: t) := stops_cons.2 rfl
    have hsized : Variable.sized? stem.text (stem.text ++ digits.1 ++ ' ' :: t) =
        some (stem.text ++ digits.1, ' ' :: t) := by
      simp only [Variable.sized?, List.append_assoc, after?_append, Option.bind_eq_bind,
        Option.bind_some, takeWhile_run hdigits hstop, dropWhile_run hdigits hstop]
    change Variable.type? (stem.text ++ digits.1 ++ ' ' :: t) = _
    unfold Variable.type?
    -- The other alternatives fail at the first letters of the stem.
    cases stem with
    | uint =>
      rw [show Variable.sized? "uint" _ = _ from hsized]
      rfl
    | int =>
      rw [show Variable.sized? "int" _ = _ from hsized]
      rfl
    | bytes =>
      rw [show Variable.sized? "bytes" _ = _ from hsized]
      rfl
  | string => rfl
  | address => rfl
  | bool => rfl

theorem type?_text (type : VariableType) (t : Text) :
    Variable.type? (type.text ++ ' ' :: t) = some (type.text, ' ' :: t) := by
  cases type with
  | primitive p => exact type?_primitive p t
  | mapping domain range =>
    have hdomain : ')' ∉ domain.text := domain.isName.notMem (by rfl)
    have hrange : ')' ∉ range.text := range.isName.notMem (by rfl)
    have hinside : ')' ∉ domain.text ++ " => ".toList ++ range.text := by simp [hdomain, hrange]
    have hread := Variable.type?_mapping (by simp) hinside (' ' :: t)
    change Variable.type? (mappingText domain range ++ ' ' :: t) = some (mappingText domain range, _)
    unfold mappingText
    simpa using hread

theorem oneOf?_constancies (name : Identifier) : oneOf? Variable.constancies name.text = none := by
  cases h : oneOf? Variable.constancies name.text with
  | none => rfl
  | some found =>
    obtain ⟨key, hkey, hname⟩ := oneOf?_eq_some h
    have hlead : ∀ o ∈ Variable.constancies, o.1 ∈ leads := by decide
    exact absurd ⟨found.2, hname.symm⟩ (name.safe.noLead key (hlead _ hkey))

theorem occurrencesFrom_variable_self (type : VariableType) (v : { v : Visibility // v ≠ .ext })
    (isImmutable : Bool) (name : Identifier) (n : Nat) (t : Text) :
    occurrencesFrom Variable.Parts.read? 0 false n
        ((Member.stateVariable type v isImmutable name).text ++ t) =
      ⟨n, (Member.stateVariable type v isImmutable name).declaration,
        ⟨type.text, some v.1, isImmutable, name.text⟩⟩ ::
        occurrencesFrom Variable.Parts.read? 0 false (n + 1) t := by
  have h := Variable.Parts.wordLed
  let front : Text := type.text ++ ' ' :: (v.1.keyword ++ ' ' ::
    (Variable.immutability isImmutable ++ name.text))
  have hdeclaration : (Member.stateVariable type v isImmutable name).declaration = front ++ [';'] := by
    simp [front, Member.declaration]
  have hshape : (Member.stateVariable type v isImmutable name).text ++ t =
      indent ++ (front ++ ';' :: '\n' :: t) := by
    simp [Member.text, Member.lines, hdeclaration]
  have hline : '\n' ∉ front := fun hmem =>
    notMem_declaration (by rfl) (.stateVariable type v isImmutable name)
      (hdeclaration ▸ List.mem_append_left _ hmem)
  have hread : Variable.Parts.read? false (front ++ ';' :: '\n' :: t) =
      some (⟨type.text, some v.1, isImmutable, name.text⟩, '\n' :: t) := by
    have hnamed := Variable.constantNamed?_declared name.isName (oneOf?_constancies name)
      isImmutable ('\n' :: t)
    have hwhole := Variable.Parts.read?_declaration (type?_text type) v.2 hnamed
    simpa [front] using hwhole
  rw [hshape, occurrencesFrom_indent h, occurrencesFrom_found hline (by decide) hread, hdeclaration]
  exact congrArg _ (h.occurrencesFrom_newline _ n t)

/-! Lists of members. -/

/-- The event or error that a member is, if it is of that kind. -/
def Member.noticesAt (kind : NoticeKind) (n : Nat) : Member → List (Occurrence (Text × Text))
  | .notice k name params =>
    if k = kind then
      [⟨n, (Member.notice k name params).declaration, (name.text, fieldsText params)⟩]
    else []
  | _ => []

def Member.variablesAt (n : Nat) : Member → List (Occurrence Variable.Parts)
  | .stateVariable type v isImmutable name =>
    [⟨n, (Member.stateVariable type v isImmutable name).declaration,
      ⟨type.text, some v.1, isImmutable, name.text⟩⟩]
  | _ => []

theorem occurrencesFrom_noticesAt (kind : NoticeKind) (m : Member) (n : Nat) (t : Text) :
    occurrencesFrom (Notice.read? kind.keyword) 0 false n (m.text ++ t) =
      m.noticesAt kind n ++
        occurrencesFrom (Notice.read? kind.keyword) 0 false (n + m.height) t := by
  have hword : IsName kind.keyword := by cases kind <;> decide
  have hreserved : kind.keyword ∈ reserved := by cases kind <;> decide
  have h := Notice.wordLed hword
  cases m with
  | notice k name params =>
    by_cases hk : k = kind
    · subst hk
      rw [occurrencesFrom_notice_self, Member.noticesAt, if_pos rfl]
      rfl
    · have hne : k.keyword ≠ kind.keyword := by revert hk; cases k <;> cases kind <;> decide
      rw [occurrencesFrom_notice h (fun c hc => by cases hc) hreserved hne, Member.noticesAt,
        if_neg hk]
      rfl
  | stateVariable type v isImmutable name =>
    have hne : kind.keyword ≠ "mapping".toList := by cases kind <;> decide
    rw [occurrencesFrom_variable h hne]
    rfl
  | function name params visibility mutability returns =>
    have hfree : kind.keyword ∉ headWords := by cases kind <;> decide
    rw [occurrencesFrom_function h (fun c hc => by cases hc) hreserved hfree]
    rfl

theorem occurrencesFrom_variablesAt (m : Member) (n : Nat) (t : Text) :
    occurrencesFrom Variable.Parts.read? 0 false n (m.text ++ t) =
      m.variablesAt n ++ occurrencesFrom Variable.Parts.read? 0 false (n + m.height) t := by
  have h := Variable.Parts.wordLed
  have he : ∀ c, (c == '=' || c == ';') = true → c = '=' ∨ c = ';' := by simp
  cases m with
  | notice kind name params =>
    have hne : kind.keyword ≠ "mapping".toList := by cases kind <;> decide
    rw [occurrencesFrom_notice h he (by decide) hne]
    rfl
  | stateVariable type v isImmutable name =>
    rw [occurrencesFrom_variable_self]
    rfl
  | function name params visibility mutability returns =>
    rw [occurrencesFrom_function h he (by decide) (by decide)]
    rfl

def placed : Nat → List Member → List (Nat × Member)
  | _, [] => []
  | n, m :: ms => (n, m) :: placed (n + m.height) ms

/-- A reader that treats each member on its own treats them one after the other. -/
theorem occurrencesFrom_members {α : Type} {read : Bool → Text → Option (α × Text)}
    {found : Nat → Member → List (Occurrence α)}
    (hstep : ∀ m n t, occurrencesFrom read 0 false n (m.text ++ t) =
      found n m ++ occurrencesFrom read 0 false (n + m.height) t)
    (ms : List Member) (n : Nat) (t : Text) :
    occurrencesFrom read 0 false n (ms.flatMap Member.text ++ t) =
      (placed n ms).flatMap (fun p => found p.1 p.2) ++
        occurrencesFrom read 0 false (n + (ms.map Member.height).sum) t := by
  induction ms generalizing n with
  | nil => rfl
  | cons m ms ih =>
    rw [List.flatMap_cons, List.append_assoc, hstep, ih, placed, List.flatMap_cons, List.map_cons,
      List.sum_cons, List.append_assoc, Nat.add_assoc]

end SolInterface.Canonical
