import SolInterface.Proofs.Canonical.Lines
import SolInterface.Proofs.Canonical.Scan

/-!
The declarations of a canonical source: exactly the members it was written with, each with the line
on which it stands, and the contract with its bases.
-/
namespace SolInterface.Canonical
open Text Directive

/-! The records. -/

def noticeAt (kind : NoticeKind) : Nat × Member → Option Notice
  | (n, .notice k name params) =>
    if k = kind then
      some {
        name := name.text
        parameters := fieldsText params
        signature := (Member.notice k name params).declaration
        line := n }
    else none
  | _ => none

def variableAt : Nat × Member → Option Variable
  | (n, .stateVariable type visibility isImmutable name) =>
    some {
      name := name.text
      type := type.text
      visibility := visibility.1
      isConstant := isImmutable
      signature := (Member.stateVariable type visibility isImmutable name).declaration
      line := n }
  | _ => none

def functionAt : Nat × Member → Option Function
  | (n, .function name params visibility mutability returns) =>
    some {
      name := name.text
      visibility
      mutability := (mutability.map (·.1)).getD .nonpayable
      parameters := fieldsText params
      returns := fieldsText returns
      signature := ' ' :: (Member.function name params visibility mutability returns).declaration
      line := n }
  | _ => none

def Document.placed (d : Document) : List (Nat × Member) :=
  Canonical.placed (d.directives.length + 2) d.members

def Document.source (d : Document) : Source where
  contract := {
    name := d.name.text
    inheritance := baseList d.bases
    line := d.directives.length + 1 }
  functions := d.placed.filterMap functionAt
  events := d.placed.filterMap (noticeAt .event)
  errors := d.placed.filterMap (noticeAt .error)
  stateVariables := d.placed.filterMap variableAt

/-! Where the members stand. -/

theorem Member.height_pos (m : Member) : 0 < m.height := by
  cases m <;> exact Nat.succ_pos _

theorem sum_height (ms : List Member) :
    (ms.map Member.height).sum = (ms.flatMap Member.lines).length := by
  rw [List.length_flatMap]
  rfl

/-- A member stands on the line of its number. -/
theorem getElem?_placed {n : Nat} {ms : List Member} {p : Nat × Member} (h : p ∈ placed n ms)
    (tail : List Text) :
    n ≤ p.1 ∧ p.1 < n + (ms.map Member.height).sum ∧
      (ms.flatMap Member.lines ++ tail)[p.1 - n]? = some (indent ++ p.2.declaration) := by
  induction ms generalizing n with
  | nil => cases h
  | cons m ms ih =>
    have hpos := m.height_pos
    rw [List.map_cons, List.sum_cons]
    rcases List.mem_cons.1 h with rfl | h
    · refine ⟨Nat.le_refl _, by omega, ?_⟩
      rw [Nat.sub_self]
      rfl
    · obtain ⟨hlow, hhigh, hline⟩ := ih h
      refine ⟨by omega, by omega, ?_⟩
      have hlength : m.lines.length = m.height := rfl
      rw [List.flatMap_cons, List.append_assoc, List.getElem?_append_right (by omega), hlength,
        Nat.sub_sub]
      exact hline

namespace Document

theorem length_lines (d : Document) :
    d.lines.length = d.directives.length + (d.members.map Member.height).sum + 2 := by
  rw [sum_height]
  simp [lines]
  omega

theorem above_placed (d : Document) {p : Nat × Member} (h : p ∈ d.placed) :
    Doc.above (Text.lines d.text) [Dialect.custom.marker] p.1 = [] := by
  obtain ⟨hlow, hhigh, -⟩ := getElem?_placed h []
  have hlength := d.length_lines
  exact d.above_member (by omega) (by omega)

theorem getD_placed (d : Document) {p : Nat × Member} (h : p ∈ d.placed) :
    (Text.lines d.text).getD (p.1 - 1) [] = indent ++ p.2.declaration := by
  obtain ⟨hlow, hhigh, hline⟩ := getElem?_placed h ([['}']] ++ [[]])
  have hindex : p.1 - 1 - (d.directives.map directiveLine).length - 1 =
      p.1 - (d.directives.length + 2) := by
    rw [List.length_map]
    omega
  rw [List.getD_eq_getElem?_getD, lines_text, lines, List.append_assoc,
    List.getElem?_append_right (by rw [List.length_map]; omega), List.cons_append,
    List.getElem?_cons, if_neg (by rw [List.length_map]; omega), hindex, List.append_assoc, hline]
  rfl

end Document
/-! Events, errors and variables. -/

theorem Document.occurrences_text (d : Document) {α : Type} {read : Bool → Text → Option (α × Text)}
    {key : Text} {ends : Char → Bool} (h : WordLed read key ends)
    (he : ∀ c, ends c = true → c = '=' ∨ c = ';') {found : Nat → Member → List (Occurrence α)}
    (hstep : ∀ m n t, occurrencesFrom read 0 false n (m.text ++ t) =
      found n m ++ occurrencesFrom read 0 false (n + m.height) t) :
    occurrences read d.text = d.placed.flatMap fun p => found p.1 p.2 := by
  rw [occurrences, text_eq, occurrencesFrom_prelude h he d.ordinary, occurrencesFrom_members hstep,
    h.occurrencesFrom_separator (by rfl) (by decide), h.occurrencesFrom_newline]
  exact List.append_nil _

theorem Document.notices_text (d : Document) (kind : NoticeKind) :
    Source.notices kind.keyword d.text (Doc.above (Text.lines d.text) [Dialect.custom.marker]) =
      d.placed.filterMap (noticeAt kind) := by
  have hword : IsName kind.keyword := by cases kind <;> decide
  rw [Source.notices, d.occurrences_text (Notice.wordLed hword) (fun c hc => by cases hc)
    (occurrencesFrom_noticesAt kind), List.map_flatMap, List.filterMap_eq_flatMap_toList]
  refine List.flatMap_congr fun p hp => ?_
  have hdoc := d.above_placed hp
  obtain ⟨n, m⟩ := p
  cases m with
  | notice k name params =>
    by_cases hk : k = kind
    · simp [Member.noticesAt, noticeAt, hk, hdoc]
    · simp [Member.noticesAt, noticeAt, hk]
  | stateVariable type v isImmutable name => rfl
  | function name params visibility mutability returns => rfl

/-- The part after the type of a variable neither speaks of a function nor has parentheses. -/
theorem occursIn_named (v : { v : Visibility // v ≠ .ext }) (isImmutable : Bool) (name : Identifier)
    {front : Text} (hfront : 'f' ∉ front ∧ '(' ∉ front) :
    let line := front ++ ' ' :: (v.1.keyword ++ ' ' ::
      (Variable.immutability isImmutable ++ (name.text ++ [';'])))
    occursIn "function" line = false ∧ occursIn "(" line = false := by
  have hkeyword : 'f' ∉ v.1.keyword ∧ '(' ∉ v.1.keyword := by cases v.1 <;> decide
  have himmutable : 'f' ∉ Variable.immutability isImmutable ∧
      '(' ∉ Variable.immutability isImmutable := by
    cases isImmutable <;> decide
  have hne : "function".toList ≠ [] := by decide
  have hspace : ' ' ∉ "function".toList := by decide
  have hname : occursIn "function" (Variable.immutability isImmutable ++ (name.text ++ [';'])) =
      false := by
    have hend : occursIn "function" (name.text ++ ';' :: []) = false := by
      rw [occursIn_append_cons hne (by decide), name.safe.noFunction]
      rfl
    cases isImmutable with
    | false => exact hend
    | true =>
      have hcut := occursIn_append_cons hne hspace "immutable" (name.text ++ ';' :: [])
      rw [hend] at hcut
      exact hcut
  refine ⟨?_, ?_⟩
  · rw [occursIn_append_cons hne hspace, occursIn_append_cons hne hspace, hname,
      occursIn_eq_false (by decide : 'f' ∈ "function".toList) hfront.1,
      occursIn_eq_false (by decide : 'f' ∈ "function".toList) hkeyword.1]
    rfl
  · have hparen : '(' ∉ name.text := name.isName.notMem (by rfl)
    refine occursIn_eq_false (by decide : '(' ∈ "(".toList) ?_
    simp [hfront.2, hkeyword.2, himmutable.2, hparen]

theorem eraseFirst_append {a : Char} {part b : Text} (hb : a ∉ b) (t : Text) :
    eraseFirst (a :: part) (b ++ (a :: part ++ t)) = b ++ t := by
  induction b with
  | nil =>
    rw [List.nil_append, List.cons_append, eraseFirst, ← List.cons_append, after?_append]
    rfl
  | cons c b ih =>
    obtain ⟨hac, hb⟩ := not_or.1 (mt List.mem_cons.2 hb)
    rw [List.cons_append, eraseFirst, after?, if_neg hac, Option.getD_none, ih hb]
    rfl

theorem Primitive.notMem_text (p : Primitive) :
    'f' ∉ p.text ∧ '(' ∉ p.text ∧ startsWith "mapping" p.text = false := by
  cases p with
  | sized stem digits =>
    have hdigit : ∀ c, isDecimal c = false → c ∉ digits.1 := fun c hc hmem => by
      rw [digits.2 c hmem] at hc
      cases hc
    have hf : 'f' ∉ stem.text ∧ '(' ∉ stem.text := by cases stem <;> decide
    refine ⟨fun hmem => (List.mem_append.1 hmem).elim hf.1 (hdigit 'f' (by decide)),
      fun hmem => (List.mem_append.1 hmem).elim hf.2 (hdigit '(' (by decide)), ?_⟩
    cases stem <;> rfl
  | string => decide
  | address => decide
  | bool => decide

theorem standsAlone_declaration (type : VariableType) (v : { v : Visibility // v ≠ .ext })
    (isImmutable : Bool) (name : Identifier) :
    Variable.standsAlone type.text
      (indent ++ (Member.stateVariable type v isImmutable name).declaration) = true := by
  cases type with
  | primitive p =>
    obtain ⟨hf, hparen, hmapping⟩ := p.notMem_text
    have hfront : 'f' ∉ indent ++ p.text ∧ '(' ∉ indent ++ p.text := by
      have hindent : 'f' ∉ indent ∧ '(' ∉ indent := by decide
      simp [hindent, hf, hparen]
    have hfree := occursIn_named v isImmutable name hfront
    rw [List.append_assoc] at hfree
    change Variable.standsAlone p.text (indent ++ (p.text ++ _)) = true
    simp only [Variable.standsAlone, hmapping, Bool.false_eq_true, if_false]
    rw [hfree.1, hfree.2]
    rfl
  | mapping domain range =>
    have hfront : 'f' ∉ indent ∧ '(' ∉ indent := by decide
    have hfree := occursIn_named v isImmutable name hfront
    have hmapping : startsWith "mapping" (mappingText domain range) = true := rfl
    obtain ⟨part, hpart⟩ : ∃ part, mappingText domain range = 'm' :: part := ⟨_, rfl⟩
    change Variable.standsAlone (mappingText domain range)
      (indent ++ (mappingText domain range ++ _)) = true
    simp only [Variable.standsAlone, hmapping, if_true]
    rw [hpart, eraseFirst_append (by decide), hfree.1, hfree.2]
    rfl

theorem Document.variables_text (d : Document) :
    Source.variablesOf d.text (Doc.above (Text.lines d.text) [Dialect.custom.marker]) =
      d.placed.filterMap variableAt := by
  have he : ∀ c, (c == '=' || c == ';') = true → c = '=' ∨ c = ';' := by simp
  rw [Source.variablesOf, d.occurrences_text Variable.Parts.wordLed he occurrencesFrom_variablesAt,
    List.filter_flatMap, List.map_flatMap, List.filterMap_eq_flatMap_toList]
  refine List.flatMap_congr fun p hp => ?_
  have hdoc := d.above_placed hp
  have hline := d.getD_placed hp
  obtain ⟨n, m⟩ := p
  cases m with
  | notice k name params => rfl
  | stateVariable type v isImmutable name =>
    have halone := standsAlone_declaration type v isImmutable name
    rw [← hline] at halone
    simp only [Member.variablesAt, variableAt]
    rw [List.filter_cons_of_pos (by exact halone), List.filter_nil, List.map_singleton]
    simp [hdoc]
  | function name params visibility mutability returns => rfl

/-! Functions. -/

theorem leading?_specifiers (visibility : Visibility)
    (mutability : Option { m : Mutability // m ∈ [.view, .pure, .payable] }) :
    Function.leading? Function.visibilities (specifiers visibility mutability) = some visibility ∧
      Function.leading? Function.mutabilities
        (Function.afterLeading Function.visibilities (specifiers visibility mutability)) =
          mutability.map (·.1) := by
  have hrest : Function.afterLeading Function.visibilities (specifiers visibility mutability) =
      (mutability.map fun m => m.1.keyword).toList := by
    cases visibility <;> rfl
  refine ⟨by cases visibility <;> rfl, ?_⟩
  rw [hrest]
  cases mutability with
  | none => rfl
  | some m =>
    have hall : ∀ m ∈ [Mutability.view, .pure, .payable],
        Function.leading? Function.mutabilities [m.keyword] = some m := by
      decide
    exact hall m.1 m.2

theorem trim_returnsText (returns : List Field) :
    trim ((returnsText returns).getD []) = fieldsText returns := by
  unfold returnsText
  split
  · next h =>
    rw [List.isEmpty_iff.1 h]
    rfl
  · exact trim_fieldsText returns

/-- A function that nothing documents is recorded as it was written. -/
theorem function?_declaration (name : Identifier) (params : List Field) (visibility : Visibility)
    (mutability : Option { m : Mutability // m ∈ [.view, .pure, .payable] }) (returns : List Field)
    (n : Nat) (more : List Text) :
    Source.function? [] n ((indent ++
      (Member.function name params visibility mutability returns).declaration) :: more) =
      functionAt (n, .function name params visibility mutability returns) := by
  have hreturns : ∀ types ∈ returnsText returns, Function.Flat types := by
    intro types ht
    unfold returnsText at ht
    split at ht
    · cases ht
    · cases ht
      exact flat_fieldsText returns
  obtain ⟨hvisibility, hmutability⟩ := leading?_specifiers visibility mutability
  rw [Member.declaration, Source.function?_headLine (by decide) name.isName (flat_fieldsText params)
    (fun w hw => isName_headWords w (mem_headWords hw)) hreturns, hvisibility, hmutability,
    trim_fieldsText, trim_returnsText]
  rfl

theorem functionsFrom_member {docAt : Nat → Text} {n : Nat} (hdoc : docAt n = []) (m : Member)
    (more : List Text) :
    Source.functionsFrom docAt n (m.lines ++ more) =
      ((functionAt (n, m)).map Except.ok).toList ++
        Source.functionsFrom docAt (n + m.height) more := by
  obtain ⟨d, t, hdeclaration, hd, hstart⟩ := m.exists_declaration
  have htrim : trim (indent ++ m.declaration) = d :: trimRight t := by
    rw [hdeclaration, trim_append_cons (by decide) hd]
  have hother : d ≠ 'f' → ∀ l ∈ [indent ++ m.declaration], Source.startsFunction l = false := by
    intro hne l hl
    rw [List.mem_singleton.1 hl]
    exact startsFunction_eq_false htrim hne
  cases m with
  | notice kind name params =>
    rcases hstart with ⟨_, _, _, _, _, h⟩ | hne
    · cases h
    · exact functionsFrom_append (hother hne) n more
  | stateVariable type v isImmutable name =>
    rcases hstart with ⟨_, _, _, _, _, h⟩ | hne
    · cases h
    · exact functionsFrom_append (hother hne) n more
  | function name params visibility mutability returns =>
    have hclose : ∀ l ∈ [indent ++ ['}']], Source.startsFunction l = false := by decide
    have hfirst : Source.startsFunction (indent ++
        (Member.function name params visibility mutability returns).declaration) = true :=
      Source.startsFunction_headLine (by decide) _ _ _ _ _
    change Source.functionsFrom docAt n ((indent ++
      (Member.function name params visibility mutability returns).declaration) ::
        ([indent ++ ['}']] ++ more)) = _
    rw [Source.functionsFrom, if_pos hfirst, hdoc, function?_declaration,
      functionsFrom_append hclose]
    rfl

theorem functionsFrom_members {docAt : Nat → Text} {n : Nat} {ms : List Member}
    (hdoc : ∀ p ∈ placed n ms, docAt p.1 = []) (more : List Text) :
    Source.functionsFrom docAt n (ms.flatMap Member.lines ++ more) =
      ((placed n ms).filterMap functionAt).map Except.ok ++
        Source.functionsFrom docAt (n + (ms.map Member.height).sum) more := by
  induction ms generalizing n with
  | nil => rfl
  | cons m ms ih =>
    rw [placed] at hdoc ⊢
    have hfirst : docAt n = [] := hdoc (n, m) (by simp)
    have hrest := ih fun p hp => hdoc p (List.mem_cons_of_mem _ hp)
    rw [List.flatMap_cons, List.append_assoc, functionsFrom_member hfirst, hrest, List.map_cons,
      List.sum_cons, ← Nat.add_assoc, ← List.append_assoc]
    congr 1
    rw [List.filterMap_cons]
    cases functionAt (n, m) <;> rfl

theorem Document.functions_text (d : Document) :
    Source.functionsFrom (Doc.above (Text.lines d.text) [Dialect.custom.marker]) 1
      (Text.lines d.text) = (d.placed.filterMap functionAt).map Except.ok := by
  have hdirectives : ∀ l ∈ d.directives.map directiveLine ++ [contractLine d.name d.bases],
      Source.startsFunction l = false := by
    intro l hl
    rcases List.mem_append.1 hl with hl | hl
    · obtain ⟨w, -, rfl⟩ := List.mem_map.1 hl
      have htrim : trim ([] ++ directiveLine w) = '/' :: _ := trim_append_cons (by simp) rfl _
      exact startsFunction_eq_false htrim (by decide)
    · obtain ⟨t, hstart⟩ : ∃ t, contractLine d.name d.bases = 'c' :: t := ⟨_, rfl⟩
      have htrim : trim ([] ++ 'c' :: t) = 'c' :: trimRight t := trim_append_cons (by simp) rfl t
      rw [List.mem_singleton.1 hl, hstart]
      exact startsFunction_eq_false htrim (by decide)
  have hlines : Text.lines d.text = d.directives.map directiveLine ++ [contractLine d.name d.bases] ++
      (d.members.flatMap Member.lines ++ [['}'], []]) := by
    simp [lines_text, lines]
  have hcount : 1 + (d.directives.map directiveLine ++ [contractLine d.name d.bases]).length =
      d.directives.length + 2 := by
    simp
    omega
  have hend : ∀ l ∈ [['}'], []], Source.startsFunction l = false := by decide
  have hdoc : ∀ p ∈ d.placed, Doc.above (Text.lines d.text) [Dialect.custom.marker] p.1 = [] :=
    fun p hp => d.above_placed hp
  generalize Doc.above (Text.lines d.text) [Dialect.custom.marker] = docAt at hdoc ⊢
  have hafter : ∀ n, Source.functionsFrom docAt n ([['}'], []] ++ []) = [] :=
    fun n => functionsFrom_append hend n []
  rw [hlines, functionsFrom_append hdirectives, hcount, functionsFrom_members hdoc]
  rw [List.append_nil] at hafter
  rw [hafter, List.append_nil]
  rfl

/-! The contract. -/

theorem occursIn_of_append {part rest t : Text} (h : occursIn (part ++ rest) t = true) :
    occursIn part t = true := by
  induction t with
  | nil =>
    have hnil : part = [] ∧ rest = [] := by simpa [occursIn] using h
    simp [occursIn, hnil.1]
  | cons c t ih =>
    rw [occursIn, Bool.or_eq_true] at h ⊢
    rcases h with h | h
    · left
      rw [List.isPrefixOf_iff_prefix] at h ⊢
      exact (List.prefix_append part rest).trans h
    · exact Or.inr (ih h)

theorem occursIn_append_self (part t : Text) : occursIn part (part ++ t) = true := by
  have hprefix : part.isPrefixOf (part ++ t) = true :=
    List.isPrefixOf_iff_prefix.2 (List.prefix_append part t)
  cases h : part ++ t with
  | nil => simp_all [occursIn]
  | cons c r => rw [occursIn, ← h, hprefix, Bool.true_or]

theorem Document.lineOf_text (d : Document) :
    Contract.lineOf d.name.text (Text.lines d.text) = d.directives.length + 1 := by
  have hlines : Text.lines d.text = d.directives.map directiveLine ++
      contractLine d.name d.bases :: (d.members.flatMap Member.lines ++ [['}'], []]) := by
    simp [lines_text, lines]
  have hdirectives : ∀ l ∈ d.directives.map directiveLine,
      occursIn ("contract " ++ d.name.text) l = false := by
    intro l hl
    obtain ⟨w, hw, rfl⟩ := List.mem_map.1 hl
    by_contra hoccurs
    have hpart : occursIn ("contract".toList ++ ' ' :: d.name.text) (directiveLine w) = true := by
      simpa using hoccurs
    have hfree := occursIn_of_append hpart
    rw [(d.ordinary w hw).noContract] at hfree
    cases hfree
  have hcontract : occursIn ("contract " ++ d.name.text) (contractLine d.name d.bases) = true := by
    have hself := occursIn_append_self ("contract ".toList ++ d.name.text)
      (' ' :: (basesText d.bases ++ ['{']))
    rw [List.append_assoc] at hself
    exact hself
  have hnone : (d.directives.map directiveLine).findIdx?
      (fun line => occursIn ("contract " ++ d.name.text) line) = none :=
    List.findIdx?_eq_none_iff.2 hdirectives
  rw [Contract.lineOf, hlines, List.findIdx?_append, hnone, Option.none_or, List.findIdx?_cons,
    hcontract]
  simp

theorem Document.contract?_text (d : Document) :
    Source.contract? d.text [Dialect.custom.marker] = some d.source.contract := by
  have hhead : firstMatch Contract.head? d.text = some (d.name.text, baseList d.bases) := by
    rw [text_eq, firstMatch_directives d.ordinary]
    exact firstMatch_of_some (head?_contractLine d.name d.bases _)
  rw [Source.contract?, hhead]
  simp only [Option.bind_eq_bind, Option.bind_some, d.lineOf_text, d.above_contractLine]
  rfl

/-- The declarations found in a canonical source are those it was written with. -/
theorem Document.extract?_text (d : Document) :
    Source.extract? d.text [Dialect.custom.marker] = some d.source := by
  let docAt := Doc.above (Text.lines d.text) [Dialect.custom.marker]
  have hevents : Source.notices "event" d.text docAt = d.source.events := d.notices_text .event
  have herrors : Source.notices "error" d.text docAt = d.source.errors := d.notices_text .error
  have hvariables : Source.variablesOf d.text docAt = d.source.stateVariables := d.variables_text
  have hfunctions : Source.functionsFrom docAt 1 (Text.lines d.text) =
      d.source.functions.map Except.ok := d.functions_text
  have hread : (d.source.functions.map Except.ok).filterMap
      (Except.toOption : Except Nat Function → Option Function) = d.source.functions := by
    rw [List.filterMap_map]
    exact List.filterMap_some
  have hskipped : ∀ g : Except Nat Function → Option Nat, (∀ f, g (.ok f) = none) →
      (d.source.functions.map Except.ok).filterMap g = [] := by
    intro g hg
    rw [List.filterMap_map]
    exact List.filterMap_eq_nil_iff.2 fun f _ => hg f
  rw [Source.extract?, d.contract?_text]
  simp only [Option.bind_eq_bind, Option.bind_some]
  rw [hevents, herrors, hvariables, hfunctions, hread, hskipped _ fun _ => rfl]
  rfl

end SolInterface.Canonical
