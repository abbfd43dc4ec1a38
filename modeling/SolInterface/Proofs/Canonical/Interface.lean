import SolInterface.Proofs.Canonical.Rendering
import SolInterface.Proofs.Recipe
import SolInterface.SourceUnit

/-!
The interface of a canonical source, from the directives and members it is written with. Generating
the interface from the source text gives exactly this text.
-/
namespace SolInterface.Canonical
open Text Directive

/-! The interface. -/

/-- Lines and an empty one after them; nothing if there are none. -/
def paragraph : List Text → Text
  | [] => []
  | ls => ls.flatten ++ ['\n']

def mutabilityText (mutability : Option { m : Mutability // m ∈ [.view, .pure, .payable] }) : Text :=
  mutability.elim [] fun m => ' ' :: m.1.keyword

def returnsClause (σ : Text → Text) (returns : List Field) : Text :=
  if returns.isEmpty then [] else Text.cat [" returns (", fieldsRetyped σ returns, ")"]

theorem mutabilityText_getD
    (mutability : Option { m : Mutability // m ∈ [.view, .pure, .payable] }) :
    Interface.mutabilityText ((mutability.map (·.1)).getD .nonpayable) = mutabilityText mutability := by
  cases mutability with
  | none => rfl
  | some m =>
    have hall : ∀ m ∈ [Mutability.view, .pure, .payable],
        Interface.mutabilityText m = ' ' :: m.keyword := by
      decide
    exact hall m.1 m.2

theorem group_eq_paragraph (ls : List Text) : Interface.group ls = paragraph ls := by
  cases ls <;> rfl

theorem cat_opening (header : List Text) (a b : Text) (rest : List Text) :
    Text.cat (Text.cat header :: a :: b :: [] :: rest) = Text.cat (header ++ a :: b :: rest) := by
  simp [Text.cat]

/-- A choice of members that is made on their records is made on the members. -/
theorem filterMap_placed {α : Type} {record : Nat × Member → Option α} {keeps : α → Bool}
    {write : α → Option Text} {line : Member → Option Text}
    (h : ∀ p, (record p).bind (fun a => if keeps a then write a else none) = line p.2) (n : Nat)
    (ms : List Member) :
    (((placed n ms).filterMap record).filter keeps).filterMap write = ms.filterMap line := by
  have hchoice : (placed n ms).filterMap (fun p => line p.2) = ms.filterMap line := by
    induction ms generalizing n with
    | nil => rfl
    | cons m ms ih => rw [placed, List.filterMap_cons, List.filterMap_cons, ih]
  rw [List.filterMap_filter, List.filterMap_filterMap, ← hchoice]
  exact List.filterMap_congr fun p _ => h p

namespace Document

def requests (d : Document) : List Request := d.directives.map Wording.request

def listed (d : Document) (names : Request → List Text) : List Text := d.requests.flatMap names

def replacements (d : Document) : List (Text × Text) := d.requests.filterMap Request.replacement?

/-- A type under the replacements, one after the other. -/
def retype (d : Document) : Text → Text := Renaming.retype (Renaming.ofList d.replacements).pairs

def copyrightText (d : Document) : Text :=
  match (d.requests.filterMap Request.notice?).getLast? with
  | none => []
  | some notice => Text.cat ["// ", notice, "\n\n"]

/-- A base is renamed once, by the last replacement for it. -/
def interfaceBases (d : Document) : List Text :=
  ((d.bases.map (·.text)).filter fun base => base ∉ d.listed Request.removed).map
      (fun base => (d.replacements.reverse.lookup base).getD base) ++
    d.listed Request.inherited

def basesClause (d : Document) : Text :=
  if d.interfaceBases.isEmpty then [] else " is " ++ joinWith ", " d.interfaceBases

def noticeLine? (d : Document) (kind : NoticeKind) : Member → Option Text
  | .notice k name params =>
    if k = kind ∧ name.text ∉ d.listed Request.excluded then
      some (Text.cat [indent, kind.keyword, " ", name.text, "(", fieldsRetyped d.retype params, ");\n"])
    else none
  | _ => none

/-- Getters that are asked for, and those of public variables that are not excluded. -/
def getterLine? (d : Document) : Member → Option Text
  | .stateVariable type visibility isImmutable name =>
    if name.text ∈ d.listed Request.shown ∨
        visibility.1 = .pub ∧ name.text ∉ d.listed Request.excluded then
      some (getterText d.retype type isImmutable name.text ++ ['\n'])
    else none
  | _ => none

/-- Functions that are asked for, and external and public ones that are not excluded. -/
def functionLine? (d : Document) : Member → Option Text
  | .function name params visibility mutability returns =>
    if name.text ∈ d.listed Request.exposed ∨
        visibility ∈ [.ext, .pub] ∧ name.text ∉ d.listed Request.excluded then
      some (Text.cat [indent, "function ", name.text, "(", fieldsRetyped d.retype params,
        ") external", mutabilityText mutability, returnsClause d.retype returns, ";\n"])
    else none
  | _ => none

/-- The interface under a license and a language version. -/
def interfaceText (d : Document) (license pragma : Text) : Text :=
  Text.cat [
    "// SPDX-License-Identifier: ", license, "\npragma solidity ", pragma, ";\n\n",
    d.copyrightText,
    paragraph ((d.listed Request.imported).map fun path => Text.cat ["import \"", path, "\";\n"]),
    "interface I", d.name.text, d.basesClause, " \x7b\n\n",
    paragraph (d.members.filterMap (d.noticeLine? .event)),
    paragraph (d.members.filterMap (d.noticeLine? .error)),
    paragraph (d.members.filterMap d.getterLine?),
    (d.members.filterMap d.functionLine?).flatten,
    "\x7d\n"]

def recipe (d : Document) : Recipe := Recipe.ofRequests d.requests

/-! The parts of the interface. -/

theorem replacements_eq (d : Document) : d.recipe.replace = Renaming.ofList d.replacements :=
  Recipe.replace_ofRequests

/-- What is collected from the requests has what every ordinary directive gives it. -/
theorem forall_mem_requests (d : Document) {α : Type} {part : Request → Option α} {P : α → Prop}
    (h : ∀ w, Ordinary w → ∀ a, part w.request = some a → P a) :
    ∀ a ∈ d.requests.filterMap part, P a := by
  intro a ha
  obtain ⟨q, hq, hpart⟩ := List.mem_filterMap.1 ha
  obtain ⟨w, hw, rfl⟩ := List.mem_map.1 hq
  exact h w (d.ordinary w hw) a hpart

theorem safe_replacements (d : Document) :
    ∀ entry ∈ d.recipe.replace.pairs, Safe entry.1 ∧ Safe entry.2 := by
  have hsafe : ∀ entry ∈ d.replacements, Safe entry.1 ∧ Safe entry.2 := by
    refine d.forall_mem_requests fun w hw entry hentry => ?_
    cases w with
    | replace old new =>
      cases hentry
      exact hw
    | _ => cases hentry
  intro entry h
  rw [replacements_eq] at h
  exact hsafe entry (Renaming.mem_pairs_ofList h)

theorem applyTypes_fields (d : Document) (fields : List Field) :
    d.recipe.replace.applyTypes (fieldsText fields) = fieldsRetyped d.retype fields := by
  rw [applyTypes_fieldsText d.safe_replacements, replacements_eq]
  rfl

theorem applyTypes_getter (d : Document) {type : VariableType} {isImmutable : Bool} {name : Text}
    (hn : IsName name) :
    d.recipe.replace.applyTypes (getterText id type isImmutable name) =
      getterText d.retype type isImmutable name := by
  rw [applyTypes_getterText d.safe_replacements type isImmutable hn, replacements_eq]
  rfl

/-- Names replace names, so that what is returned does not get lost. -/
theorem returnsText_fields (d : Document) (returns : List Field) :
    Interface.returnsText (fieldsRetyped d.retype returns) = returnsClause d.retype returns := by
  have hname : ∀ w, IsName w → IsName (d.retype w) := by
    intro w hw
    refine Renaming.isName_retype (fun entry h => ?_) hw
    rw [← replacements_eq] at h
    exact (d.safe_replacements entry h).2.isName
  unfold Interface.returnsText returnsClause
  cases returns with
  | nil => rfl
  | cons f returns =>
    rw [if_neg (by simpa using fieldsRetyped_ne_nil hname (by simp)), if_neg (by simp)]

theorem keepsNotice_iff (d : Document) (n : Notice) :
    d.recipe.keepsNotice n = true ↔ n.name ∉ d.listed Request.excluded := by
  have hexcluded : n.name ∈ d.recipe.exclude ↔ n.name ∈ d.listed Request.excluded :=
    Recipe.mem_exclude_ofRequests
  simp [Recipe.keepsNotice, hexcluded]

theorem wantsGetter_iff (d : Document) (v : Variable) :
    d.recipe.wantsGetter v = true ↔ v.name ∈ d.listed Request.shown ∨
      v.visibility = .pub ∧ v.name ∉ d.listed Request.excluded := by
  have hexcluded : v.name ∈ d.recipe.exclude ↔ v.name ∈ d.listed Request.excluded :=
    Recipe.mem_exclude_ofRequests
  have hshown : v.name ∈ d.recipe.getters ↔ v.name ∈ d.listed Request.shown :=
    Recipe.mem_getters_ofRequests
  simp [Recipe.wantsGetter, hexcluded, hshown]

theorem keepsFunction_iff (d : Document) (f : Function) :
    d.recipe.keepsFunction f = true ↔ f.name ∈ d.listed Request.exposed ∨
      f.visibility ∈ [.ext, .pub] ∧ f.name ∉ d.listed Request.excluded := by
  have hexcluded : f.name ∈ d.recipe.exclude ↔ f.name ∈ d.listed Request.excluded :=
    Recipe.mem_exclude_ofRequests
  have hexposed : f.name ∈ d.recipe.expose ↔ f.name ∈ d.listed Request.exposed :=
    Recipe.mem_expose_ofRequests
  have hvisible : f.isExposed = true ↔ f.visibility ∈ [.ext, .pub] := by
    unfold Function.isExposed
    cases f.visibility <;> decide
  simp only [Recipe.keepsFunction, Bool.or_eq_true, Bool.and_eq_true, decide_eq_true_eq, hexcluded,
    hexposed, hvisible, and_comm]

theorem noticeLines (d : Document) (kind : NoticeKind) :
    ((d.placed.filterMap (noticeAt kind)).filter d.recipe.keepsNotice).map
      (Interface.noticeText d.recipe.replace kind.keyword) =
        d.members.filterMap (d.noticeLine? kind) := by
  rw [← List.filterMap_eq_map]
  refine filterMap_placed (fun p => ?_) _ _
  obtain ⟨n, m⟩ := p
  cases m with
  | notice k name params =>
    by_cases hk : k = kind
    · simp only [noticeAt, noticeLine?, hk, if_true, true_and, Option.bind_some]
      refine if_congr (d.keepsNotice_iff _) ?_ rfl
      simp only [Function.comp_apply, Interface.noticeText, d.applyTypes_fields]
      rfl
    · simp [noticeAt, noticeLine?, hk]
  | stateVariable type v isImmutable name => rfl
  | function name params visibility mutability returns => rfl

theorem getterLines (d : Document) :
    (Interface.getters d.recipe d.source.stateVariables).map (· ++ ['\n']) =
      d.members.filterMap d.getterLine? := by
  rw [Interface.getters, List.map_filterMap]
  refine filterMap_placed (fun p => ?_) _ _
  obtain ⟨n, m⟩ := p
  cases m with
  | notice k name params => rfl
  | stateVariable type v isImmutable name =>
    simp only [variableAt, getterLine?, Option.bind_some]
    refine if_congr (d.wantsGetter_iff _) ?_ rfl
    rw [getter?_text rfl, Option.map_some, Option.map_some, d.applyTypes_getter name.isName]
    rfl
  | function name params visibility mutability returns => rfl

theorem functionLines (d : Document) :
    (d.source.functions.filter d.recipe.keepsFunction).map
      (Interface.functionText d.recipe.replace) = d.members.filterMap d.functionLine? := by
  rw [← List.filterMap_eq_map]
  refine filterMap_placed (fun p => ?_) _ _
  obtain ⟨n, m⟩ := p
  cases m with
  | notice k name params => rfl
  | stateVariable type v isImmutable name => rfl
  | function name params visibility mutability returns =>
    simp only [functionAt, functionLine?, Option.bind_some]
    refine if_congr (d.keepsFunction_iff _) ?_ rfl
    simp only [Function.comp_apply, Interface.functionText, d.applyTypes_fields,
      d.returnsText_fields, mutabilityText_getD]
    rfl

theorem copyrightText_eq (d : Document) :
    Interface.copyrightText d.recipe.copyright = d.copyrightText := by
  rw [recipe, Recipe.copyright_ofRequests, copyrightText]
  cases hlast : (d.requests.filterMap Request.notice?).getLast? with
  | none => rfl
  | some notice =>
    have hnotices : ∀ t ∈ d.requests.filterMap Request.notice?, t ≠ [] := by
      refine d.forall_mem_requests fun w hw t ht => ?_
      cases w with
      | copyright t =>
        cases ht
        exact hw.ne_nil
      | _ => cases ht
    have hne := hnotices notice (List.mem_of_getLast? hlast)
    rw [Option.getD_some, Interface.copyrightText, if_neg (by simpa using hne)]

theorem bases_source (d : Document) : d.source.contract.bases = d.bases.map (·.text) := by
  have hlist : d.source.contract.inheritance = baseList d.bases := rfl
  rw [Contract.bases, hlist, trim_baseList]
  by_cases hne : d.bases = []
  · rw [hne]
    rfl
  · rw [if_neg (by simpa using baseList_ne_nil hne)]
    refine commaParts_joinWith (by simpa using hne) fun w hw => ?_
    obtain ⟨i, -, rfl⟩ := List.mem_map.1 hw
    exact ⟨trim_of_isName i.isName, i.isName.notMem (by rfl)⟩

theorem basesClause_eq (d : Document) :
    d.recipe.basesClause d.source.contract.bases = d.basesClause := by
  have hremoved : ∀ base, base ∈ d.recipe.remove ↔ base ∈ d.listed Request.removed :=
    fun base => Recipe.mem_remove_ofRequests
  have hrename : d.recipe.replace.rename =
      fun base => (d.replacements.reverse.lookup base).getD base := by
    funext base
    rw [replacements_eq, Renaming.rename_ofList]
  have hinherit : d.recipe.inherit = d.listed Request.inherited := Recipe.inherit_ofRequests
  have hbases : d.recipe.bases d.source.contract.bases = d.interfaceBases := by
    simp only [Recipe.bases, interfaceBases, bases_source, hremoved, hrename, hinherit]
  rw [Recipe.basesClause, hbases, basesClause]
  cases d.interfaceBases <;> rfl

/-- The interface is assembled from the members as they are written. -/
theorem assemble_source (d : Document) (h : Interface.Header) :
    Interface.assemble h d.recipe d.source = d.interfaceText h.license h.pragma := by
  have himports : d.recipe.imports = d.listed Request.imported := Recipe.imports_ofRequests
  have hevents : (d.source.events.filter d.recipe.keepsNotice).map
      (Interface.noticeText d.recipe.replace "event") = d.members.filterMap (d.noticeLine? .event) :=
    d.noticeLines .event
  have herrors : (d.source.errors.filter d.recipe.keepsNotice).map
      (Interface.noticeText d.recipe.replace "error") = d.members.filterMap (d.noticeLine? .error) :=
    d.noticeLines .error
  have hdoc : Interface.contractDoc d.source.contract.doc = [] := rfl
  have hname : d.source.contract.name = d.name.text := rfl
  have himport : Interface.importText =
      fun path => Text.cat ["import \"", path, "\";\n"] := rfl
  unfold Interface.assemble interfaceText Interface.Header.text
  rw [hevents, herrors, d.getterLines, d.functionLines, d.copyrightText_eq, d.basesClause_eq,
    himports, hdoc, hname, himport]
  simp only [group_eq_paragraph]
  exact cat_opening _ _ _ _

/-! The source unit. -/

def numbered (d : Document) : List Directive :=
  (d.directives.zipIdx 1).map fun p => ⟨p.1.request, p.2⟩

theorem ofDirectives_numbered (d : Document) : Recipe.ofDirectives d.numbered = d.recipe := by
  have hrequests : d.numbered.map (·.request) = d.requests := by
    rw [numbered, requests, List.map_map]
    change (d.directives.zipIdx 1).map (Wording.request ∘ Prod.fst) = _
    rw [← List.map_map, List.zipIdx_map_fst]
  rw [Recipe.ofDirectives, hrequests]
  rfl

/-- No directive is without a meaning or a reading. -/
theorem quiet_numbered (d : Document) :
    SourceUnit.firstUndefined? d.numbered = none ∧
      d.numbered.filterMap SourceUnit.directiveWarning? = [] := by
  have hread : ∀ directive ∈ d.numbered, ∃ w : Wording, directive.request = w.request := by
    intro directive h
    obtain ⟨p, -, rfl⟩ := List.mem_map.1 h
    exact ⟨p.1, rfl⟩
  constructor
  · refine List.findSome?_eq_none_iff.2 fun directive h => ?_
    obtain ⟨w, hw⟩ := hread directive h
    rw [hw]
    cases w <;> rfl
  · refine List.filterMap_eq_nil_iff.2 fun directive h => ?_
    obtain ⟨w, hw⟩ := hread directive h
    rw [SourceUnit.directiveWarning?, hw]
    cases w <;> rfl

theorem buildPath_ne_nil (d : Document) : d.recipe.buildPath ≠ [] := by
  obtain ⟨w, hw, hkind⟩ := d.built
  have hpaths : ∀ path ∈ d.requests.filterMap Request.outputPath?, path ≠ [] := by
    refine d.forall_mem_requests fun w hw path hpath => ?_
    cases w with
    | quotedBuild t =>
      cases hpath
      exact hw.ne_nil
    | bareBuild t => exact hw.elim
    | _ => cases hpath
  have hsome : ∃ path, w.request.outputPath? = some path := by
    cases w with
    | quotedBuild t | bareBuild t => exact ⟨t, rfl⟩
    | _ => cases hkind
  obtain ⟨path, hpath⟩ := hsome
  have hmem : path ∈ d.requests.filterMap Request.outputPath? :=
    List.mem_filterMap.2 ⟨w.request, List.mem_map_of_mem hw, hpath⟩
  rw [recipe, Recipe.buildPath_ofRequests,
    List.getLast?_eq_some_getLast (List.ne_nil_of_mem hmem), Option.getD_some]
  exact hpaths _ (List.getLast_mem _)

theorem occursIn_marker (d : Document) : occursIn Dialect.custom.marker d.text = true := by
  obtain ⟨w, hw, -⟩ := d.built
  have htext := d.text_eq
  cases hdirectives : d.directives with
  | nil =>
    rw [hdirectives] at hw
    cases hw
  | cons first more =>
    rw [hdirectives, List.flatMap_cons, directiveLine, List.append_assoc, List.append_assoc,
      List.append_assoc] at htext
    rw [htext]
    exact occursIn_append_self _ _

end Document

/-- The ways to ask for the dialect in which canonical sources are written. -/
def customChoices : List DialectChoice :=
  [.named "auto", .named [], .named "custom", .given .custom]

theorem Document.resolve_text (d : Document) {choice : DialectChoice} (h : choice ∈ customChoices) :
    choice.resolve .standard d.text = .ok .custom := by
  have hdetect : Registry.standard.detect d.text "custom" = .ok .custom := by
    have hfind : Registry.standard.dialects.find? (fun e => occursIn e.marker d.text) =
        some .custom := List.find?_cons_of_pos d.occursIn_marker
    rw [Registry.detect, hfind]
  simp only [customChoices, List.mem_cons, List.not_mem_nil, or_false] at h
  rcases h with rfl | rfl | rfl | rfl
  · exact hdetect
  · exact hdetect
  · rfl
  · rfl

/-- Every canonical source has an interface, which is the one its directives and members describe,
and no warning is given. -/
theorem interface_ofText (d : Document) (path : Path) (o : SourceUnit.Options)
    (h : o.choice ∈ customChoices) :
    ∃ u, SourceUnit.ofText path d.text o = .ok u ∧
      u.interface = .ok (d.source, d.interfaceText o.config.license o.config.pragma) ∧
      (u.noting d.source).warnings = [] := by
  have hdirectives : Dialect.custom.directives (Text.lines d.text) = d.numbered := d.directives_lines
  have hof : SourceUnit.directivesOf o d.text = .ok (.custom, d.numbered) := by
    rw [SourceUnit.directivesOf, d.resolve_text h, ← hdirectives]
  obtain ⟨hdefined, hquiet⟩ := d.quiet_numbered
  let u : SourceUnit := {
    path
    config := o.config
    force := o.force || o.config.force
    content := d.text
    choice := o.choice
    dialect := .custom
    directives := d.numbered
    recipe := d.recipe
    warnings := [] }
  refine ⟨u, ?_, ?_, rfl⟩
  · rw [SourceUnit.ofText, hof]
    simp only [hdefined, hquiet, d.ofDirectives_numbered]
    rfl
  · have hpath : u.requiredBuildPath = .ok d.recipe.buildPath :=
      if_neg (mt List.isEmpty_iff.1 d.buildPath_ne_nil)
    have hextract : Source.extract? u.content [u.dialect.marker] = some d.source := d.extract?_text
    have hsource : u.source = .ok d.source := by rw [SourceUnit.source, hextract]
    rw [SourceUnit.interface, hpath, hsource]
    exact congrArg (fun t => Except.ok (d.source, t)) (d.assemble_source u.header)

def vaultToken : Identifier := ⟨"Token", by decide⟩

def vaultParameter : Field := ⟨.named vaultToken, some ⟨"token", by decide⟩⟩

def vaultAmount : Primitive := .sized .uint ⟨"256", by decide⟩

/-- A source with every sort of directive and member. -/
def vault : Document where
  directives := [.quotedBuild "./IVault.sol", .copyright "Vault authors",
    .quotedImport "./IToken.sol" none, .replace "Token" "IToken", .remove ["Owned"],
    .exclude ["Log", "sweep"], .expose ["_plan"], .getter ["fee"], .inherit ["IBase"]]
  ordinary := by decide
  built := by decide
  name := ⟨"Vault", by decide⟩
  bases := [⟨"Owned", by decide⟩, vaultToken]
  members := [
    .notice .event ⟨"Log", by decide⟩ [⟨.primitive .bool, none⟩],
    .notice .event ⟨"Paid", by decide⟩
      [vaultParameter, ⟨.primitive vaultAmount, some ⟨"amount", by decide⟩⟩],
    .notice .error ⟨"Empty", by decide⟩ [],
    .stateVariable (.primitive vaultAmount) ⟨.priv, by decide⟩ true ⟨"fee", by decide⟩,
    .stateVariable (.mapping (.primitive .address) (.named vaultToken)) ⟨.pub, by decide⟩ false
      ⟨"tokens", by decide⟩,
    .function ⟨"sweep", by decide⟩ [] .ext none [],
    .function ⟨"_plan", by decide⟩ [vaultParameter] .intern (some ⟨.view, by decide⟩)
      [⟨.named vaultToken, none⟩]]

def vaultInterface : Text :=
  Text.cat [
    "// SPDX-License-Identifier: MIT\npragma solidity ^0.8.20;\n\n",
    "// Vault authors\n\n",
    "import \"./IToken.sol\";\n\n",
    "interface IVault is IToken, IBase \x7b\n\n",
    "    event Paid(IToken token, uint256 amount);\n\n",
    "    error Empty();\n\n",
    "    function fee() external pure returns (uint256);\n",
    "    function tokens(address key) external view returns (IToken);\n\n",
    "    function _plan(IToken token) external view returns (IToken);\n",
    "\x7d\n"]

theorem interface_ofText_vault :
    ({} : SourceUnit.Options).choice ∈ customChoices ∧
      ∃ u, SourceUnit.ofText (Path.parse "contracts/Vault.sol") vault.text {} = .ok u ∧
        u.interface = .ok (vault.source, vaultInterface) ∧
        (u.noting vault.source).warnings = [] := by
  have hchoice : ({} : SourceUnit.Options).choice ∈ customChoices := by decide
  have htext : vault.interfaceText "MIT" "^0.8.20" = vaultInterface := by decide +kernel
  refine ⟨hchoice, ?_⟩
  rw [← htext]
  exact interface_ofText vault _ {} hchoice

end SolInterface.Canonical
