import SolInterface.Proofs.Text
import SolInterface.Directive.Dialect

/-!
Directives as they are written, and the proof that each dialect reads every one of its own forms
back. A wording is what stands after the marker; `Wording.Fits` says which wordings a grammar has.
-/
namespace SolInterface.Directive
open Text

/-- A request as it is written. An import may be closed by a semicolon after some blanks. -/
inductive Wording where
  | quotedBuild (path : Text)
  | bareBuild (path : Text)
  | moduleTask (source output tail : Text)
  | copyright (notice : Text)
  | quotedImport (path : Text) (gap : Option Text)
  | bareImport (path : Text) (gap : Option Text)
  | replace (old new : Text)
  | remove (names : List Text)
  | exclude (names : List Text)
  | expose (names : List Text)
  | getter (names : List Text)
  | inherit (names : List Text)
  deriving DecidableEq, Repr

namespace Wording

def kind : Wording → Kind
  | .quotedBuild _ | .bareBuild _ => .build
  | .moduleTask _ _ _ => .moduleTask
  | .copyright _ => .copyright
  | .quotedImport _ _ | .bareImport _ _ => .importPath
  | .replace _ _ => .replace
  | .remove _ => .remove
  | .exclude _ => .exclude
  | .expose _ => .expose
  | .getter _ => .getter
  | .inherit _ => .inherit

def inQuotes (body rest : Text) : Text := '"' :: (body ++ '"' :: rest)

def closing : Option Text → Text
  | none => []
  | some gap => gap ++ [';']

def argument : Wording → Text
  | .quotedBuild path => inQuotes path []
  | .bareBuild path => path
  | .moduleTask source output tail =>
    inQuotes source (' ' :: 't' :: 'o' :: ' ' :: inQuotes output tail)
  | .copyright notice => inQuotes notice []
  | .quotedImport path gap => inQuotes path (closing gap)
  | .bareImport path gap => path ++ closing gap
  | .replace old new => old ++ " with " ++ new
  | .remove names | .exclude names | .expose names | .getter names => joinWith [' '] names
  | .inherit names => joinWith [',', ' '] names

def text (w : Wording) : Text := w.kind.keyword ++ ' ' :: w.argument

/-- What the wording asks for. The flags of a module are those of its trimmed tail. -/
def request : Wording → Request
  | .quotedBuild path | .bareBuild path => .build path
  | .moduleTask source output tail =>
    .moduleTask ⟨source, output, ModuleFlags.parse (trim tail), trim tail⟩
  | .copyright notice => .copyright notice
  | .quotedImport path _ | .bareImport path _ => .importPath path
  | .replace old new => .replace old new
  | .remove names => .remove names
  | .exclude names => .exclude names
  | .expose names => .expose names
  | .getter names => .getter names
  | .inherit names => .inherit names

def Quotable (t : Text) : Prop := t ≠ [] ∧ '"' ∉ t ∧ '\n' ∉ t

def Spacing (t : Text) : Prop := ∀ c ∈ t, isBlank c = true ∧ c ≠ '\n'

def Listable (names : List Text) : Prop :=
  names ≠ [] ∧ ∀ w ∈ names, w ≠ [] ∧ ∀ c ∈ w, isBlank c = false

def CommaListable (names : List Text) : Prop :=
  names ≠ [] ∧ ∀ w ∈ names, w ≠ [] ∧ trim w = w ∧ ',' ∉ w ∧ '\n' ∉ w

instance (t : Text) : Decidable (Quotable t) := inferInstanceAs (Decidable (_ ∧ _ ∧ _))
instance (t : Text) : Decidable (Spacing t) := inferInstanceAs (Decidable (∀ c ∈ t, _ ∧ _))
instance (names : List Text) : Decidable (Listable names) := inferInstanceAs (Decidable (_ ∧ _))
instance (names : List Text) : Decidable (CommaListable names) :=
  inferInstanceAs (Decidable (_ ∧ _))

def Shared : Wording → Prop
  | .copyright notice => Quotable notice
  | .quotedImport path gap => Quotable path ∧ ∀ b ∈ gap, Spacing b
  | .replace old new => IsName old ∧ IsName new
  | .remove names | .exclude names | .expose names | .getter names => Listable names
  | .inherit names => CommaListable names
  | _ => False

/-- The wordings of a grammar. The older one takes what follows `build` as it stands, has no bare
imports and no modules. -/
def Fits : Grammar → Wording → Prop
  | .custom, .quotedBuild path => Quotable path
  | .custom, .bareBuild path => path ≠ [] ∧ ∀ c ∈ path, isBlank c = false ∧ c ≠ '"'
  | .custom, .moduleTask source output tail => Quotable source ∧ Quotable output ∧ '\n' ∉ tail
  | .custom, .bareImport path gap =>
    (path ≠ [] ∧ ∀ c ∈ path, isBlank c = false ∧ c ≠ '"' ∧ c ≠ ';') ∧ ∀ b ∈ gap, Spacing b
  | .legacy, .bareBuild path => path ≠ [] ∧ trim path = path ∧ '\n' ∉ path
  | .custom, w | .legacy, w => Shared w
  | .empty, _ | .formal, _ => False

@[simp] theorem stops_inQuotes (body rest : Text) : Stops isBlank (inQuotes body rest) := by
  simp [inQuotes, isBlank]

@[simp] theorem skipBlanks_inQuotes (body rest : Text) :
    skipBlanks (inQuotes body rest) = inQuotes body rest :=
  skipBlanks_of_stops (stops_inQuotes body rest)

theorem quoted?_inQuotes {body : Text} (rest : Text) (h : Quotable body) :
    quoted? (inQuotes body rest) = some (body, rest) :=
  quoted?_append rest h.1 h.2.1

theorem Listable.stops_joinWith {names : List Text} (h : Listable names) :
    Stops isBlank (joinWith [' '] names) := by
  obtain ⟨hne, hw⟩ := h
  cases names with
  | nil => exact absurd rfl hne
  | cons w names =>
    obtain ⟨hw, hb⟩ := hw w (by simp)
    exact Text.stops_joinWith hw fun c hc => hb c (List.mem_of_mem_head? hc)

theorem Listable.stops_reverse {names : List Text} (h : Listable names) :
    Stops isBlank (joinWith [' '] names).reverse :=
  stops_reverse_joinWith fun w hw => ⟨(h.2 w hw).1, fun c hc =>
    (h.2 w hw).2 c (List.mem_reverse.1 (List.mem_of_mem_head? hc))⟩

theorem Listable.newline_notMem {names : List Text} (h : Listable names) :
    '\n' ∉ joinWith [' '] names := by
  intro hm
  rcases mem_joinWith hm with hm | ⟨w, hw, hm⟩
  · simp at hm
  · exact absurd ((h.2 w hw).2 _ hm) (by decide)

theorem CommaListable.joinWith_ne_nil {names : List Text} (h : CommaListable names) :
    joinWith [',', ' '] names ≠ [] :=
  Text.joinWith_ne_nil h.1 fun w hw => (h.2 w hw).1

theorem CommaListable.stops_joinWith {names : List Text} (h : CommaListable names) :
    Stops isBlank (joinWith [',', ' '] names) := by
  obtain ⟨hne, hw⟩ := h
  cases names with
  | nil => exact absurd rfl hne
  | cons w names =>
    obtain ⟨hw, ht, _⟩ := hw w (by simp)
    exact Text.stops_joinWith hw (trim_eq_self_iff.1 ht).1

theorem CommaListable.stops_reverse {names : List Text} (h : CommaListable names) :
    Stops isBlank (joinWith [',', ' '] names).reverse :=
  stops_reverse_joinWith fun w hw => ⟨(h.2 w hw).1, (trim_eq_self_iff.1 (h.2 w hw).2.1).2⟩

theorem CommaListable.newline_notMem {names : List Text} (h : CommaListable names) :
    '\n' ∉ joinWith [',', ' '] names := by
  intro hm
  rcases mem_joinWith hm with hm | ⟨w, hw, hm⟩
  · simp at hm
  · exact (h.2 w hw).2.2.2 hm

theorem closesImport_closing {gap : Option Text} (h : ∀ b ∈ gap, Spacing b) :
    Request.closesImport (closing gap) = true := by
  cases gap with
  | none => rfl
  | some b =>
    have hb : skipBlanks (b ++ [';']) = [';'] :=
      skipBlanks_append fun c hc => (h b rfl c hc).1
    simp [Request.closesImport, closing, hb, atEnd]

end Wording

namespace Request

/-! No keyword starts another one with a space after it, so a text under one keyword is read by the
readers of that kind alone. -/

theorem after?_keyword_ne {kind other : Kind} (h : kind ≠ other) (t : Text) :
    after? kind.keyword (other.keyword ++ ' ' :: t) = none := by
  cases kind <;> cases other <;> first | rfl | exact absurd rfl h

@[simp] theorem keyed?_keyword (kind : Kind) (t : Text) :
    keyed? kind (kind.keyword ++ ' ' :: t) = some (skipBlanks t) := by
  simp [keyed?]

@[simp] theorem keyed?_ne {kind other : Kind} (h : kind ≠ other) (t : Text) :
    keyed? kind (other.keyword ++ ' ' :: t) = none := by
  simp [keyed?, after?_keyword_ne h]

@[simp] theorem lineAfter?_ne {kind other : Kind} (h : kind ≠ other) (t : Text) :
    lineAfter? kind (other.keyword ++ ' ' :: t) = none := by
  simp [lineAfter?, after?_keyword_ne h]

theorem lineAfter?_keyword (kind : Kind) {t : Text} (hne : t ≠ []) (hs : Stops isBlank t)
    (hn : '\n' ∉ t) : lineAfter? kind (kind.keyword ++ ' ' :: t) = some t := by
  simp [lineAfter?, lineTail?_space hne hs hn, atEnd]

theorem custom?_build (t : Text) :
    custom? (Kind.build.keyword ++ ' ' :: t) = quotedBuild? (Kind.build.keyword ++ ' ' :: t) := by
  simp [custom?, moduleTask?, bareImport?, shared?, copyright?, quotedImport?, replace?, nameList?]

theorem custom?_moduleTask (t : Text) :
    custom? (Kind.moduleTask.keyword ++ ' ' :: t) =
      moduleTask? (Kind.moduleTask.keyword ++ ' ' :: t) := by
  simp [custom?, quotedBuild?, bareImport?, shared?, copyright?, quotedImport?, replace?, nameList?]

theorem custom?_importPath (t : Text) :
    custom? (Kind.importPath.keyword ++ ' ' :: t) =
      (bareImport? (Kind.importPath.keyword ++ ' ' :: t) <|>
        quotedImport? (Kind.importPath.keyword ++ ' ' :: t)) := by
  simp [custom?, quotedBuild?, moduleTask?, shared?, copyright?, replace?, nameList?]

theorem legacy?_build (t : Text) :
    legacy? (Kind.build.keyword ++ ' ' :: t) = lineBuild? (Kind.build.keyword ++ ' ' :: t) := by
  simp [legacy?, shared?, copyright?, quotedImport?, replace?, nameList?]

/-- All other kinds are read by the forms that the grammars share. -/
theorem custom?_eq_shared? {kind : Kind} (hb : kind ≠ .build) (hm : kind ≠ .moduleTask)
    (hi : kind ≠ .importPath) (t : Text) :
    custom? (kind.keyword ++ ' ' :: t) = shared? (kind.keyword ++ ' ' :: t) := by
  simp [custom?, quotedBuild?, moduleTask?, bareImport?, hb.symm, hm.symm, hi.symm]

theorem legacy?_eq_shared? {kind : Kind} (hb : kind ≠ .build) (t : Text) :
    legacy? (kind.keyword ++ ' ' :: t) = shared? (kind.keyword ++ ' ' :: t) := by
  simp [legacy?, lineBuild?, hb.symm]

/-! Each form is read back. -/

open Wording

theorem wholeQuoted?_inQuotes {body : Text} (h : Quotable body) :
    wholeQuoted? (inQuotes body []) = some body := by
  simp [wholeQuoted?, quoted?_inQuotes [] h, atEnd]

theorem quotedBuild?_inQuotes {path : Text} (h : Quotable path) :
    quotedBuild? (Kind.build.keyword ++ ' ' :: inQuotes path []) = some (.build path) := by
  simp [quotedBuild?, wholeQuoted?_inQuotes h]

theorem quotedBuild?_bare {path : Text} (hne : path ≠ [])
    (h : ∀ c ∈ path, isBlank c = false ∧ c ≠ '"') :
    quotedBuild? (Kind.build.keyword ++ ' ' :: path) = some (.build path) := by
  have htake : path.takeWhile (fun c => !isBlank c) = path :=
    List.takeWhile_eq_self_iff.2 fun c hc => by simp [(h c hc).1]
  have hdrop : path.dropWhile (fun c => !isBlank c) = [] :=
    List.dropWhile_eq_nil_iff.2 fun c hc => by simp [(h c hc).1]
  cases path with
  | nil => exact absurd rfl hne
  | cons c path =>
    obtain ⟨hb, hq⟩ := h c (by simp)
    have hskip : skipBlanks (c :: path) = c :: path := skipBlanks_of_stops (by simp [hb])
    have hbare : wholeBare? (c :: path) = some (c :: path) := by
      simp only [wholeBare?, htake, hdrop]
      rfl
    have hquoted : wholeQuoted? (c :: path) = none := by
      unfold wholeQuoted? quoted?
      split
      · next hc => exact absurd (List.cons.inj hc).1 hq
      · rfl
    simp [quotedBuild?, hskip, hquoted, hbare]

theorem lineBuild?_line {path : Text} (hne : path ≠ []) (hs : Stops isBlank path)
    (hn : '\n' ∉ path) :
    lineBuild? (Kind.build.keyword ++ ' ' :: path) = some (.build path) := by
  simp [lineBuild?, lineAfter?_keyword .build hne hs hn]

theorem moduleTask?_inQuotes {source output tail : Text} (hs : Quotable source)
    (ho : Quotable output) (ht : '\n' ∉ tail) :
    moduleTask? (Kind.moduleTask.keyword ++
        ' ' :: inQuotes source (' ' :: 't' :: 'o' :: ' ' :: inQuotes output tail)) =
      some (.moduleTask ⟨source, output, ModuleFlags.parse (trim tail), trim tail⟩) := by
  have hto : skipBlanks ('t' :: 'o' :: ' ' :: inQuotes output tail) =
      't' :: 'o' :: ' ' :: inQuotes output tail := rfl
  simp [moduleTask?, quoted?_inQuotes _ hs, hto, after?, quoted?_inQuotes _ ho,
    takeWhile_ne_self ht, dropWhile_ne_self ht, atEnd, ht]

theorem bareImport?_inQuotes (path rest : Text) :
    bareImport? (Kind.importPath.keyword ++ ' ' :: inQuotes path rest) = none := by
  simp only [bareImport?, keyed?_keyword, skipBlanks_inQuotes, Option.bind_eq_bind,
    Option.bind_some]
  rfl

theorem bareImport?_bare {path : Text} {gap : Option Text} (hne : path ≠ [])
    (h : ∀ c ∈ path, isBlank c = false ∧ c ≠ '"' ∧ c ≠ ';') (hg : ∀ b ∈ gap, Spacing b) :
    bareImport? (Kind.importPath.keyword ++ ' ' :: (path ++ closing gap)) =
      some (.importPath path) := by
  have hpath : ∀ c ∈ path, (!(isBlank c || c == '"' || c == ';')) = true := fun c hc => by
    simp [h c hc]
  have hclose : Stops (fun c => !(isBlank c || c == '"' || c == ';')) (closing gap) := by
    rcases gap with _ | _ | ⟨c, b⟩
    · simp [closing]
    · simp [closing]
    · simp [closing, (hg _ rfl c (by simp)).1]
  have hskip : skipBlanks (path ++ closing gap) = path ++ closing gap := by
    apply skipBlanks_of_stops
    cases path with
    | nil => exact absurd rfl hne
    | cons c path => simp [(h c (by simp)).1]
  cases path with
  | nil => exact absurd rfl hne
  | cons c path =>
    simp only [bareImport?, keyed?_keyword, Option.bind_eq_bind, Option.bind_some, hskip,
      takeWhile_run hpath hclose, dropWhile_run hpath hclose, closesImport_closing hg, if_true]

theorem shared?_copyright {notice : Text} (h : Quotable notice) :
    shared? (Kind.copyright.keyword ++ ' ' :: inQuotes notice []) = some (.copyright notice) := by
  simp [shared?, copyright?, wholeQuoted?_inQuotes h]

theorem quotedImport?_inQuotes {path : Text} {gap : Option Text} (h : Quotable path)
    (hg : ∀ b ∈ gap, Spacing b) :
    quotedImport? (Kind.importPath.keyword ++ ' ' :: inQuotes path (closing gap)) =
      some (.importPath path) := by
  simp [quotedImport?, quoted?_inQuotes _ h, closesImport_closing hg]

theorem shared?_importPath {path : Text} {gap : Option Text} (h : Quotable path)
    (hg : ∀ b ∈ gap, Spacing b) :
    shared? (Kind.importPath.keyword ++ ' ' :: inQuotes path (closing gap)) =
      some (.importPath path) := by
  simp [shared?, copyright?, quotedImport?_inQuotes h hg]

theorem replace?_words {old new : Text} (ho : IsName old) (hn : IsName new) :
    replace? (Kind.replace.keyword ++ ' ' :: (old ++ " with " ++ new)) =
      some (.replace old new) := by
  let tail : Text := ' ' :: 'w' :: 'i' :: 't' :: 'h' :: ' ' :: new
  have hskip : skipBlanks (old ++ tail) = old ++ tail :=
    skipBlanks_of_stops (ho.stops_isBlank tail)
  have hold : word? (old ++ tail) = some (old, tail) :=
    ho.word?_append (by simp [tail, isWord])
  have hwith : blanks? tail = some ('w' :: 'i' :: 't' :: 'h' :: ' ' :: new) := rfl
  have hnew : skipBlanks new = new :=
    skipBlanks_of_stops (by simpa using hn.stops_isBlank [])
  have hlast : word? new = some (new, []) := by
    simpa using hn.word?_append (stops_nil isWord)
  have hshape : old ++ " with ".toList ++ new = old ++ tail := by simp [tail]
  rw [hshape]
  simp [replace?, hskip, hold, hwith, after?, hnew, hlast, atEnd]

theorem shared?_replace {old new : Text} (ho : IsName old) (hn : IsName new) :
    shared? (Kind.replace.keyword ++ ' ' :: (old ++ " with " ++ new)) =
      some (.replace old new) := by
  have hother : copyright? (Kind.replace.keyword ++ ' ' :: (old ++ " with " ++ new)) = none ∧
      quotedImport? (Kind.replace.keyword ++ ' ' :: (old ++ " with " ++ new)) = none := by
    simp [copyright?, quotedImport?]
  rw [shared?, hother.1, hother.2, replace?_words ho hn]
  rfl

theorem lineAfter?_names (kind : Kind) {names : List Text} (h : Listable names) :
    lineAfter? kind (kind.keyword ++ ' ' :: joinWith [' '] names) =
      some (joinWith [' '] names) := by
  refine lineAfter?_keyword kind (joinWith_ne_nil h.1 fun w hw => (h.2 w hw).1) ?_ ?_
  · exact h.stops_joinWith
  · exact h.newline_notMem

/-- A list of names under one of the four keywords is that list. -/
theorem shared?_names {kind : Kind} {make : List Text → Request} {names : List Text}
    (hk : (kind, make) ∈ [(Kind.remove, Request.remove), (.exclude, .exclude), (.expose, .expose),
      (.getter, .getter)])
    (h : Listable names) :
    shared? (kind.keyword ++ ' ' :: joinWith [' '] names) = some (make names) := by
  have hline := lineAfter?_names kind h
  have hwords : words (joinWith [' '] names) = names := words_joinWith h.2
  simp only [List.mem_cons, Prod.mk.injEq, List.not_mem_nil, or_false] at hk
  rcases hk with ⟨rfl, rfl⟩ | ⟨rfl, rfl⟩ | ⟨rfl, rfl⟩ | ⟨rfl, rfl⟩ <;>
    simp [shared?, copyright?, quotedImport?, replace?, nameList?, hline, hwords]

theorem shared?_inherit {names : List Text} (h : CommaListable names) :
    shared? (Kind.inherit.keyword ++ ' ' :: joinWith [',', ' '] names) =
      some (.inherit names) := by
  have hline := lineAfter?_keyword .inherit h.joinWith_ne_nil h.stops_joinWith h.newline_notMem
  have hparts : commaParts (trim (joinWith [',', ' '] names)) = names := by
    rw [trim_eq_self_iff.2 ⟨h.stops_joinWith, h.stops_reverse⟩]
    exact commaParts_joinWith h.1 fun w hw => ⟨(h.2 w hw).2.1, (h.2 w hw).2.2.1⟩
  simp [shared?, copyright?, quotedImport?, replace?, nameList?, hline, hparts]

end Request

namespace Wording
open Request

theorem keyword_ne_nil (kind : Kind) : kind.keyword ≠ [] := by
  cases kind <;> decide

theorem stops_keyword (kind : Kind) : Stops isBlank kind.keyword := by
  cases kind <;> exact stops_cons.2 rfl

theorem newline_notMem_keyword (kind : Kind) : '\n' ∉ kind.keyword := by
  cases kind <;> decide

theorem stops_text (w : Wording) : Stops isBlank w.text :=
  (stops_append (keyword_ne_nil w.kind) _).2 (stops_keyword w.kind)

theorem Shared.kind_ne {w : Wording} (h : w.Shared) : w.kind ≠ .build ∧ w.kind ≠ .moduleTask := by
  cases w <;> simp_all [Shared, kind]

theorem Shared.shared?_text {w : Wording} (h : w.Shared) : shared? w.text = some w.request := by
  cases w with
  | quotedBuild _ | bareBuild _ | moduleTask _ _ _ | bareImport _ _ => exact h.elim
  | copyright notice => exact shared?_copyright h
  | quotedImport path gap => exact shared?_importPath h.1 h.2
  | replace old new => exact shared?_replace h.1 h.2
  | remove names | exclude names | expose names | getter names =>
    exact shared?_names (by simp [kind]) h
  | inherit names => exact shared?_inherit h

theorem Shared.legacy?_text {w : Wording} (h : w.Shared) : legacy? w.text = some w.request :=
  (legacy?_eq_shared? h.kind_ne.1 _).trans h.shared?_text

/-- The grammar with bare imports does not take a quoted one for a bare one. -/
theorem Shared.custom?_text {w : Wording} (h : w.Shared) : custom? w.text = some w.request := by
  by_cases hi : w.kind = .importPath
  · cases w with
    | quotedImport path gap =>
      refine (custom?_importPath _).trans ?_
      rw [argument, bareImport?_inQuotes, quotedImport?_inQuotes h.1 h.2]
      rfl
    | bareImport path gap => exact h.elim
    | _ => simp [kind] at hi
  · exact (custom?_eq_shared? h.kind_ne.1 h.kind_ne.2 hi _).trans h.shared?_text

/-- Every wording of a grammar is read as what it asks for. -/
theorem read_text {g : Grammar} {w : Wording} (h : w.Fits g) : g.read w.text = w.request := by
  cases g with
  | custom =>
    suffices hc : custom? w.text = some w.request by simp [Grammar.read, hc]
    cases w with
    | quotedBuild path => exact (custom?_build _).trans (quotedBuild?_inQuotes h)
    | bareBuild path => exact (custom?_build _).trans (quotedBuild?_bare h.1 h.2)
    | moduleTask source output tail =>
      exact (custom?_moduleTask _).trans (moduleTask?_inQuotes h.1 h.2.1 h.2.2)
    | bareImport path gap =>
      refine (custom?_importPath _).trans ?_
      rw [argument, bareImport?_bare h.1.1 h.1.2 h.2]
      rfl
    | _ => exact Shared.custom?_text h
  | legacy =>
    suffices hc : legacy? w.text = some w.request by simp [Grammar.read, hc]
    cases w with
    | bareBuild path =>
      exact (legacy?_build _).trans (lineBuild?_line h.1 (trim_eq_self_iff.1 h.2.1).1 h.2.2)
    | _ => exact Shared.legacy?_text h
  | empty | formal => exact h.elim

theorem newline_notMem_inQuotes {body rest : Text} (hb : Quotable body) (hr : '\n' ∉ rest) :
    '\n' ∉ inQuotes body rest := by
  simp [inQuotes, hb.2.2, hr]

theorem newline_notMem_closing {gap : Option Text} (h : ∀ b ∈ gap, Spacing b) :
    '\n' ∉ closing gap := by
  cases gap with
  | none => simp [closing]
  | some b => simpa [closing] using fun hm => (h b rfl _ hm).2 rfl

theorem Shared.newline_notMem {w : Wording} (h : w.Shared) : '\n' ∉ w.argument := by
  cases w with
  | quotedBuild _ | bareBuild _ | moduleTask _ _ _ | bareImport _ _ => exact h.elim
  | copyright notice => exact newline_notMem_inQuotes h (by simp)
  | quotedImport path gap => exact newline_notMem_inQuotes h.1 (newline_notMem_closing h.2)
  | replace old new =>
    simp [argument, h.1.notMem (show isWord '\n' = false by rfl),
      h.2.notMem (show isWord '\n' = false by rfl)]
  | remove names | exclude names | expose names | getter names => exact Listable.newline_notMem h
  | inherit names => exact CommaListable.newline_notMem h

/-- A wording stands on one line. -/
theorem newline_notMem_text {g : Grammar} {w : Wording} (h : w.Fits g) : '\n' ∉ w.text := by
  suffices ha : '\n' ∉ w.argument by simp [text, newline_notMem_keyword, ha]
  cases g with
  | custom =>
    cases w with
    | quotedBuild path => exact newline_notMem_inQuotes h (by simp)
    | bareBuild path => exact fun hm => absurd (h.2 _ hm).1 (by decide)
    | moduleTask source output tail =>
      exact newline_notMem_inQuotes h.1 (by simp [newline_notMem_inQuotes h.2.1 h.2.2])
    | bareImport path gap =>
      have hpath : '\n' ∉ path := fun hm => absurd (h.1.2 _ hm).1 (by decide)
      simp [argument, hpath, newline_notMem_closing h.2]
    | _ => exact Shared.newline_notMem h
  | legacy =>
    cases w with
    | bareBuild path => exact h.2.2
    | _ => exact Shared.newline_notMem h
  | empty | formal => exact h.elim

theorem endsSolid_inQuotes (body : Text) : EndsSolid (inQuotes body []) :=
  ⟨'"' :: body, '"', rfl, rfl⟩

theorem endsSolid_closing {t : Text} (h : EndsSolid t) (gap : Option Text) :
    EndsSolid (t ++ closing gap) := by
  cases gap with
  | none => simpa [closing] using h
  | some b => exact ⟨t ++ b, ';', by simp [closing], rfl⟩

theorem Shared.endsSolid {w : Wording} (h : w.Shared) : EndsSolid w.argument := by
  cases w with
  | quotedBuild _ | bareBuild _ | moduleTask _ _ _ | bareImport _ _ => exact h.elim
  | copyright notice => exact endsSolid_inQuotes notice
  | quotedImport path gap =>
    simpa [argument, inQuotes] using endsSolid_closing (endsSolid_inQuotes path) gap
  | replace old new =>
    exact (endsSolid_of_forall h.2.1 fun c hc => isBlank_of_isWord (h.2.2 c hc)).append _
  | remove names | exclude names | expose names | getter names =>
    exact endsSolid_of_stops (Text.joinWith_ne_nil h.1 fun w hw => (h.2 w hw).1)
      (Listable.stops_reverse h)
  | inherit names =>
    exact endsSolid_of_stops (CommaListable.joinWith_ne_nil h) (CommaListable.stops_reverse h)

/-- Only the tail of a module may end in blanks. -/
theorem endsSolid_argument {g : Grammar} {w : Wording} (h : w.Fits g)
    (hm : w.kind ≠ .moduleTask) : EndsSolid w.argument := by
  cases g with
  | custom =>
    cases w with
    | quotedBuild path => exact endsSolid_inQuotes path
    | bareBuild path => exact endsSolid_of_forall h.1 fun c hc => (h.2 c hc).1
    | moduleTask source output tail => exact absurd rfl hm
    | bareImport path gap =>
      exact endsSolid_closing (endsSolid_of_forall h.1.1 fun c hc => (h.1.2 c hc).1) gap
    | _ => exact Shared.endsSolid h
  | legacy =>
    cases w with
    | bareBuild path => exact endsSolid_of_stops h.1 (trim_eq_self_iff.1 h.2.1).2
    | _ => exact Shared.endsSolid h
  | empty | formal => exact h.elim

/-- The text of a module with a trimmed tail. -/
theorem trim_text_moduleTask (source output tail : Text) :
    trim (moduleTask source output tail).text =
      (moduleTask source output (trimRight tail)).text := by
  have hshape : ∀ t : Text, (moduleTask source output t).text =
      (Kind.moduleTask.keyword ++ ' ' :: inQuotes source (' ' :: 't' :: 'o' :: ' ' :: '"' :: output))
        ++ '"' :: t := by
    intro t
    simp [text, kind, argument, inQuotes]
  rw [trim_of_stops (stops_text _), hshape, hshape, trimRight_append_cons tail (by rfl)]

/-- Trimming a wording of a grammar gives a wording that asks for the same. -/
theorem exists_trim_text {g : Grammar} {w : Wording} (h : w.Fits g) :
    ∃ v : Wording, v.Fits g ∧ v.text = trim w.text ∧ v.request = w.request := by
  by_cases hm : w.kind = .moduleTask
  · cases w with
    | moduleTask source output tail =>
      refine ⟨moduleTask source output (trimRight tail), ?_, (trim_text_moduleTask _ _ _).symm, ?_⟩
      · cases g with
        | custom => exact ⟨h.1, h.2.1, fun hn => h.2.2 (mem_of_mem_trimRight hn)⟩
        | legacy | empty | formal => exact h.elim
      · simp [request, trim_trimRight]
    | _ => simp [kind] at hm
  · have hsolid : EndsSolid w.text := by
      simpa [text] using (endsSolid_argument h hm).append (w.kind.keyword ++ [' '])
    exact ⟨w, h, by rw [trim_of_stops (stops_text w), hsolid.trimRight], rfl⟩

end Wording

end SolInterface.Directive

namespace SolInterface.Dialect
open Text Directive Wording

/-- What follows the marker of an indented line, up to blanks at its end. -/
theorem content?_marked {d : Dialect} (hm : d.marker ≠ []) (hs : Stops isBlank d.marker)
    {indent text trailing : Text} (hi : Spacing indent) (ht : Spacing trailing)
    (hne : text ≠ []) (hstop : Stops isBlank text) (hn : '\n' ∉ text) :
    d.content? (indent ++ d.marker ++ ' ' :: text ++ trailing) = some (trim text) := by
  have hskip : ∀ c ∈ indent, ∀ r, (after? d.marker (c :: r)).bind lineTail? = none := by
    intro c hc r
    have hlead : after? d.marker (c :: r) = none := by
      cases hd : d.marker with
      | nil => exact absurd hd hm
      | cons m more =>
        have hmc : m ≠ c := by
          rintro rfl
          rw [hd, stops_cons, (hi m hc).1] at hs
          simp at hs
        simp [after?, hmc]
    rw [hlead]
    rfl
  have hline : '\n' ∉ text ++ trailing := by
    simpa [hn] using fun hmem => (ht _ hmem).2 rfl
  have htail : lineTail? (' ' :: (text ++ trailing)) = some (text ++ trailing, []) :=
    lineTail?_space (by simp [hne]) ((stops_append hne _).2 hstop) hline
  have hshape : indent ++ d.marker ++ ' ' :: text ++ trailing =
      indent ++ (d.marker ++ ' ' :: (text ++ trailing)) := by simp
  rw [content?, hshape, firstMatch_append _ hskip, firstMatch_of_some (a := (text ++ trailing, []))
    (by simp [htail])]
  simp [trim_append_right text fun c hc => (ht c hc).1]

theorem parseLine_wording {d : Dialect} (hm : d.marker ≠ []) (hs : Stops isBlank d.marker)
    {w : Wording} (hw : w.Fits d.grammar) {indent trailing : Text} (hi : Spacing indent)
    (ht : Spacing trailing) :
    d.parseLine (indent ++ d.marker ++ ' ' :: w.text ++ trailing) = some w.request := by
  obtain ⟨v, hv, htext, hreq⟩ := exists_trim_text hw
  have hne : w.text ≠ [] := by simp [Wording.text, keyword_ne_nil]
  rw [parseLine, content?_marked hm hs hi ht hne (stops_text w) (newline_notMem_text hw),
    Option.map_some, ← htext, read_text hv, hreq]

theorem kind?_request (w : Wording) : w.request.kind? = some w.kind := by
  cases w <;> rfl

/-- Both dialects read every one of their wordings, however it is indented and whatever blanks
follow it, as a recognised directive of its kind with its parts and its line number. -/
theorem directive_roundtrip {d : Dialect} (hd : d = .custom ∨ d = .legacy) {w : Wording}
    (hw : w.Fits d.grammar) {indent trailing : Text} (hi : Spacing indent) (ht : Spacing trailing)
    (n : Nat) :
    d.parseLine (indent ++ d.marker ++ ' ' :: w.text ++ trailing) = some w.request ∧
      d.directivesFrom n [indent ++ d.marker ++ ' ' :: w.text ++ trailing] = [⟨w.request, n⟩] ∧
      w.request.kind? = some w.kind := by
  have hmarker : d.marker ≠ [] ∧ Stops isBlank d.marker := by
    rcases hd with rfl | rfl <;> exact ⟨by decide, stops_cons.2 rfl⟩
  have hline := parseLine_wording hmarker.1 hmarker.2 hw hi ht
  refine ⟨hline, ?_, kind?_request w⟩
  rw [directivesFrom, hline]
  rfl

/-- A module whose tail has flags, quotes and blanks, in an indented line. -/
theorem directive_roundtrip_module :
    (Wording.moduleTask "./M.sol" "./I M.sol" " --remove A --import \"x y\" ").Fits .custom ∧
      Dialect.custom.directivesFrom 7
        ["\t/// @custom:interface module \"./M.sol\" to \"./I M.sol\" --remove A --import \"x y\"  "] =
      [⟨.moduleTask ⟨"./M.sol", "./I M.sol", { remove := ["A"], imports := ["x y"] },
        "--remove A --import \"x y\""⟩, 7⟩] := by
  have hfits : (Wording.moduleTask "./M.sol" "./I M.sol" " --remove A --import \"x y\" ").Fits
      .custom := ⟨by decide, by decide, by decide⟩
  have hindent : Spacing "\t".toList := by decide
  have htrailing : Spacing " ".toList := by decide
  exact ⟨hfits, (directive_roundtrip (Or.inl rfl) hfits hindent htrailing 7).2.1⟩

end SolInterface.Dialect
