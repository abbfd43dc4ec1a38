import SolInterface.Proofs.BuildDirective
import SolInterface.Proofs.DirectiveRoundtrip

/-!
What the two grammars have in common. Every form starts with the keyword of its kind and a blank, so
that no text has forms of two kinds and the order in which forms are tried does not matter. Main
statement: the grammars read a text alike unless it is a module, an import of a bare path, or a build
that is not written as a bare path.
-/
namespace SolInterface

namespace Text

theorem quoted?_eq_some {t body rest : Text} :
    quoted? t = some (body, rest) ↔
      t = Directive.Wording.inQuotes body rest ∧ body ≠ [] ∧ '"' ∉ body := by
  constructor
  · intro h
    have hne := quoted?_ne_nil h
    unfold quoted? at h
    split at h
    · next r =>
      split at h
      · cases h
      · next more hdrop _ =>
        obtain ⟨rfl, rfl⟩ := Prod.mk.inj (Option.some.inj h)
        refine ⟨?_, hne, fun hquote => ?_⟩
        · rw [Directive.Wording.inQuotes, ← hdrop, List.takeWhile_append_dropWhile]
        · simpa using List.mem_takeWhile_imp hquote
      · cases h
    · cases h
  · rintro ⟨rfl, hne, hquote⟩
    exact quoted?_append rest hne hquote

theorem atEnd_iff {t : Text} : atEnd t = true ↔ t = [] ∨ t = ['\n'] := by simp [atEnd]

theorem stops_of_atEnd {t : Text} (h : atEnd t = true) : Stops (fun c => !isBlank c) t := by
  rcases atEnd_iff.1 h with rfl | rfl
  · exact stops_nil _
  · exact stops_cons.2 rfl

/-- After blanks the rest of the line is taken, unless nothing else is left. -/
theorem lineTail?_append {gap rest : Text} (hne : gap ≠ []) (hgap : ∀ c ∈ gap, isBlank c = true)
    (hrest : rest ≠ []) (hstops : Stops isBlank rest) :
    lineTail? (gap ++ rest) =
      some (rest.takeWhile (· != '\n'), rest.dropWhile (· != '\n')) := by
  have htake : (gap ++ rest).takeWhile isBlank = gap := takeWhile_run hgap hstops
  have hdrop : (gap ++ rest).dropWhile isBlank = rest := dropWhile_run hgap hstops
  obtain ⟨b, gap, rfl⟩ := List.exists_cons_of_ne_nil hne
  obtain ⟨c, rest, rfl⟩ := List.exists_cons_of_ne_nil hrest
  simp only [lineTail?, htake, hdrop]

end Text

namespace Directive
open Text Wording

/-- The text is the keyword of the kind, blanks, and then `rest`, which starts with no blank. -/
def Keyed (kind : Kind) (t rest : Text) : Prop :=
  ∃ gap, t = kind.keyword ++ (gap ++ rest) ∧ gap ≠ [] ∧ (∀ c ∈ gap, isBlank c = true) ∧
    Stops isBlank rest

/-- Nothing follows, or blanks and a semicolon that nothing follows. -/
def ImportEnd (t : Text) : Prop :=
  atEnd t = true ∨
    ∃ gap rest, t = gap ++ ';' :: rest ∧ (∀ c ∈ gap, isBlank c = true) ∧ atEnd rest = true

def QuotedImport (t path : Text) : Prop :=
  ∃ tail, Keyed .importPath t (inQuotes path tail) ∧ path ≠ [] ∧ '"' ∉ path ∧ ImportEnd tail

def BareImport (t path : Text) : Prop :=
  ∃ tail, Keyed .importPath t (path ++ tail) ∧ path ≠ [] ∧
    (∀ c ∈ path, isBlank c = false ∧ c ≠ '"' ∧ c ≠ ';') ∧ ImportEnd tail

def QuotedBuild (t path : Text) : Prop :=
  ∃ tail, Keyed .build t (inQuotes path tail) ∧ path ≠ [] ∧ '"' ∉ path ∧ atEnd tail = true

/-- A build whose path is a text without blanks, and not one in quotes. -/
def BareBuild (t path : Text) : Prop :=
  (∃ tail, Keyed .build t (path ++ tail) ∧ path ≠ [] ∧ (∀ c ∈ path, isBlank c = false) ∧
    atEnd tail = true) ∧ ∀ body, ¬ QuotedBuild t body

theorem Request.keyed?_eq_some {kind : Kind} {t rest : Text} :
    keyed? kind t = some rest ↔ Keyed kind t rest := by
  simp only [keyed?, Option.bind_eq_bind, Option.bind_eq_some_iff, after?_eq_some, blanks?_eq_some]
  constructor
  · rintro ⟨_, rfl, gap, rfl, hgap⟩
    exact ⟨gap, rfl, hgap⟩
  · rintro ⟨gap, rfl, hgap⟩
    exact ⟨_, rfl, gap, rfl, hgap⟩

theorem Keyed.unique {kind : Kind} {t rest rest' : Text} (h : Keyed kind t rest)
    (h' : Keyed kind t rest') : rest = rest' :=
  Option.some.inj ((Request.keyed?_eq_some.2 h).symm.trans (Request.keyed?_eq_some.2 h'))

theorem Keyed.keyword {kind : Kind} {t rest : Text} (h : Keyed kind t rest) :
    kind.keyword <+: t := by
  obtain ⟨gap, rfl, -⟩ := h
  exact List.prefix_append _ _

theorem QuotedImport.not_bareImport {t path path' : Text} (h : QuotedImport t path) :
    ¬ BareImport t path' := by
  obtain ⟨tail, hkeyed, -⟩ := h
  rintro ⟨tail', hkeyed', hne, hbare, -⟩
  obtain ⟨c, more, rfl⟩ := List.exists_cons_of_ne_nil hne
  have hquote : c = '"' := (List.cons.inj (hkeyed'.unique hkeyed)).1
  exact (hbare c List.mem_cons_self).2.1 hquote

namespace Request

/-! What the readers accept in which the grammars differ. -/

theorem wholeQuoted?_eq_some {t body : Text} :
    wholeQuoted? t = some body ↔
      ∃ tail, t = inQuotes body tail ∧ body ≠ [] ∧ '"' ∉ body ∧ atEnd tail = true := by
  simp only [wholeQuoted?, Option.map_eq_some_iff, Option.filter_eq_some_iff, Prod.exists,
    quoted?_eq_some]
  constructor
  · rintro ⟨body, tail, ⟨⟨rfl, hne, hquote⟩, hend⟩, rfl⟩
    exact ⟨tail, rfl, hne, hquote, hend⟩
  · rintro ⟨tail, rfl, hne, hquote, hend⟩
    exact ⟨body, tail, ⟨⟨rfl, hne, hquote⟩, hend⟩, rfl⟩

theorem wholeBare?_eq_some {t path : Text} :
    wholeBare? t = some path ↔
      ∃ tail, t = path ++ tail ∧ path ≠ [] ∧ (∀ c ∈ path, isBlank c = false) ∧
        atEnd tail = true := by
  constructor
  · intro h
    unfold wholeBare? at h
    split at h
    · cases h
    · next hne =>
      split at h
      · next hend =>
        cases h
        refine ⟨_, List.takeWhile_append_dropWhile.symm, hne, fun c hc => ?_, hend⟩
        simpa using List.mem_takeWhile_imp hc
      · cases h
  · rintro ⟨tail, rfl, hne, hbare, hend⟩
    have hpath : ∀ c ∈ path, (!isBlank c) = true := fun c hc => by simp [hbare c hc]
    obtain ⟨c, path, rfl⟩ := List.exists_cons_of_ne_nil hne
    simp only [wholeBare?, takeWhile_run hpath (stops_of_atEnd hend),
      dropWhile_run hpath (stops_of_atEnd hend), hend, if_true]

theorem closesImport_iff {t : Text} : closesImport t = true ↔ ImportEnd t := by
  unfold closesImport
  constructor
  · intro h
    split at h
    · next rest hskip =>
      obtain ⟨gap, hgap, hblank⟩ := skipBlanks_split t
      exact Or.inr ⟨gap, rest, hskip ▸ hgap, hblank, h⟩
    · exact Or.inl h
  · rintro (hend | ⟨gap, rest, rfl, hgap, hend⟩)
    · rcases atEnd_iff.1 hend with rfl | rfl <;> rfl
    · have hskip : skipBlanks (gap ++ ';' :: rest) = ';' :: rest :=
        dropWhile_run hgap (stops_cons.2 rfl)
      simp only [hskip, hend]

theorem stops_of_importEnd {t : Text} (h : ImportEnd t) :
    Stops (fun c => !(isBlank c || c == '"' || c == ';')) t := by
  rcases h with hend | ⟨gap, rest, rfl, hgap, -⟩
  · rcases atEnd_iff.1 hend with rfl | rfl
    · exact stops_nil _
    · exact stops_cons.2 rfl
  · cases gap with
    | nil => exact stops_cons.2 rfl
    | cons c gap => exact stops_cons.2 (by simp [hgap c List.mem_cons_self])

theorem quotedImport?_eq_some {t : Text} {r : Request} :
    quotedImport? t = some r ↔ ∃ path, r = .importPath path ∧ QuotedImport t path := by
  simp only [quotedImport?, Option.bind_eq_bind, Option.bind_eq_some_iff, keyed?_eq_some,
    Prod.exists, quoted?_eq_some]
  constructor
  · rintro ⟨_, hkeyed, path, tail, ⟨rfl, hne, hquote⟩, hend⟩
    split at hend
    · next hcloses =>
      cases hend
      exact ⟨path, rfl, tail, hkeyed, hne, hquote, closesImport_iff.1 hcloses⟩
    · cases hend
  · rintro ⟨path, rfl, tail, hkeyed, hne, hquote, hend⟩
    exact ⟨_, hkeyed, path, tail, ⟨rfl, hne, hquote⟩, if_pos (closesImport_iff.2 hend)⟩

theorem bareImport?_eq_some {t : Text} {r : Request} :
    bareImport? t = some r ↔ ∃ path, r = .importPath path ∧ BareImport t path := by
  simp only [bareImport?, Option.bind_eq_bind, Option.bind_eq_some_iff, keyed?_eq_some]
  constructor
  · rintro ⟨rest, hkeyed, hend⟩
    split at hend
    · cases hend
    · next hne =>
      split at hend
      · next hcloses =>
        cases hend
        refine ⟨_, rfl, _, List.takeWhile_append_dropWhile.symm ▸ hkeyed, hne, fun c hc => ?_,
          closesImport_iff.1 hcloses⟩
        simpa [and_assoc] using List.mem_takeWhile_imp hc
      · cases hend
  · rintro ⟨path, rfl, tail, hkeyed, hne, hbare, hend⟩
    have hpath : ∀ c ∈ path, (!(isBlank c || c == '"' || c == ';')) = true := fun c hc => by
      simp [hbare c hc]
    refine ⟨_, hkeyed, ?_⟩
    obtain ⟨c, path, rfl⟩ := List.exists_cons_of_ne_nil hne
    simp only [takeWhile_run hpath (stops_of_importEnd hend),
      dropWhile_run hpath (stops_of_importEnd hend), closesImport_iff.2 hend, if_true]

theorem quotedBuild?_eq_some {t : Text} {r : Request} :
    quotedBuild? t = some r ↔ ∃ path, r = .build path ∧ (QuotedBuild t path ∨ BareBuild t path) := by
  simp only [quotedBuild?, Option.bind_eq_bind, Option.bind_eq_some_iff, Option.map_eq_some_iff,
    Option.orElse_eq_orElse, Option.orElse_eq_or, Option.or_eq_some_iff, keyed?_eq_some]
  constructor
  · rintro ⟨rest, hkeyed, path, hquoted | ⟨hnone, hbare⟩, rfl⟩
    · obtain ⟨tail, rfl, hform⟩ := wholeQuoted?_eq_some.1 hquoted
      exact ⟨path, rfl, Or.inl ⟨tail, hkeyed, hform⟩⟩
    · obtain ⟨tail, rfl, hform⟩ := wholeBare?_eq_some.1 hbare
      refine ⟨path, rfl, Or.inr ⟨⟨tail, hkeyed, hform⟩, ?_⟩⟩
      rintro body ⟨tail', hkeyed', hform'⟩
      have hquoted := wholeQuoted?_eq_some.2 ⟨tail', hkeyed.unique hkeyed', hform'⟩
      rw [hnone] at hquoted
      cases hquoted
  · rintro ⟨path, rfl, ⟨tail, hkeyed, hform⟩ | ⟨⟨tail, hkeyed, hform⟩, hnot⟩⟩
    · exact ⟨_, hkeyed, path, Or.inl (wholeQuoted?_eq_some.2 ⟨tail, rfl, hform⟩), rfl⟩
    · refine ⟨_, hkeyed, path, Or.inr ⟨?_, wholeBare?_eq_some.2 ⟨tail, rfl, hform⟩⟩, rfl⟩
      refine Option.eq_none_iff_forall_ne_some.2 fun body hbody => ?_
      obtain ⟨tail', hrest, hform'⟩ := wholeQuoted?_eq_some.1 hbody
      exact hnot body ⟨tail', hrest ▸ hkeyed, hform'⟩

theorem lineAfter?_keyed {kind : Kind} {t rest : Text} (h : Keyed kind t rest) (hne : rest ≠ []) :
    lineAfter? kind t =
      if atEnd (rest.dropWhile (· != '\n')) then some (rest.takeWhile (· != '\n')) else none := by
  obtain ⟨gap, rfl, hgap, hblank, hstops⟩ := h
  have hafter := after?_eq_some.2 (rfl : kind.keyword ++ (gap ++ rest) = _)
  simp only [lineAfter?, hafter, lineTail?_append hgap hblank hne hstops, Option.bind_eq_bind,
    Option.bind_some]

theorem lineBuild?_of_bareBuild {t path : Text} (h : BareBuild t path) :
    lineBuild? t = some (.build path) := by
  obtain ⟨⟨tail, hkeyed, hne, hbare, hend⟩, -⟩ := h
  have hpath : ∀ c ∈ path, (c != '\n') = true := fun c hc => by
    have hc := hbare c hc
    rw [bne_iff_ne]
    rintro rfl
    exact absurd hc (by decide)
  have htail : Stops (· != '\n') tail := by
    rcases atEnd_iff.1 hend with rfl | rfl
    · exact stops_nil _
    · exact stops_cons.2 rfl
  rw [lineBuild?, lineAfter?_keyed hkeyed (by simp [hne]), takeWhile_run hpath htail,
    dropWhile_run hpath htail, if_pos hend, Option.map_some]

/-- The rest of the line keeps the quotes that the other grammar takes off. -/
theorem lineBuild?_of_quotedBuild {t path : Text} (h : QuotedBuild t path) :
    lineBuild? t ≠ some (.build path) := by
  obtain ⟨tail, hkeyed, -, hquote, -⟩ := h
  rw [lineBuild?, lineAfter?_keyed hkeyed (by simp [inQuotes])]
  split
  · intro hline
    have hpath : '"' :: (path ++ '"' :: tail).takeWhile (· != '\n') = path :=
      Request.build.inj (Option.some.inj hline)
    exact hquote (hpath ▸ List.mem_cons_self)
  · exact fun hline => by cases hline

/-! No keyword starts another one, so a text has forms of one kind at most. -/

theorem kind_unique {kind other : Kind} {t : Text} (h : kind.keyword <+: t)
    (h' : other.keyword <+: t) : kind = other := by
  have hnested : ∀ {kind other : Kind}, kind.keyword.isPrefixOf other.keyword = true →
      kind = other := by
    intro kind other
    cases kind <;> cases other <;> decide
  rcases List.prefix_or_prefix_of_prefix h h' with hnest | hnest
  · exact hnested (List.isPrefixOf_iff_prefix.2 hnest)
  · exact (hnested (List.isPrefixOf_iff_prefix.2 hnest)).symm

theorem keyword_of_keyed? {kind : Kind} {t rest : Text} (h : keyed? kind t = some rest) :
    kind.keyword <+: t := (keyed?_eq_some.1 h).keyword

theorem keyword_of_lineAfter? {kind : Kind} {t found : Text} (h : lineAfter? kind t = some found) :
    kind.keyword <+: t := by
  simp only [lineAfter?, Option.bind_eq_bind, Option.bind_eq_some_iff] at h
  obtain ⟨rest, hafter, -⟩ := h
  exact ⟨rest, (after?_eq_some.1 hafter).symm⟩

theorem lineBuild?_eq_some {t : Text} {r : Request} (h : lineBuild? t = some r) :
    ∃ path, r = .build path ∧ Kind.build.keyword <+: t := by
  obtain ⟨path, hline, rfl⟩ := Option.map_eq_some_iff.1 h
  exact ⟨path, rfl, keyword_of_lineAfter? hline⟩

theorem moduleTask?_eq_some {t : Text} {r : Request} (h : moduleTask? t = some r) :
    ∃ task, r = .moduleTask task ∧ Kind.moduleTask.keyword <+: t := by
  simp only [moduleTask?, Option.bind_eq_bind, Option.bind_eq_some_iff] at h
  obtain ⟨_, hkeyed, _, -, _, -, _, -, _, -, _, -, hend⟩ := h
  split at hend
  · cases hend
    exact ⟨_, rfl, keyword_of_keyed? hkeyed⟩
  · cases hend

/-- What the forms that both grammars read alike give. -/
theorem shared?_eq_some {t : Text} {r : Request} (h : shared? t = some r) :
    ∃ kind, r.kind? = some kind ∧ kind.keyword <+: t ∧ kind ≠ .build ∧ kind ≠ .moduleTask ∧
      (kind = .importPath → ∃ path, QuotedImport t path) := by
  simp only [shared?, nameList?, Option.orElse_eq_orElse, Option.orElse_eq_or,
    Option.or_eq_some_iff, Option.map_eq_some_iff] at h
  rcases h with h | ⟨-, h | ⟨-, h | ⟨-, h⟩⟩⟩
  · simp only [copyright?, Option.bind_eq_bind, Option.bind_eq_some_iff,
      Option.map_eq_some_iff] at h
    obtain ⟨_, hkeyed, _, -, rfl⟩ := h
    exact ⟨.copyright, rfl, keyword_of_keyed? hkeyed, by simp, by simp, by simp⟩
  · obtain ⟨path, rfl, himport⟩ := quotedImport?_eq_some.1 h
    have hkeyword := himport.choose_spec.1.keyword
    exact ⟨.importPath, rfl, hkeyword, by simp, by simp, fun _ => ⟨path, himport⟩⟩
  · simp only [replace?, Option.bind_eq_bind, Option.bind_eq_some_iff] at h
    obtain ⟨_, hkeyed, _, -, _, -, _, -, _, -, _, -, hend⟩ := h
    split at hend
    · cases hend
      exact ⟨.replace, rfl, keyword_of_keyed? hkeyed, by simp, by simp, by simp⟩
    · cases hend
  · rcases h with ⟨_, hline, rfl⟩ | ⟨-, ⟨_, hline, rfl⟩ | ⟨-, ⟨_, hline, rfl⟩ |
      ⟨-, ⟨_, hline, rfl⟩ | ⟨-, _, hline, rfl⟩⟩⟩⟩
    all_goals exact ⟨_, rfl, keyword_of_lineAfter? hline, by simp, by simp, by simp⟩

theorem eq_none_of_kind {read : Text → Option Request} {own kind : Kind} {t : Text}
    (hread : ∀ r, read t = some r → own.keyword <+: t) (hkeyword : kind.keyword <+: t)
    (hne : kind ≠ own) : read t = none :=
  Option.eq_none_iff_forall_ne_some.2 fun r hr => hne (kind_unique hkeyword (hread r hr))

theorem keyword_of_quotedBuild? {t : Text} {r : Request} (h : quotedBuild? t = some r) :
    Kind.build.keyword <+: t := by
  obtain ⟨path, -, ⟨tail, hkeyed, -⟩ | ⟨⟨tail, hkeyed, -⟩, -⟩⟩ := quotedBuild?_eq_some.1 h <;>
    exact hkeyed.keyword

theorem keyword_of_bareImport? {t : Text} {r : Request} (h : bareImport? t = some r) :
    Kind.importPath.keyword <+: t := by
  obtain ⟨path, -, tail, hkeyed, -⟩ := bareImport?_eq_some.1 h
  exact hkeyed.keyword

/-- The forms of the older grammar, tried in any order. -/
theorem legacy?_eq_some {t : Text} {r : Request} :
    legacy? t = some r ↔ lineBuild? t = some r ∨ shared? t = some r := by
  simp only [legacy?, Option.orElse_eq_orElse, Option.orElse_eq_or, Option.or_eq_some_iff]
  refine ⟨fun h => h.imp_right And.right, fun h => h.imp_right fun hshared => ⟨?_, hshared⟩⟩
  obtain ⟨kind, -, hkeyword, hbuild, -⟩ := shared?_eq_some hshared
  exact eq_none_of_kind (fun r hr => (lineBuild?_eq_some hr).choose_spec.2) hkeyword hbuild

/-- The forms of the newer grammar, tried in any order. -/
theorem custom?_eq_some {t : Text} {r : Request} :
    custom? t = some r ↔ quotedBuild? t = some r ∨ moduleTask? t = some r ∨
      bareImport? t = some r ∨ shared? t = some r := by
  simp only [custom?, Option.orElse_eq_orElse, Option.orElse_eq_or, Option.or_eq_some_iff]
  have hnobuild : ∀ {kind : Kind}, kind.keyword <+: t → kind ≠ .build → quotedBuild? t = none :=
    eq_none_of_kind fun r hr => keyword_of_quotedBuild? hr
  have hnomodule : ∀ {kind : Kind}, kind.keyword <+: t → kind ≠ .moduleTask → moduleTask? t = none :=
    eq_none_of_kind fun r hr => (moduleTask?_eq_some hr).choose_spec.2
  constructor
  · rintro (hbuild | ⟨-, hmodule | ⟨-, himport | ⟨-, hshared⟩⟩⟩)
    · exact Or.inl hbuild
    · exact Or.inr (Or.inl hmodule)
    · exact Or.inr (Or.inr (Or.inl himport))
    · exact Or.inr (Or.inr (Or.inr hshared))
  · rintro (hbuild | hmodule | himport | hshared)
    · exact Or.inl hbuild
    · obtain ⟨task, -, hkeyword⟩ := moduleTask?_eq_some hmodule
      exact Or.inr ⟨hnobuild hkeyword (by simp), Or.inl hmodule⟩
    · have hkeyword := keyword_of_bareImport? himport
      exact Or.inr ⟨hnobuild hkeyword (by simp), Or.inr ⟨hnomodule hkeyword (by simp),
        Or.inl himport⟩⟩
    · obtain ⟨kind, -, hkeyword, hbuild, hmodule, hquoted⟩ := shared?_eq_some hshared
      have hnoimport : bareImport? t = none := by
        refine Option.eq_none_iff_forall_ne_some.2 fun r hr => ?_
        obtain ⟨path, -, hbare⟩ := bareImport?_eq_some.1 hr
        obtain ⟨path', himport⟩ := hquoted (kind_unique hkeyword (keyword_of_bareImport? hr))
        exact himport.not_bareImport hbare
      exact Or.inr ⟨hnobuild hkeyword hbuild, Or.inr ⟨hnomodule hkeyword hmodule,
        Or.inr ⟨hnoimport, hshared⟩⟩⟩

theorem custom?_of_legacy? {t : Text} {r : Request} {kind : Kind} (h : legacy? t = some r)
    (hkind : r.kind? = some kind) (hbuild : kind ≠ .build) : custom? t = some r := by
  rcases legacy?_eq_some.1 h with hline | hshared
  · obtain ⟨path, rfl, -⟩ := lineBuild?_eq_some hline
    exact absurd (Option.some.inj hkind).symm hbuild
  · exact custom?_eq_some.2 (Or.inr (Or.inr (Or.inr hshared)))

/-- The kind of a request tells which form of the older grammar has read it. -/
theorem form_of_legacy? {t : Text} {r : Request} {kind : Kind} (h : legacy? t = some r)
    (hkind : r.kind? = some kind) :
    kind ≠ .moduleTask ∧ (kind = .importPath → ∃ path, QuotedImport t path) ∧
      (kind = .build → lineBuild? t = some r) := by
  rcases legacy?_eq_some.1 h with hline | hshared
  · obtain ⟨path, rfl, -⟩ := lineBuild?_eq_some hline
    obtain rfl := Option.some.inj hkind
    exact ⟨by simp, by simp, fun _ => hline⟩
  · obtain ⟨kind', hkind', -, hbuild, hmodule, hquoted⟩ := shared?_eq_some hshared
    obtain rfl := Option.some.inj (hkind.symm.trans hkind')
    exact ⟨hmodule, hquoted, fun he => absurd he hbuild⟩

/-- The kind of a request tells which form of the newer grammar has read it. -/
theorem form_of_custom? {t : Text} {r : Request} {kind : Kind} (h : custom? t = some r)
    (hkind : r.kind? = some kind) :
    (kind = .build ∧ ∃ path, r = .build path ∧ (QuotedBuild t path ∨ BareBuild t path)) ∨
      kind = .moduleTask ∨
      (kind = .importPath ∧ ∃ path, r = .importPath path ∧ BareImport t path) ∨
      kind ≠ .build ∧ shared? t = some r := by
  rcases custom?_eq_some.1 h with hbuild | hmodule | himport | hshared
  · obtain ⟨path, rfl, hform⟩ := quotedBuild?_eq_some.1 hbuild
    exact Or.inl ⟨(Option.some.inj hkind).symm, path, rfl, hform⟩
  · obtain ⟨task, rfl, -⟩ := moduleTask?_eq_some hmodule
    exact Or.inr (Or.inl (Option.some.inj hkind).symm)
  · obtain ⟨path, rfl, hform⟩ := bareImport?_eq_some.1 himport
    exact Or.inr (Or.inr (Or.inl ⟨(Option.some.inj hkind).symm, path, rfl, hform⟩))
  · obtain ⟨kind', hkind', -, hbuild, -⟩ := shared?_eq_some hshared
    obtain rfl := Option.some.inj (hkind.symm.trans hkind')
    exact Or.inr (Or.inr (Or.inr ⟨hbuild, hshared⟩))

theorem legacy?_of_custom?_iff {t : Text} {r : Request} {kind : Kind} (h : custom? t = some r)
    (hkind : r.kind? = some kind) :
    legacy? t = some r ↔ kind ≠ .moduleTask ∧ (kind = .importPath → ∃ path, QuotedImport t path) ∧
      (kind = .build → ∃ path, BareBuild t path) := by
  constructor
  · intro hlegacy
    obtain ⟨hmodule, hquoted, hline⟩ := form_of_legacy? hlegacy hkind
    refine ⟨hmodule, hquoted, ?_⟩
    rintro rfl
    rcases form_of_custom? h hkind with ⟨-, path, rfl, hform⟩ | he | ⟨he, -⟩ | ⟨he, -⟩
    · rcases hform with hquoted | hbare
      · exact absurd (hline rfl) (lineBuild?_of_quotedBuild hquoted)
      · exact ⟨path, hbare⟩
    · cases he
    · cases he
    · exact absurd rfl he
  · rintro ⟨hmodule, hquoted, hbare⟩
    rcases form_of_custom? h hkind with ⟨rfl, path, rfl, hform⟩ | he | ⟨rfl, path, rfl, hform⟩ |
      ⟨-, hshared⟩
    · obtain ⟨path', hbare⟩ := hbare rfl
      have hread := quotedBuild?_eq_some.2 ⟨path, rfl, hform⟩
      rw [quotedBuild?_eq_some.2 ⟨path', rfl, Or.inr hbare⟩] at hread
      exact legacy?_eq_some.2 (Or.inl (hread ▸ lineBuild?_of_bareBuild hbare))
    · exact absurd he hmodule
    · obtain ⟨path', hquoted⟩ := hquoted rfl
      exact absurd hform hquoted.not_bareImport
    · exact legacy?_eq_some.2 (Or.inr hshared)

/-- A request that was recognised is what the grammar found in the text. -/
theorem getD_unrecognised_eq_iff {found : Option Request} {t : Text} {r : Request} {kind : Kind}
    (hkind : r.kind? = some kind) : found.getD (.unrecognised t) = r ↔ found = some r := by
  cases found with
  | none =>
    refine ⟨?_, fun h => by cases h⟩
    rintro rfl
    cases hkind
  | some r' => simp

end Request
end Directive

namespace Grammar
open Directive Request

variable {t : Text} {kind : Kind}

theorem custom_read_of_legacy (hkind : (legacy.read t).kind? = some kind) (hbuild : kind ≠ .build) :
    custom.read t = legacy.read t := by
  have hfound : legacy? t = some (legacy.read t) := (getD_unrecognised_eq_iff hkind).1 rfl
  exact (getD_unrecognised_eq_iff hkind).2 (custom?_of_legacy? hfound hkind hbuild)

theorem legacy_read_of_custom_iff (hkind : (custom.read t).kind? = some kind) :
    legacy.read t = custom.read t ↔
      kind ≠ .moduleTask ∧ (kind = .importPath → ∃ path, QuotedImport t path) ∧
        (kind = .build → ∃ path, BareBuild t path) := by
  have hfound : custom? t = some (custom.read t) := (getD_unrecognised_eq_iff hkind).1 rfl
  exact (getD_unrecognised_eq_iff hkind).trans (legacy?_of_custom?_iff hfound hkind)

/-- What the newer grammar recognises and the older one reads otherwise. -/
theorem form_of_ne (hkind : (custom.read t).kind? = some kind)
    (hne : legacy.read t ≠ custom.read t) :
    kind = .moduleTask ∨ (∃ path, custom.read t = .importPath path ∧ BareImport t path) ∨
      kind = .build := by
  have hfound : custom? t = some (custom.read t) := (getD_unrecognised_eq_iff hkind).1 rfl
  rcases form_of_custom? hfound hkind with ⟨he, -⟩ | he | ⟨-, hform⟩ | ⟨-, hshared⟩
  · exact Or.inr (Or.inr he)
  · exact Or.inl he
  · exact Or.inr (Or.inl hform)
  · exact absurd ((getD_unrecognised_eq_iff hkind).2 (legacy?_eq_some.2 (Or.inr hshared))) hne

/-- The grammars are one engine. What the older one recognises as something else than a build the
newer one reads alike. What the newer one recognises is read alike by the older one exactly if it is
no module, an import is written in quotes, and a build as a bare path. So a text that only one of
them recognises is a module, an import of a bare path, or a build. -/
theorem read_custom_legacy (t : Text) :
    (∀ kind, (legacy.read t).kind? = some kind → kind ≠ .build → custom.read t = legacy.read t) ∧
    (∀ kind, (custom.read t).kind? = some kind →
      (legacy.read t = custom.read t ↔
        kind ≠ .moduleTask ∧ (kind = .importPath → ∃ path, QuotedImport t path) ∧
          (kind = .build → ∃ path, BareBuild t path))) ∧
    ((custom.read t).kind?.isSome ≠ (legacy.read t).kind?.isSome →
      (custom.read t).kind? = some .moduleTask ∨
      (∃ path, custom.read t = .importPath path ∧ BareImport t path) ∨
      (custom.read t).kind? = some .build ∨ (legacy.read t).kind? = some .build) := by
  refine ⟨fun kind => custom_read_of_legacy, fun kind => legacy_read_of_custom_iff, fun hone => ?_⟩
  have hne : legacy.read t ≠ custom.read t := fun he => hone (by rw [he])
  cases hcustom : (custom.read t).kind? with
  | some kind =>
    rcases form_of_ne hcustom hne with rfl | hform | rfl
    · exact Or.inl rfl
    · exact Or.inr (Or.inl hform)
    · exact Or.inr (Or.inr (Or.inl rfl))
  | none =>
    cases hlegacy : (legacy.read t).kind? with
    | none => exact absurd (by rw [hcustom, hlegacy]) hone
    | some kind =>
      by_cases hbuild : kind = .build
      · exact Or.inr (Or.inr (Or.inr (congrArg some hbuild)))
      · exact absurd (custom_read_of_legacy hlegacy hbuild).symm hne

/-- A path that starts with a quote and does not end with one. -/
theorem bareBuild_lone_quote : BareBuild "build  \"a\n" "\"a" := by
  have hkeyed : Keyed .build "build  \"a\n" ("\"a".toList ++ ['\n']) :=
    ⟨[' ', ' '], by decide, by decide, by decide, Text.stops_cons.2 rfl⟩
  refine ⟨⟨['\n'], hkeyed, by decide, by decide, by decide⟩, fun body hquoted => ?_⟩
  have hbody : quotedBuild? "build  \"a\n" = some (.build "\"a".toList) := by decide
  rw [quotedBuild?_eq_some.2 ⟨body, rfl, Or.inl hquoted⟩] at hbody
  obtain rfl := Request.build.inj (Option.some.inj hbody)
  obtain ⟨tail, -, -, hquote, -⟩ := hquoted
  exact hquote (by decide)

/-- An import whose quotes hold a line feed, a build of a path with a quote of its own, and an import
that only one of the grammars recognises. -/
theorem read_custom_legacy_quotes :
    custom.read "import\n\t\"a\nb\" ;\n" = .importPath "a\nb".toList ∧
      legacy.read "build  \"a\n" = .build "\"a".toList ∧
      ∃ path, custom.read "import a;" = .importPath path ∧ BareImport "import a;" path := by
  have hlegacy : legacy.read "import\n\t\"a\nb\" ;\n" = .importPath "a\nb".toList := by decide
  have hcustom : custom.read "build  \"a\n" = .build "\"a".toList := by decide
  refine ⟨?_, ?_, ?_⟩
  · exact ((read_custom_legacy _).1 .importPath (by rw [hlegacy]; rfl) (by decide)).trans hlegacy
  · refine (((read_custom_legacy _).2.1 .build (by rw [hcustom]; rfl)).2 ?_).trans hcustom
    exact ⟨by decide, fun he => absurd he (by decide), fun _ => ⟨_, bareBuild_lone_quote⟩⟩
  · rcases (read_custom_legacy "import a;").2.2 (by decide) with he | hform | he | he
    · exact absurd he (by decide)
    · exact hform
    · exact absurd he (by decide)
    · exact absurd he (by decide)

end Grammar
end SolInterface
