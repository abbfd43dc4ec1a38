import SolInterface.Proofs.Recipe
import SolInterface.Proofs.Text
import SolInterface.SourceUnit

/-!
Which sources have an output path. Under the dialects that can be asked for by name every directive
has a meaning, so that every text makes a unit, and the unit has an output path exactly if one of
its lines is read as a build directive.
-/
namespace SolInterface
open Text Directive

theorem Text.quoted?_ne_nil {t body rest : Text} (h : quoted? t = some (body, rest)) :
    body ≠ [] := by
  unfold quoted? at h
  split at h
  · split at h
    · cases h
    · next hne =>
      cases h
      exact fun hnil => hne hnil
    · cases h
  · cases h

theorem Text.lineTail?_ne_nil {t found rest : Text} (h : lineTail? t = some (found, rest)) :
    found ≠ [] := by
  unfold lineTail? at h
  split at h
  · cases h
  · split at h
    · cases h
    · cases h
      simp
  · next hblank hdrop =>
    cases h
    -- The first character that is no blank is no line feed.
    have hstops := stops_dropWhile isBlank t
    cases hrest : t.dropWhile isBlank with
    | nil =>
      cases htake : t.takeWhile isBlank with
      | nil => exact absurd htake hblank
      | cons b more => exact (hdrop b more htake hrest).elim
    | cons c r =>
      have hc : c ≠ '\n' := by
        rintro rfl
        rw [hrest] at hstops
        exact absurd (stops_cons.1 hstops) (by decide)
      simp [hc]

namespace Directive.Request

/-- The dialect says what the request asks for; a text that asks for an interface starts with the
keyword and names a path. -/
def IsMeant (content : Text) : Request → Prop
  | .build path => path ≠ [] ∧ Kind.build.keyword <+: content
  | .undefined _ => False
  | _ => True

theorem isMeant_quotedBuild? {t : Text} {r : Request} (h : quotedBuild? t = some r) :
    r.IsMeant t := by
  simp only [quotedBuild?, Option.bind_eq_bind, Option.bind_eq_some_iff, Option.map_eq_some_iff,
    Option.orElse_eq_orElse, Option.orElse_eq_or, Option.or_eq_some_iff] at h
  obtain ⟨rest, hkeyed, path, hpath, rfl⟩ := h
  have hkeyword : Kind.build.keyword <+: t := by
    simp only [keyed?, Option.bind_eq_bind, Option.bind_eq_some_iff] at hkeyed
    obtain ⟨more, hmore, -⟩ := hkeyed
    exact ⟨more, (after?_eq_some.1 hmore).symm⟩
  refine ⟨?_, hkeyword⟩
  rcases hpath with hquoted | ⟨-, hbare⟩
  · simp only [wholeQuoted?, Option.map_eq_some_iff, Option.filter_eq_some_iff] at hquoted
    obtain ⟨found, ⟨hfound, -⟩, rfl⟩ := hquoted
    exact quoted?_ne_nil hfound
  · unfold wholeBare? at hbare
    split at hbare
    · cases hbare
    · next hne =>
      split at hbare
      · cases hbare
        exact hne
      · cases hbare

theorem isMeant_lineBuild? {t : Text} {r : Request} (h : lineBuild? t = some r) : r.IsMeant t := by
  simp only [lineBuild?, lineAfter?, Option.map_eq_some_iff, Option.bind_eq_bind,
    Option.bind_eq_some_iff] at h
  obtain ⟨path, ⟨more, hmore, ⟨found, rest⟩, htail, hend⟩, rfl⟩ := h
  split at hend
  · cases hend
    exact ⟨lineTail?_ne_nil htail, more, (after?_eq_some.1 hmore).symm⟩
  · cases hend

theorem isMeant_moduleTask? {t : Text} {r : Request} (h : moduleTask? t = some r) : r.IsMeant t := by
  simp only [moduleTask?, Option.bind_eq_bind, Option.bind_eq_some_iff] at h
  obtain ⟨_, -, _, -, _, -, _, -, _, -, _, -, hend⟩ := h
  split at hend
  · cases hend
    trivial
  · cases hend

theorem isMeant_bareImport? {t : Text} {r : Request} (h : bareImport? t = some r) : r.IsMeant t := by
  simp only [bareImport?, Option.bind_eq_bind, Option.bind_eq_some_iff] at h
  obtain ⟨_, -, hend⟩ := h
  split at hend
  · cases hend
  · split at hend
    · cases hend
      trivial
    · cases hend

theorem isMeant_shared? {t : Text} {r : Request} (h : shared? t = some r) : r.IsMeant t := by
  simp only [shared?, nameList?, Option.orElse_eq_orElse, Option.orElse_eq_or,
    Option.or_eq_some_iff, Option.map_eq_some_iff] at h
  rcases h with h | ⟨-, h | ⟨-, h | ⟨-, h⟩⟩⟩
  · simp only [copyright?, Option.bind_eq_bind, Option.bind_eq_some_iff,
      Option.map_eq_some_iff] at h
    obtain ⟨_, -, _, -, rfl⟩ := h
    trivial
  · simp only [quotedImport?, Option.bind_eq_bind, Option.bind_eq_some_iff] at h
    obtain ⟨_, -, _, -, hend⟩ := h
    split at hend
    · cases hend
      trivial
    · cases hend
  · simp only [replace?, Option.bind_eq_bind, Option.bind_eq_some_iff] at h
    obtain ⟨_, -, _, -, _, -, _, -, _, -, _, -, hend⟩ := h
    split at hend
    · cases hend
      trivial
    · cases hend
  · rcases h with ⟨_, -, rfl⟩ | ⟨-, ⟨_, -, rfl⟩ | ⟨-, ⟨_, -, rfl⟩ | ⟨-, ⟨_, -, rfl⟩ |
      ⟨-, _, -, rfl⟩⟩⟩⟩ <;> trivial

end Directive.Request

def Grammar.IsNamed (g : Grammar) : Prop := g = .custom ∨ g = .legacy

theorem Grammar.isMeant_read {g : Grammar} (hg : g.IsNamed) (content : Text) :
    (g.read content).IsMeant content := by
  rcases hg with rfl | rfl
  · cases h : Request.custom? content with
    | none => simp [read, h, Request.IsMeant]
    | some r =>
      rw [show read .custom content = r by simp [read, h]]
      simp only [Request.custom?, Option.orElse_eq_orElse, Option.orElse_eq_or,
        Option.or_eq_some_iff] at h
      rcases h with h | ⟨-, h | ⟨-, h | ⟨-, h⟩⟩⟩
      · exact Request.isMeant_quotedBuild? h
      · exact Request.isMeant_moduleTask? h
      · exact Request.isMeant_bareImport? h
      · exact Request.isMeant_shared? h
  · cases h : Request.legacy? content with
    | none => simp [read, h, Request.IsMeant]
    | some r =>
      rw [show read .legacy content = r by simp [read, h]]
      simp only [Request.legacy?, Option.orElse_eq_orElse, Option.orElse_eq_or,
        Option.or_eq_some_iff] at h
      rcases h with h | ⟨-, h⟩
      · exact Request.isMeant_lineBuild? h
      · exact Request.isMeant_shared? h

namespace Dialect

def Builds (d : Dialect) (line : Text) : Prop := ∃ path, d.parseLine line = some (.build path)

instance (d : Dialect) (line : Text) : Decidable (d.Builds line) :=
  decidable_of_iff (((d.parseLine line).bind Request.outputPath?).isSome = true) <| by
    simp only [Option.isSome_iff_exists, Option.bind_eq_some_iff, Builds]
    refine exists_congr fun path => ⟨?_, fun h => ⟨_, h, rfl⟩⟩
    rintro ⟨request, hparse, hpath⟩
    cases request <;> cases hpath
    exact hparse

def HasBuild (d : Dialect) (content : Text) : Prop := ∃ line ∈ lines content, d.Builds line

instance (d : Dialect) (content : Text) : Decidable (d.HasBuild content) :=
  inferInstanceAs (Decidable (∃ line ∈ lines content, d.Builds line))

theorem requests_directivesFrom (d : Dialect) (n : Nat) (ls : List Text) :
    (d.directivesFrom n ls).map (·.request) = ls.filterMap d.parseLine := by
  induction ls generalizing n with
  | nil => rfl
  | cons line ls ih =>
    rw [directivesFrom, List.filterMap_cons]
    cases d.parseLine line with
    | none => exact ih (n + 1)
    | some request => exact congrArg (request :: ·) (ih (n + 1))

theorem isMeant_of_mem {d : Dialect} (hd : d.grammar.IsNamed) {ls : List Text} {request : Request}
    (h : request ∈ ls.filterMap d.parseLine) : ∃ content, request.IsMeant content := by
  obtain ⟨line, -, hline⟩ := List.mem_filterMap.1 h
  obtain ⟨content, -, rfl⟩ := Option.map_eq_some_iff.1 hline
  exact ⟨content, Grammar.isMeant_read hd content⟩

theorem firstUndefined?_directives {d : Dialect} (hd : d.grammar.IsNamed) (ls : List Text) :
    SourceUnit.firstUndefined? (d.directives ls) = none := by
  refine List.findSome?_eq_none_iff.2 fun directive hmem => ?_
  have hrequest : directive.request ∈ ls.filterMap d.parseLine := by
    rw [← d.requests_directivesFrom 1]
    exact List.mem_map_of_mem hmem
  obtain ⟨content, hmeant⟩ := isMeant_of_mem hd hrequest
  split
  · next hkind =>
    rw [hkind] at hmeant
    exact hmeant.elim
  · rfl

/-- The directives of a text give an output path exactly if one of them is a build directive. -/
theorem buildPath_directives {d : Dialect} (hd : d.grammar.IsNamed) (content : Text) :
    (Recipe.ofDirectives (d.directives (lines content))).buildPath ≠ [] ↔ d.HasBuild content := by
  have hrequests : ∀ path ∈ ((lines content).filterMap d.parseLine).filterMap Request.outputPath?,
      path ≠ [] := by
    intro path hpath
    obtain ⟨request, hmem, hrequest⟩ := List.mem_filterMap.1 hpath
    obtain ⟨content, hmeant⟩ := isMeant_of_mem hd hmem
    cases request <;> cases hrequest
    exact hmeant.1
  rw [Recipe.ofDirectives, directives, requests_directivesFrom, Recipe.buildPath_ofRequests]
  constructor
  · intro hne
    cases hlast : (((lines content).filterMap d.parseLine).filterMap
        Request.outputPath?).getLast? with
    | none => exact absurd (by rw [hlast]; rfl) hne
    | some path =>
      obtain ⟨request, hmem, hrequest⟩ := List.mem_filterMap.1 (List.mem_of_getLast? hlast)
      obtain ⟨line, hline, hparse⟩ := List.mem_filterMap.1 hmem
      refine ⟨line, hline, path, ?_⟩
      cases request <;> cases hrequest
      exact hparse
  · rintro ⟨line, hline, path, hparse⟩
    have hmem : path ∈ ((lines content).filterMap d.parseLine).filterMap Request.outputPath? :=
      List.mem_filterMap.2 ⟨.build path, List.mem_filterMap.2 ⟨line, hline, hparse⟩, rfl⟩
    obtain ⟨last, hlast⟩ := Option.isSome_iff_exists.1
      (List.getLast?_isSome.2 (List.ne_nil_of_mem hmem))
    rw [hlast]
    exact hrequests last (List.mem_of_getLast? hlast)

end Dialect

namespace Registry

theorem isNamed_of_mem {d : Dialect} (h : d ∈ standard.dialects) : d.grammar.IsNamed := by
  rcases List.mem_cons.1 h with rfl | h
  · exact Or.inl rfl
  · rw [List.mem_singleton.1 h]
    exact Or.inr rfl

theorem mem_of_resolve {r : Registry} {name content : Text} {d : Dialect}
    (h : r.resolve name content = .ok d) : d ∈ r.dialects := by
  have hget : ∀ {name : Text} {d : Dialect}, r.get? name = some d → d ∈ r.dialects :=
    fun hd => List.mem_of_find?_eq_some hd
  unfold resolve detect at h
  split at h
  · split at h
    · next hfind =>
      cases h
      exact List.mem_of_find?_eq_some hfind
    · split at h
      · next hd =>
        cases h
        exact hget hd
      · cases h
  · split at h
    · next hd =>
      cases h
      exact hget hd
    · cases h

/-- The options of the settings can be resolved for every text. -/
theorem exists_resolve {name : Text} (h : name ∈ Config.dialectOptions) (content : Text) :
    ∃ d, standard.resolve name content = .ok d := by
  simp only [Config.dialectOptions, List.mem_cons, List.not_mem_nil, or_false] at h
  rcases h with rfl | rfl | rfl
  · unfold resolve
    rw [if_pos (by decide), detect]
    split
    · exact ⟨_, rfl⟩
    · exact ⟨Dialect.custom, rfl⟩
  · exact ⟨Dialect.custom, rfl⟩
  · exact ⟨Dialect.legacy, rfl⟩

end Registry

namespace SourceUnit

/-- A text makes a unit under every dialect that the registry gives for it; the unit has an output
path if a line of the text is read as a build directive. -/
theorem exists_ofText {o : Options} {name content : Text} {d : Dialect}
    (hchoice : o.choice = .named name) (hd : Registry.standard.resolve name content = .ok d)
    (path : Path) :
    ∃ u, ofText path content o = .ok u ∧ u.path = path ∧ u.config = o.config ∧ u.dialect = d ∧
      u.content = content ∧ (u.buildPath ≠ [] ↔ d.HasBuild content) := by
  have hnamed : d.grammar.IsNamed := Registry.isNamed_of_mem (Registry.mem_of_resolve hd)
  have hdirectives : directivesOf o content = .ok (d, d.directives (lines content)) := by
    rw [directivesOf, hchoice]
    simp only [DialectChoice.resolve, hd]
  have hdefined := Dialect.firstUndefined?_directives hnamed (lines content)
  let u : SourceUnit := {
    path, content
    dialect := d
    directives := d.directives (lines content)
    config := o.config
    force := o.force || o.config.force
    choice := o.choice
    recipe := Recipe.ofDirectives (d.directives (lines content))
    warnings := (d.directives (lines content)).filterMap directiveWarning? }
  refine ⟨u, ?_, rfl, rfl, rfl, rfl, Dialect.buildPath_directives hnamed content⟩
  rw [ofText, hdirectives]
  simp only [hdefined]
  rfl

end SourceUnit
end SolInterface
