import SolInterface.Proofs.Refusal

/-!
Where outputs are written, whatever the spelling of their source. A path that ends in a name
resolves to that name under its resolved directory, so the directory of a source, and with it the
place of every output declared in the source, depends on the resolved source alone. What is resolved
holds neither `.` nor `..`, and its spelling is read back as the same path.
-/
namespace SolInterface.Path
open Text FileTree

/-! Resolving name by name. -/

theorem collapse_eq_foldl (names : List Text) : collapse names = names.foldl next [] := by
  unfold collapse
  congr
  funext known name
  simp only [next, beq_iff_eq]

theorem collapse_append (names more : List Text) :
    collapse (names ++ more) = more.foldl next (collapse names) := by
  rw [collapse_eq_foldl, collapse_eq_foldl, List.foldl_append]

theorem up_notMem_foldl_next {known : List Text} (h : "..".toList ∉ known) (names : List Text) :
    "..".toList ∉ names.foldl next known := by
  induction names generalizing known with
  | nil => exact h
  | cons name names ih =>
    refine ih ?_
    unfold next
    split
    · exact fun hmem => h (List.dropLast_subset _ hmem)
    · next hname =>
      intro hmem
      rcases List.mem_append.1 hmem with hmem | hmem
      · exact h hmem
      · exact hname (List.mem_singleton.1 hmem).symm

theorem up_notMem_collapse (names : List Text) : "..".toList ∉ collapse names := by
  rw [collapse_eq_foldl]
  exact up_notMem_foldl_next List.not_mem_nil names

theorem names_join (cwd p : Path) : (cwd.join p).names = start cwd p ++ p.names := by
  unfold join start
  split <;> simp

/-- The directory of a path that ends in a name is resolved along with the path. -/
theorem dropLast_resolve {p : Path} (h : EndsInName p) (cwd : Path) :
    (resolve cwd p).names.dropLast = collapse (start cwd p ++ p.parent.names) := by
  obtain ⟨init, name, hnames, hup⟩ := h
  have hparent : p.parent.names = init := by rw [parent, hnames, List.dropLast_concat]
  rw [resolve, names_join, hnames, hparent, ← List.append_assoc, collapse_append]
  rw [List.foldl_cons, List.foldl_nil, next, if_neg hup, List.dropLast_concat]

/-- A relative path seen from the directory of another one is followed from where that directory is
resolved to. -/
theorem resolve_parent_join {p q : Path} (h : EndsInName p) (hq : q.isAbsolute = false)
    (cwd : Path) :
    resolve cwd (p.parent.join q) = ⟨.root, q.names.foldl next (resolve cwd p).names.dropLast⟩ := by
  have hjoin : p.parent.join q = ⟨p.anchor, p.parent.names ++ q.names⟩ := by
    rw [join, if_neg (by simp [hq])]
    rfl
  have hstart : start cwd (p.parent.join q) = start cwd p := by rw [hjoin]; rfl
  rw [resolve, names_join, hstart, hjoin, ← List.append_assoc, collapse_append, dropLast_resolve h]

/-! Names as they are written. -/

/-- Every name can be written between slashes: it is neither empty nor a dot. -/
def Spelled (p : Path) : Prop := ∀ name ∈ p.names, isVoid name = false ∧ '/' ∉ name

theorem spelled_parse (t : Text) : Spelled (parse t) := by
  intro name hname
  obtain ⟨hpiece, hvoid⟩ := List.mem_filter.1 hname
  refine ⟨by simpa using hvoid, fun hslash => ?_⟩
  exact absurd (eq_false_of_mem_pieces hpiece '/' hslash) (by decide)

theorem Spelled.join {p q : Path} (hp : Spelled p) (hq : Spelled q) : Spelled (p.join q) := by
  unfold Path.join
  split
  · exact hq
  · intro name hname
    rcases List.mem_append.1 hname with hname | hname
    · exact hp name hname
    · exact hq name hname

theorem Spelled.parent {p : Path} (h : Spelled p) : Spelled p.parent := fun name hname =>
  h name (List.dropLast_subset _ hname)

theorem Spelled.resolve {cwd p : Path} (hcwd : Spelled cwd) (hp : Spelled p) :
    Spelled (resolve cwd p) := fun name hname => hcwd.join hp name (mem_collapse hname)

theorem Spelled.stops_joinWith {p : Path} (h : Spelled p) :
    Stops (· == '/') (joinWith ['/'] p.names) := by
  cases hnames : p.names with
  | nil => exact fun c hc => absurd hc (by simp [joinWith])
  | cons first more =>
    obtain ⟨hvoid, hslash⟩ := h first (hnames ▸ List.mem_cons_self)
    refine Text.stops_joinWith ?_ fun c hc => ?_
    · rintro rfl
      exact absurd hvoid (by decide)
    · simpa using fun he : c = '/' => hslash (he ▸ List.mem_of_mem_head? hc)

theorem anchorOf_slash {t : Text} (h : Stops (· == '/') t) : anchorOf ('/' :: t) = .root := by
  cases t with
  | nil => rfl
  | cons c t =>
    have hc : c ≠ '/' := by simpa using h c rfl
    simp [anchorOf, hc]

/-- A path from the root is read back from its text. -/
theorem Spelled.parse_text {p : Path} (h : Spelled p) (hroot : p.anchor = .root) :
    parse p.text = p := by
  obtain ⟨anchor, names⟩ := p
  obtain rfl : anchor = .root := hroot
  have htext : text ⟨.root, names⟩ = '/' :: joinWith ['/'] names := rfl
  have hanchor : anchorOf ('/' :: joinWith ['/'] names) = .root := anchorOf_slash h.stops_joinWith
  rw [htext, parse, hanchor]
  congr 1
  by_cases hnil : names = []
  · subst hnil
    decide
  · have hpieces : pieces (· == '/') (joinWith ['/'] names) = names :=
      pieces_joinWith hnil rfl fun name hname c hc => by
        simpa using fun he : c = '/' => (h name hname).2 (he ▸ hc)
    have hslash : pieces (· == '/') ('/' :: joinWith ['/'] names) = [] :: names :=
      congrArg ([] :: ·) hpieces
    rw [hslash, List.filter_cons_of_neg (by decide)]
    exact List.filter_eq_self.2 fun name hname => by simp [(h name hname).1]

/-! Outputs. -/

theorem flaw?_parent_join {p q : Path} (hp : p.flaw? = none) (hq : q.isAbsolute = false) :
    (p.parent.join q).flaw? = q.flaw? := by
  have hparent := flaw?_eq_none_iff.1 (flaw?_parent hp)
  have hhalf : p.parent.names.any (·.any isLoneHalf) = false :=
    List.any_eq_false.2 fun name hname => by simp [(hparent name hname).1]
  have hnull : p.parent.names.any (·.contains '\x00') = false :=
    List.any_eq_false.2 fun name hname => by simpa using (hparent name hname).2
  rw [join, if_neg (by simp [hq]), flaw?, flaw?]
  simp only [List.any_append, hhalf, hnull, Bool.false_or]

theorem resolved_eq_ok {cwd p q : Path} :
    resolved cwd p = .ok q ↔ p.flaw? = none ∧ q = resolve cwd p := by
  unfold resolved
  cases p.flaw? with
  | none => simp [eq_comm]
  | some cause => simp

section Declared
variable {cwd source : Path} {declared : Text}

theorem outputFor_of_absolute (h : (parse declared).isAbsolute = true) :
    outputFor cwd source declared = .ok (parse declared) := if_pos h

/-- The output of a source is followed from the resolved directory of the source. -/
theorem outputFor_of_relative (hrelative : (parse declared).isAbsolute = false)
    (hname : EndsInName source) {place : Path} (hplace : resolved cwd source = .ok place)
    (hflaw : (parse declared).flaw? = none) :
    outputFor cwd source declared =
      .ok ⟨.root, (parse declared).names.foldl next place.names.dropLast⟩ := by
  obtain ⟨hsource, rfl⟩ := resolved_eq_ok.1 hplace
  rw [outputFor, if_neg (by simp [hrelative]), ← resolve_parent_join hname hrelative,
    resolved_eq_ok, flaw?_parent_join hsource hrelative]
  exact ⟨hflaw, rfl⟩

theorem outputFor_of_flaw (hrelative : (parse declared).isAbsolute = false)
    (hsource : source.flaw? = none) {cause : FileError.Cause}
    (hflaw : (parse declared).flaw? = some cause) :
    outputFor cwd source declared = .error ⟨cause, source.parent.join (parse declared)⟩ := by
  rw [outputFor, if_neg (by simp [hrelative]), resolved, flaw?_parent_join hsource hrelative, hflaw]

end Declared

/-- Two spellings of one source, each of which ends in a name: a relative output declared in it has
one place, whatever the working directory, unless the declared path itself cannot be looked up. The
place is absolute, without dots, and stands for itself where it is declared in turn. -/
theorem outputFor_spelling (cwd declared : Text) {source other : Text} {place : Path}
    (hrelative : (parse declared).isAbsolute = false)
    (hsource : EndsInName (parse source)) (hother : EndsInName (parse other))
    (hplace : resolved (parse cwd) (parse source) = .ok place)
    (hsame : resolved (parse cwd) (parse other) = .ok place) :
    ((parse declared).flaw? = none → ∃ output,
      outputFor (parse cwd) (parse source) declared = .ok output ∧
      outputFor (parse cwd) (parse other) declared = .ok output ∧
      output.isAbsolute = true ∧ ".".toList ∉ output.names ∧ "..".toList ∉ output.names ∧
      ∀ here owner, outputFor here owner output.text = .ok output) ∧
    ∀ cause, (parse declared).flaw? = some cause → ∃ path path',
      outputFor (parse cwd) (parse source) declared = .error ⟨cause, path⟩ ∧
      outputFor (parse cwd) (parse other) declared = .error ⟨cause, path'⟩ := by
  obtain ⟨hclear, rfl⟩ := resolved_eq_ok.1 hplace
  obtain ⟨hclear', -⟩ := resolved_eq_ok.1 hsame
  refine ⟨fun hflaw => ?_, fun cause hflaw => ?_⟩
  · have houtput := outputFor_of_relative hrelative hsource hplace hflaw
    have houtput' := outputFor_of_relative hrelative hother hsame hflaw
    rw [← resolve_parent_join hsource hrelative] at houtput houtput'
    have hspelled : Spelled (resolve (parse cwd) ((parse source).parent.join (parse declared))) :=
      (spelled_parse cwd).resolve ((spelled_parse source).parent.join (spelled_parse declared))
    have hread := hspelled.parse_text rfl
    refine ⟨_, houtput, houtput', rfl, fun hdot => ?_, up_notMem_collapse _, fun here owner => ?_⟩
    · exact absurd (hspelled _ hdot).1 (by decide)
    · rw [outputFor_of_absolute (by rw [hread]; rfl), hread]
  · exact ⟨_, _, outputFor_of_flaw hrelative hclear hflaw, outputFor_of_flaw hrelative hclear' hflaw⟩

/-- A source spelled from the working directory and from the root, with parts that change nothing,
and an output that goes up beyond the root. -/
theorem outputFor_spelling_above_root :
    let cwd : Text := "/srv"
    let declared : Text := "../../../x/./I.sol"
    let source : Text := "a/..//b/A.sol"
    let other : Text := "//srv/./b/c/../A.sol"
    (parse declared).isAbsolute = false ∧
      resolved (parse cwd) (parse source) = resolved (parse cwd) (parse other) ∧
      outputFor (parse cwd) (parse source) declared = .ok (parse "/x/I.sol") ∧
      outputFor (parse cwd) (parse other) declared = .ok (parse "/x/I.sol") ∧
      outputFor (parse "elsewhere") (parse "/B.sol") "/x/I.sol" = .ok (parse "/x/I.sol") := by
  intro cwd declared source other
  have hsource : EndsInName (parse source) :=
    ⟨["a".toList, "..".toList, "b".toList], "A.sol".toList, by decide, by decide⟩
  have hother : EndsInName (parse other) :=
    ⟨["srv".toList, "b".toList, "c".toList, "..".toList], "A.sol".toList, by decide, by decide⟩
  have hplace : resolved (parse cwd) (parse source) = .ok (parse "/srv/b/A.sol") := by decide
  have hsame : resolved (parse cwd) (parse other) = .ok (parse "/srv/b/A.sol") := by decide
  obtain ⟨output, houtput, houtput', -, -, -, hagain⟩ :=
    (outputFor_spelling cwd declared (by decide) hsource hother hplace hsame).1 (by decide)
  obtain rfl : parse "/x/I.sol" = output := by
    have hvalue : outputFor (parse cwd) (parse source) declared = .ok (parse "/x/I.sol") := by decide
    exact Except.ok.inj (hvalue.symm.trans houtput)
  exact ⟨by decide, hplace.trans hsame.symm, houtput, houtput', hagain _ _⟩

end SolInterface.Path
