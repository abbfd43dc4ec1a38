import SolInterface.Proofs.BatchTally
import SolInterface.Proofs.Discovery

/-!
The total that a batch announces, against the interfaces that it then processes. The total counts
the lines that announce a module in one of the dialects left open, cut at any line boundary, in the
files as they stand before the run. What is processed are the lines that the dialect of a file reads
as module directives, cut at line feeds, when the file has its turn.
-/
namespace SolInterface
open WorkspaceM FileTree Text Directive

/-! Lines. -/

namespace Text

/-- Where nothing but a line feed ends a line, the two ways to cut differ at most in an empty line
at the end. -/
theorem lines_eq_boundedLines {t : Text} (h : ∀ c ∈ t, isLineBreak c = true → c = '\n') :
    lines t = boundedLines t ∨ lines t = boundedLines t ++ [[]] := by
  induction t with
  | nil => exact Or.inr rfl
  | cons c t ih =>
    obtain ⟨hc, ht⟩ := List.forall_mem_cons.1 h
    have hreturn : c ≠ '\r' := by
      rintro rfl
      exact absurd (hc rfl) (by decide)
    by_cases hfeed : c = '\n'
    · subst hfeed
      have hlines : lines ('\n' :: t) = [] :: lines t := rfl
      have hbounded : boundedLines ('\n' :: t) = [] :: boundedLines t := rfl
      rw [hlines, hbounded]
      exact (ih ht).imp (congrArg _) (congrArg _)
    · have hbreak : isLineBreak c = false := by
        cases hbreak : isLineBreak c with
        | true => exact absurd (hc hbreak) hfeed
        | false => rfl
      have hlines : ∀ {line more}, lines t = line :: more →
          lines (c :: t) = (c :: line) :: more := by
        intro line more hrest
        rw [lines] at hrest
        rw [lines, pieces, if_neg (by simpa using hfeed), hrest]
      have hstep := boundedLines.eq_3 c t fun _ hc => absurd hc hreturn
      rw [if_neg (by simp [hbreak])] at hstep
      rcases ih ht with hsame | hmore
      · obtain ⟨line, more, hrest⟩ := List.exists_cons_of_ne_nil (lines_ne_nil t)
        rw [← hsame, hrest] at hstep
        exact Or.inl ((hlines hrest).trans hstep.symm)
      · cases hrest : boundedLines t with
        | nil =>
          rw [hrest] at hmore hstep
          exact Or.inl ((hlines hmore).trans hstep.symm)
        | cons line more =>
          rw [hrest] at hmore hstep
          refine Or.inr ((hlines hmore).trans ?_)
          rw [hstep]
          rfl

theorem countP_boundedLines {t : Text} (h : ∀ c ∈ t, isLineBreak c = true → c = '\n')
    {f : Text → Bool} (hf : f [] = false) : (boundedLines t).countP f = (lines t).countP f := by
  rcases lines_eq_boundedLines h with h | h
  · rw [h]
  · simp [h, hf]

end Text

/-! Lines that announce a module, and lines that are read as one. -/

namespace Dialect

/-- The line is counted: the keyword stands one space after the marker, and one before the rest. -/
def announcesModule (d : Dialect) (line : Text) : Bool :=
  d.supports .moduleTask && occursIn (Text.cat [d.marker, " module "]) line

def declaresModule (d : Dialect) (line : Text) : Bool :=
  ((d.parseLine line).bind Request.task?).isSome

theorem length_modules (d : Dialect) (content : Text) :
    (Recipe.ofDirectives (d.directives (lines content))).modules.length =
      (lines content).countP d.declaresModule := by
  rw [Recipe.ofDirectives, directives, requests_directivesFrom, Recipe.modules_ofRequests,
    List.filterMap_filterMap, List.length_filterMap_eq_countP]
  rfl

end Dialect

namespace SourceUnit

/-- A line is counted in one of the dialects left open. -/
def Options.announces (o : Options) (line : Text) : Bool :=
  match o.choice.candidates .standard with
  | .ok dialects => dialects.any (·.announcesModule line)
  | .error _ => false

/-- A line of the text is read as a module directive in the dialect of the text. -/
def Options.declares (o : Options) (text line : Text) : Bool :=
  match o.choice.resolve .standard text with
  | .ok d => d.declaresModule line
  | .error _ => false

/-- In such a text each line is counted exactly if it is read as a module directive. -/
def Options.CountsAsRead (o : Options) (text : Text) : Prop :=
  (∀ c ∈ text, isLineBreak c = true → c = '\n') ∧
    ∀ line ∈ lines text, o.announces line = o.declares text line

instance (o : Options) (text : Text) : Decidable (o.CountsAsRead text) :=
  inferInstanceAs (Decidable (_ ∧ _))

def Options.announced (o : Options) (text : Text) : Nat := (boundedLines text).countP o.announces

def Options.declared (o : Options) (text : Text) : Nat := (lines text).countP (o.declares text)

theorem Options.announced_eq_declared {o : Options} {text : Text} (h : o.CountsAsRead text) :
    o.announced text = o.declared text := by
  have hnil : o.announces [] = false := by
    unfold announces
    split
    · simp [Dialect.announcesModule, Text.cat, occursIn]
    · rfl
  rw [announced, countP_boundedLines h.1 hnil, declared]
  exact List.countP_congr fun line hline => by rw [h.2 line hline]

theorem length_modules_ofText {p : Path} {content : Text} {o : Options} {u : SourceUnit}
    (h : ofText p content o = .ok u) : u.recipe.modules.length = o.declared content := by
  unfold ofText directivesOf at h
  unfold Options.declared Options.declares
  cases hresolve : o.choice.resolve .standard content with
  | error e => simp [hresolve] at h
  | ok d =>
    rw [hresolve] at h
    dsimp only at h
    split at h
    · cases h
    · cases h
      exact d.length_modules content

end SourceUnit

namespace Summary

theorem processed_count (s : Summary) (status : Option Status) :
    (s.count status).processed = s.processed + 1 := by
  rcases status with _ | _ | _ <;> simp only [count, processed] <;> omega

theorem processed_recordModules (s : Summary) (modules : List ModuleResult) :
    (modules.foldl recordModule s).processed = s.processed + modules.length := by
  induction modules generalizing s with
  | nil => rfl
  | cons m modules ih =>
    have hstep : (s.recordModule m).processed = s.processed + 1 := by
      rw [← processed_count s m.status, recordModule]
      split <;> rfl
    rw [List.foldl_cons, ih, hstep, List.length_cons]
    omega

theorem processed_record (s : Summary) (r : BuildResult) :
    (s.record r).processed = s.processed + 1 + r.modules.length := by
  rw [record, processed_recordModules, processed_count]
  rfl

theorem count_keeps (s : Summary) (status : Option Status) :
    (s.count status).total = s.total ∧ (s.count status).results = s.results := by
  rcases status with _ | _ | _ <;> exact ⟨rfl, rfl⟩

/-- Modules add to the counts and to the errors alone. -/
theorem recordModules_keeps (s : Summary) (modules : List ModuleResult) :
    (modules.foldl recordModule s).total = s.total ∧
      (modules.foldl recordModule s).results = s.results := by
  induction modules generalizing s with
  | nil => exact ⟨rfl, rfl⟩
  | cons m modules ih =>
    have hstep : (s.recordModule m).total = s.total ∧ (s.recordModule m).results = s.results := by
      rw [← (count_keeps s m.status).1, ← (count_keeps s m.status).2, recordModule]
      split <;> exact ⟨rfl, rfl⟩
    rw [List.foldl_cons, (ih _).1, (ih _).2]
    exact hstep

theorem total_record (s : Summary) (r : BuildResult) : (s.record r).total = s.total := by
  rw [record, (recordModules_keeps _ _).1, (count_keeps _ _).1]

theorem results_record (s : Summary) (r : BuildResult) :
    (s.record r).results = s.results ++ [r] := by
  rw [record, (recordModules_keeps _ _).2, (count_keeps _ _).2]

end Summary

namespace Batch
open Build

variable {console : Console} {o : SourceUnit.Options} {p : Path} {paths : List Path} {s : Summary}
  {w w' : Workspace} {bytes : List UInt8} {text : Text}

def sourceText (w : Workspace) (p : Path) : Text :=
  match w.files.read w.cwd p with
  | .error _ => []
  | .ok bytes =>
    match Utf8.decode bytes with
    | .error _ => []
    | .ok text => normalizeNewlines text

theorem sourceText_eq (hread : w.files.read w.cwd p = .ok bytes)
    (hdecode : Utf8.decode bytes = .ok text) : sourceText w p = normalizeNewlines text := by
  simp only [sourceText, hread, hdecode]

/-! What is processed. -/

theorem length_modules_of_buildFile {result : BuildResult}
    (h : (outcome (buildFile p o) w).1 = .ok result) :
    result.modules.length = o.declared (sourceText w p) := by
  obtain ⟨w', h⟩ := exists_outcome h
  rcases outcome_bind_cases h with ⟨_, -, hanswer⟩ | ⟨u, v, hload, hunit⟩
  · cases hanswer
  obtain ⟨-, x, hmodules⟩ := (buildUnit_frame hunit).2 result rfl
  obtain ⟨bytes, hread, hbytes⟩ := load_eq_ok hload
  unfold SourceUnit.ofBytes? at hbytes
  split at hbytes
  · next text hdecode =>
    rw [← (buildModules_eq_ok hmodules).length_eq, sourceText_eq hread hdecode]
    cases htext : SourceUnit.ofText p (normalizeNewlines text) o with
    | error failure =>
      rw [htext] at hbytes
      cases hbytes
    | ok unit =>
      rw [htext] at hbytes
      cases hbytes
      exact SourceUnit.length_modules_ofText htext
  · cases hbytes

theorem processed_tally {visit : Path × Workspace} {result : BuildResult}
    (h : (outcome (buildFile visit.1 o) visit.2).1 = .ok result) :
    (tally o visit).processed = 1 + o.declared (sourceText visit.2 visit.1) := by
  rw [tally, h, entered, Summary.processed_record, length_modules_of_buildFile h]
  rfl

theorem sum_one_add {α : Type} (l : List α) (f : α → Nat) :
    (l.map fun a => 1 + f a).sum = l.length + (l.map f).sum := by
  induction l with
  | nil => rfl
  | cons a l ih =>
    simp only [List.map_cons, List.sum_cons, List.length_cons, ih]
    omega

/-- One for each visit, and one for each module directive that it finds. -/
theorem processed_visits
    (hbuilt : ∀ visit ∈ visits console o paths w, ∃ result,
      (outcome (buildFile visit.1 o) visit.2).1 = .ok result) :
    (Summary.sum ((visits console o paths w).map (tally o))).processed = paths.length +
      ((visits console o paths w).map fun visit =>
        o.declared (sourceText visit.2 visit.1)).sum := by
  have htallies : ((visits console o paths w).map (tally o)).map (·.processed) =
      (visits console o paths w).map fun visit => 1 + o.declared (sourceText visit.2 visit.1) := by
    rw [List.map_map]
    refine List.map_congr_left fun visit hvisit => ?_
    obtain ⟨result, hresult⟩ := hbuilt visit hvisit
    exact processed_tally hresult
  have hlength : (visits console o paths w).length = paths.length := by
    rw [← List.length_map (·.1), map_fst_visits]
  rw [Summary.processed_sum, htallies, sum_one_add, hlength]

theorem total_tally (o : SourceUnit.Options) (visit : Path × Workspace) :
    (tally o visit).total = 0 := by
  unfold tally entered
  split
  · exact Summary.total_record {} _
  · rfl

theorem total_visits :
    (Summary.sum ((visits console o paths w).map (tally o))).total = 0 := by
  refine Summary.total_sum fun t ht => ?_
  obtain ⟨visit, -, rfl⟩ := List.mem_map.1 ht
  exact total_tally o visit

/-- Where no output leads to a source of the batch, each source has at its turn the directives that
it had before the run. -/
theorem declared_visits
    (hfree : ∀ p ∈ paths, ∀ loc ∈ declaredPlaces o w p, ∀ q ∈ paths, loc ≠ place w.cwd q)
    (htext : ∀ p ∈ paths, ∃ bytes text, w.files.read w.cwd p = .ok bytes ∧
      Utf8.decode bytes = .ok text)
    (hrun : outcome (buildFiles console o paths {}) w = (.ok s, w')) :
    ((visits console o paths w).map fun visit => o.declared (sourceText visit.2 visit.1)) =
      paths.map fun p => o.declared (sourceText w p) := by
  have hkept : ∀ visit ∈ visits console o paths w,
      sourceText visit.2 visit.1 = sourceText w visit.1 := by
    intro visit hvisit
    have hmem : visit.1 ∈ paths := by
      have hfst := List.mem_map_of_mem (f := (·.1)) hvisit
      rwa [map_fst_visits] at hfst
    obtain ⟨bytes, text, hread, hdecode⟩ := htext visit.1 hmem
    rw [sourceText_eq hread hdecode,
      sourceText_eq (read_of_mem_visits hfree hrun hvisit hread) hdecode]
  calc ((visits console o paths w).map fun visit => o.declared (sourceText visit.2 visit.1))
      = (visits console o paths w).map ((fun p => o.declared (sourceText w p)) ∘ (·.1)) :=
        List.map_congr_left fun visit hvisit => by rw [hkept visit hvisit]; rfl
    _ = paths.map fun p => o.declared (sourceText w p) := by
        rw [← List.map_map, map_fst_visits]

/-! What is announced. -/

theorem announcedFrom_eq_ok {count : Path → Except Failure Nat} {k : Path → Nat}
    (h : ∀ p ∈ paths, count p = .ok (k p)) (n : Nat) :
    announcedFrom count n paths = .ok (n + (paths.map k).sum) := by
  induction paths generalizing n with
  | nil => rfl
  | cons p paths ih =>
    obtain ⟨hp, hrest⟩ := List.forall_mem_cons.1 h
    rw [announcedFrom, hp, List.map_cons, List.sum_cons, ← Nat.add_assoc]
    exact ih hrest (n + k p)

theorem announcedIn_eq_ok (r : Request)
    (htext : ∀ p ∈ paths, ∃ bytes text, w.files.read w.cwd p = .ok bytes ∧
      Utf8.decode bytes = .ok text)
    {total : Nat} (h : announcedIn r.options.dialect w paths = .ok total) :
    total = paths.length + (paths.map fun p => r.options.announced (sourceText w p)).sum := by
  have hchoice : r.options.dialect.getD (.named []) = r.options.choice := rfl
  unfold announcedIn at h
  rw [hchoice] at h
  cases hdialects : r.options.choice.candidates .standard with
  | error e =>
    rw [hdialects] at h
    cases h
  | ok dialects =>
    rw [hdialects] at h
    dsimp only at h
    rw [announcedFrom_eq_ok (k := fun p => r.options.announced (sourceText w p))] at h
    · exact (Except.ok.inj h).symm
    · intro p hp
      obtain ⟨bytes, text, hread, hdecode⟩ := htext p hp
      rw [announced, lossyText_of_decode hread hdecode, sourceText_eq hread hdecode]
      unfold SourceUnit.Options.announced SourceUnit.Options.announces Dialect.announcesModule
      rw [hdialects]
      simp only [List.any_map, List.any_filter, Function.comp_def]

/-! The two together. -/

/-- The total of a batch is one for each file and each line that announces a module before the run,
and what is processed is one for each file and each module directive that it has at its turn. Where
no output leads to a source of the batch, the two are the same exactly if as many lines are counted
as are read as module directives, as is so if each line is counted exactly if it is read as one. -/
theorem total_eq_processed_iff {r : Request} (h : outcome (build console r) w = (.ok s, w'))
    (hpaths : (outcome (r.paths console) w).1 = .ok paths)
    (htext : ∀ p ∈ paths, ∃ bytes text, w.files.read w.cwd p = .ok bytes ∧
      Utf8.decode bytes = .ok text)
    (hbuilt : ∀ visit ∈ visits console r.options paths w, ∃ result,
      (outcome (buildFile visit.1 r.options) visit.2).1 = .ok result) :
    s.total = paths.length + (paths.map fun p => r.options.announced (sourceText w p)).sum ∧
      s.processed = paths.length + ((visits console r.options paths w).map fun visit =>
        r.options.declared (sourceText visit.2 visit.1)).sum ∧
      ((∀ p ∈ paths, ∀ loc ∈ declaredPlaces r.options w p, ∀ q ∈ paths, loc ≠ place w.cwd q) →
        (s.total = s.processed ↔
          (paths.map fun p => r.options.announced (sourceText w p)).sum =
            (paths.map fun p => r.options.declared (sourceText w p)).sum) ∧
        ((∀ p ∈ paths, r.options.CountsAsRead (sourceText w p)) → s.total = s.processed)) := by
  obtain ⟨found, total, t, x, hfound, hcount, hrun, rfl⟩ := build_eq_append h
  obtain rfl : found = paths := Except.ok.inj (hfound.symm.trans hpaths)
  have hsum : t = Summary.sum ((visits console r.options found w).map (tally r.options)) := by
    rw [buildFiles_eq_ok hrun, Summary.empty_append]
  have htotal : (Summary.append { total } t).total =
      found.length + (found.map fun p => r.options.announced (sourceText w p)).sum := by
    have hnone : t.total = 0 := by rw [hsum, total_visits]
    have hlines := announcedIn_eq_ok r htext hcount
    simp [Summary.append, hnone, hlines]
  have hprocessed : (Summary.append { total } t).processed = found.length +
      ((visits console r.options found w).map fun visit =>
        r.options.declared (sourceText visit.2 visit.1)).sum := by
    rw [Summary.processed_append, hsum, processed_visits hbuilt]
    exact Nat.zero_add _
  refine ⟨htotal, hprocessed, fun hfree => ?_⟩
  have hiff : (Summary.append { total } t).total = (Summary.append { total } t).processed ↔
      (found.map fun p => r.options.announced (sourceText w p)).sum =
        (found.map fun p => r.options.declared (sourceText w p)).sum := by
    rw [htotal, hprocessed, declared_visits hfree htext hrun]
    omega
  refine ⟨hiff, fun hcounts => hiff.2 (congrArg List.sum ?_)⟩
  exact List.map_congr_left fun p hp => SourceUnit.Options.announced_eq_declared (hcounts p hp)

/-- A source and its module are announced and processed. -/
theorem owned_module_announced :
    ∃ s w', outcome (build Markup.console firstRequest) ownedModule = (.ok s, w') ∧
      s.total = s.processed ∧ s.processed = 2 := by
  have hcount : announcedIn firstRequest.options.dialect ownedModule firstRequest.files =
      .ok 2 := by decide
  obtain ⟨v, hbuilt, -⟩ := ownedBuilt
  have hdecode : Utf8.decode (Utf8.encode owningText) = .ok owningText := by decide
  have hcounts : firstRequest.options.CountsAsRead (sourceText ownedModule firstSource) := by
    decide
  obtain ⟨w', hbuild⟩ := exists_outcome (build_eq_ok Markup.isLawful_console firstRequest
    (List.cons_ne_nil _ _) hcount (buildFiles_of_built hbuilt {})
    (showsProgress_of_not_mem (by decide)) fun _ h => by cases h)
  have hfirst : outcome (build Markup.console firstRequest) ownedModule = (_, w') := hbuild
  have htext : ∀ p ∈ [firstSource], ∃ bytes text, ownedModule.files.read ownedModule.cwd p =
      .ok bytes ∧ Utf8.decode bytes = .ok text :=
    List.forall_mem_singleton.2 ⟨_, _, rfl, hdecode⟩
  have hvisits : ∀ visit ∈ visits Markup.console firstRequest.options [firstSource] ownedModule,
      ∃ result, (outcome (buildFile visit.1 firstRequest.options) visit.2).1 = .ok result :=
    List.forall_mem_singleton.2 ⟨_, congrArg Prod.fst hbuilt⟩
  have hfree : ∀ p ∈ [firstSource], ∀ loc ∈ declaredPlaces firstRequest.options ownedModule p,
      ∀ q ∈ [firstSource], loc ≠ place ownedModule.cwd q := by
    simp only [List.mem_singleton, forall_eq, ownedModule_declares]
    decide
  obtain ⟨-, -, hequal⟩ := total_eq_processed_iff hfirst rfl htext hvisits
  exact ⟨_, w', hfirst, (hequal hfree).2 (List.forall_mem_singleton.2 hcounts), rfl⟩

def wideText : Text :=
  Text.cat ["/// @custom:interface build ./IA.sol\n",
    "/// @custom:interface  module \"./M.sol\" to \"./IM.sol\"\n", "contract A \x7b\n\x7d\n"]

def wideModule : Workspace where
  files := ⟨[([], .directory 0), (["p".toList], .directory 0),
    (["p".toList, "A.sol".toList], .file (Utf8.encode wideText) 0),
    (["p".toList, "M.sol".toList], .file (Utf8.encode ownedText) 0)]⟩
  cwd := ⟨.root, ["p".toList]⟩
  now := 1

/-- The module is read and processed, and was not announced. -/
theorem wide_module_unannounced :
    ∃ s w', outcome (build Markup.console firstRequest) wideModule = (.ok s, w') ∧
      s.results = [bothWritten] ∧ s.failed = 0 ∧ s.total = 1 ∧ s.processed = 2 := by
  have hcount : announcedIn firstRequest.options.dialect wideModule firstRequest.files = .ok 1 := by
    decide
  have hbuilt : (outcome (buildFile firstSource firstRequest.options) wideModule).1 =
      .ok bothWritten := by decide +kernel
  obtain ⟨v, hbuilt⟩ := exists_outcome hbuilt
  obtain ⟨w', hbuild⟩ := exists_outcome (build_eq_ok Markup.isLawful_console firstRequest
    (List.cons_ne_nil _ _) hcount (buildFiles_of_built hbuilt {})
    (showsProgress_of_not_mem (by decide)) fun _ h => by cases h)
  exact ⟨_, w', hbuild, rfl, rfl, rfl, rfl⟩

end Batch
end SolInterface
