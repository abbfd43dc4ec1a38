import SolInterface.Interface.Assemble
import SolInterface.Proofs.DocSearch

/-!
The search for documentation as a machine that reads lines: in which mode it goes on after a line,
and which lines it keeps. A line is found exactly if the search comes to it and keeps it in the mode
it has then. Main statement: a line that starts with code is found exactly if the search comes to it
and a comment ends on it.
-/
namespace SolInterface

namespace Text

theorem trim_trim (t : Text) : trim (trim t) = trim t := by
  have hskip : trim (skipBlanks t) = trim t := trim_of_stops (stops_dropWhile isBlank t)
  exact (trim_trimRight (skipBlanks t)).trans hskip

/-- Joined trimmed lines, of which the last one is not empty, are trimmed by leaving out the empty
lines at the top. -/
theorem trim_unlines_trimmed {ls : List Text} (htrim : ∀ line ∈ ls, trim line = line)
    (hlast : ∀ line ∈ ls.getLast?, line ≠ []) :
    trim (unlines ls) = unlines (ls.dropWhile List.isEmpty) := by
  have hsplit : ls.takeWhile List.isEmpty ++ ls.dropWhile List.isEmpty = ls :=
    List.takeWhile_append_dropWhile
  have hempty : ∀ line ∈ ls.takeWhile List.isEmpty, line = [] := fun line hline =>
    List.isEmpty_iff.1 (List.mem_takeWhile_imp hline)
  conv_lhs => rw [← hsplit]
  rw [trim_unlines_append hempty, trim_unlines]
  · intro line hline
    have hmem : line ∈ ls := List.dropWhile_subset _ (List.mem_of_mem_head? hline)
    have hne : line.isEmpty = false := by
      rw [Option.mem_def] at hline
      simpa [hline] using List.head?_dropWhile_not List.isEmpty ls
    exact ⟨by simpa using hne, (trim_eq_self_iff.1 (htrim line hmem)).1⟩
  · intro line hline
    have hls : line ∈ ls.getLast? := by
      rw [Option.mem_def] at hline ⊢
      rw [← hsplit, List.getLast?_append, hline, Option.some_or]
    have hmem := htrim line (List.mem_of_getLast? hls)
    rw [← hmem]
    exact endsSolid_trim (hmem.symm ▸ hlast line hls)

end Text

namespace Doc
open Text

/-! The search as a machine. -/

/-- The mode in which the search goes on above a trimmed line; `none` if it ends there. -/
def goesOn? (markers : List Text) (inBlock : Bool) (line : Text) : Option Bool :=
  if isMarked markers line then some inBlock
  else if occursIn "*/" line then some true
  else if inBlock then
    if startsWith "*" line || line.isEmpty then some true else none
  else if startsWith "/// " line || line.isEmpty ||
      (startsWith "//" line && !startsWith "///" line) then some false
  else none

def keeps (markers : List Text) (inBlock : Bool) (line : Text) : Bool :=
  !isMarked markers line && (occursIn "*/" line ||
    if inBlock then startsWith "/**" line || startsWith "*" line || line.isEmpty
    else startsWith "/// " line)

theorem collect_cons (markers : List Text) (inBlock : Bool) (raw : Text) (above : List Text) :
    collect markers inBlock (raw :: above) =
      (if keeps markers inBlock (trim raw) then [trim raw] else []) ++
        (goesOn? markers inBlock (trim raw)).elim [] fun mode => collect markers mode above := by
  have hopen : startsWith "/**" (trim raw) = true →
      (startsWith "*" (trim raw) || (trim raw).isEmpty) = false := by
    intro h
    obtain ⟨rest, hrest⟩ := startsWith_iff.1 h
    rw [← hrest]
    rfl
  rw [collect, keeps, goesOn?]
  cases isMarked markers (trim raw) with
  | true => rfl
  | false =>
    cases occursIn "*/" (trim raw) with
    | true => rfl
    | false =>
      cases inBlock with
      | true =>
        cases hstart : startsWith "/**" (trim raw) with
        | true =>
          rw [hopen hstart]
          rfl
        | false => cases startsWith "*" (trim raw) <;> cases (trim raw).isEmpty <;> rfl
      | false =>
        cases startsWith "/// " (trim raw) with
        | true => rfl
        | false =>
          cases (trim raw).isEmpty <;> cases startsWith "//" (trim raw) <;>
            cases startsWith "///" (trim raw) <;> rfl

/-- The search goes on above a blank line as it came to it. -/
theorem collect_cons_blank {raw : Text} (hblank : trim raw = []) (markers : List Text)
    (inBlock : Bool) (above : List Text) :
    collect markers inBlock (raw :: above) =
      (if keeps markers inBlock [] then [[]] else []) ++ collect markers inBlock above := by
  have hmode : goesOn? markers inBlock [] = some inBlock := by
    rw [goesOn?]
    cases isMarked markers [] <;> cases inBlock <;> rfl
  rw [collect_cons, hblank, hmode, Option.elim_some]

def modeAfter? (markers : List Text) (inBlock : Bool) (below : List Text) : Option Bool :=
  below.foldlM (fun mode raw => goesOn? markers mode (trim raw)) inBlock

theorem collect_append (markers : List Text) (inBlock : Bool) (below above : List Text) :
    collect markers inBlock (below ++ above) = collect markers inBlock below ++
      (modeAfter? markers inBlock below).elim [] fun mode => collect markers mode above := by
  induction below generalizing inBlock with
  | nil => rfl
  | cons raw below ih =>
    rw [List.cons_append, collect_cons, collect_cons, modeAfter?, List.foldlM_cons,
      List.append_assoc]
    congr 1
    cases goesOn? markers inBlock (trim raw) with
    | none => rfl
    | some mode => exact ih mode

theorem mem_collect_iff {markers : List Text} {inBlock : Bool} {ls : List Text} {line : Text} :
    line ∈ collect markers inBlock ls ↔ ∃ below raw above mode, ls = below ++ raw :: above ∧
      modeAfter? markers inBlock below = some mode ∧ keeps markers mode (trim raw) = true ∧
      trim raw = line := by
  constructor
  · intro h
    induction ls generalizing inBlock with
    | nil => simp [collect] at h
    | cons raw above ih =>
      rw [collect_cons, List.mem_append] at h
      rcases h with h | h
      · by_cases hkeeps : keeps markers inBlock (trim raw) = true
        · rw [if_pos hkeeps, List.mem_singleton] at h
          exact ⟨[], raw, above, inBlock, rfl, rfl, hkeeps, h.symm⟩
        · simp [hkeeps] at h
      · cases hmode : goesOn? markers inBlock (trim raw) with
        | none => simp [hmode] at h
        | some mode =>
          rw [hmode] at h
          obtain ⟨below, found, rest, last, rfl, hlast, hkeeps, hline⟩ := ih h
          refine ⟨raw :: below, found, rest, last, rfl, ?_, hkeeps, hline⟩
          rw [modeAfter?, List.foldlM_cons, hmode]
          exact hlast
  · rintro ⟨below, raw, above, mode, rfl, hmode, hkeeps, rfl⟩
    rw [collect_append, hmode, List.mem_append]
    refine .inr ?_
    rw [Option.elim_some, collect_cons, if_pos hkeeps]
    exact List.mem_append_left _ List.mem_cons_self

/-! The documentation of a declaration as lines. -/

/-- The lines that are found for the declaration on the line of that number, in their order. -/
def captured (lines markers : List Text) (n : Nat) : List Text :=
  (collect markers false (lines.take (n - 1)).reverse).reverse

theorem captured_split (markers before after : List Text) (decl : Text) :
    captured (before ++ decl :: after) markers (before.length + 1) =
      (collect markers false before.reverse).reverse := by
  rw [captured, Nat.add_sub_cancel, List.take_left]

/-- Outside of a block, only a line on which a comment ends takes the search into one. -/
theorem mode_of_goesOn? {markers : List Text} {line : Text} {mode : Bool}
    (h : goesOn? markers false line = some mode) :
    mode = (!isMarked markers line && occursIn "*/" line) := by
  rw [goesOn?] at h
  split at h
  · next hmarked =>
    rw [hmarked]
    exact (Option.some.inj h).symm
  · next hmarked =>
    rw [Bool.eq_false_iff.2 hmarked]
    split at h
    · next hclose =>
      rw [hclose]
      exact (Option.some.inj h).symm
    · next hclose =>
      rw [Bool.eq_false_iff.2 hclose]
      rw [if_neg Bool.false_ne_true] at h
      split at h
      · exact (Option.some.inj h).symm
      · exact absurd h.symm (Option.some_ne_none mode)

/-- The line nearest to the declaration is not empty. -/
theorem ne_nil_of_mem_head?_collect {markers ls : List Text} :
    ∀ line ∈ (collect markers false ls).head?, line ≠ [] := by
  induction ls with
  | nil => simp [collect]
  | cons raw above ih =>
    rw [collect_cons]
    cases hkeeps : keeps markers false (trim raw) with
    | true =>
      rintro line ⟨⟩ hempty
      rw [hempty, keeps] at hkeeps
      exact absurd (Bool.and_eq_true_iff.1 hkeeps).2 (by decide)
    | false =>
      cases hmode : goesOn? markers false (trim raw) with
      | none => simp
      | some mode =>
        -- a line that is not kept ends no comment, unless it is a directive
        have hclose : (!isMarked markers (trim raw) && occursIn "*/" (trim raw)) = false := by
          rw [keeps] at hkeeps
          cases hmarked : isMarked markers (trim raw) with
          | true => rfl
          | false =>
            rw [hmarked] at hkeeps
            exact (Bool.or_eq_false_iff.1 hkeeps).1
        obtain rfl : mode = false := (mode_of_goesOn? hmode).trans hclose
        exact ih

theorem above?_eq_captured {lines markers : List Text} {n : Nat} (hn : n ≤ lines.length + 1) :
    above? lines markers n =
      some (unlines ((captured lines markers n).dropWhile List.isEmpty)) := by
  rw [above?, if_pos hn, above, captured, trim_unlines_trimmed]
  · intro line hline
    obtain ⟨_, raw, _, _, -, -, -, rfl⟩ := mem_collect_iff.1 (List.mem_reverse.1 hline)
    exact trim_trim raw
  · intro line hline
    rw [List.getLast?_reverse] at hline
    exact ne_nil_of_mem_head?_collect line hline

theorem filter_dropWhile_isEmpty (ls : List Text) :
    (ls.dropWhile List.isEmpty).filter (fun line => !line.isEmpty) =
      ls.filter fun line => !line.isEmpty := by
  have htop : (ls.takeWhile List.isEmpty).filter (fun line => !line.isEmpty) = [] :=
    List.filter_eq_nil_iff.2 fun line hline => by simpa using List.mem_takeWhile_imp hline
  conv_rhs => rw [← List.takeWhile_append_dropWhile (p := List.isEmpty) (l := ls)]
  rw [List.filter_append, htop, List.nil_append]

/-- The search for the documentation of a line comes, in this mode, to a line that is no directive
and reads so when it is trimmed. -/
def ComesTo (lines markers : List Text) (n : Nat) (inBlock : Bool) (line : Text) : Prop :=
  ∃ pre raw mid, lines.take (n - 1) = pre ++ raw :: mid ∧
    modeAfter? markers false mid.reverse = some inBlock ∧ trim raw = line ∧
    isMarked markers line = false

theorem ComesTo.unmarked {lines markers : List Text} {n : Nat} {inBlock : Bool} {line : Text}
    (h : ComesTo lines markers n inBlock line) : isMarked markers line = false := by
  obtain ⟨_, _, _, -, -, -, hunmarked⟩ := h
  exact hunmarked

theorem mem_captured_iff {lines markers : List Text} {n : Nat} {line : Text} :
    line ∈ captured lines markers n ↔
      ∃ inBlock, ComesTo lines markers n inBlock line ∧ keeps markers inBlock line = true := by
  rw [captured, List.mem_reverse, mem_collect_iff]
  constructor
  · rintro ⟨below, raw, above, mode, hsplit, hmode, hkeeps, rfl⟩
    have hunmarked : isMarked markers (trim raw) = false := by
      simpa using (Bool.and_eq_true_iff.1 hkeeps).1
    refine ⟨mode, ⟨above.reverse, raw, below.reverse, ?_, ?_, rfl, hunmarked⟩, hkeeps⟩
    · simpa using congrArg List.reverse hsplit
    · rwa [List.reverse_reverse]
  · rintro ⟨mode, ⟨pre, raw, mid, hsplit, hmode, rfl, -⟩, hkeeps⟩
    refine ⟨mid.reverse, raw, pre.reverse, mode, ?_, hmode, hkeeps, rfl⟩
    rw [hsplit]
    simp

/-! Code among the documentation. -/

/-- A line that is comment from its first character on, to a search in this mode. -/
def isCommentText (inBlock : Bool) (line : Text) : Bool :=
  if inBlock then startsWith "*" line else startsWith "/// " line

/-- A line whose first character belongs to no comment. -/
structure StartsCode (line : Text) : Prop where
  ne_nil : line ≠ []
  noLineComment : startsWith "//" line = false
  noOpener : startsWith "/*" line = false
  noContinuation : startsWith "*" line = false

section Keeps
variable {markers : List Text} {inBlock : Bool} {line : Text}

theorem keeps_of_noOpener (hne : line ≠ []) (hopen : startsWith "/*" line = false)
    (hunmarked : isMarked markers line = false) :
    keeps markers inBlock line = (occursIn "*/" line || isCommentText inBlock line) := by
  have hblock : startsWith "/**" line = false := startsWith_eq_false_of_isPrefix (by decide) hopen
  have hfull : line.isEmpty = false := by simpa using hne
  rw [keeps, hunmarked, hblock, hfull, Bool.false_or, Bool.or_false]
  rfl

theorem StartsCode.isCommentText_eq (h : StartsCode line) : isCommentText inBlock line = false := by
  cases inBlock with
  | true => exact h.noContinuation
  | false => exact startsWith_eq_false_of_isPrefix (by decide) h.noLineComment

theorem StartsCode.keeps_eq (h : StartsCode line) (hunmarked : isMarked markers line = false) :
    keeps markers inBlock line = occursIn "*/" line := by
  rw [keeps_of_noOpener h.ne_nil h.noOpener hunmarked, h.isCommentText_eq, Bool.or_false]

end Keeps

/-- Each `/*` that is found starts its line, unless the search comes to a line with a `/*` further
on that is comment from the start or on which a comment ends. Of code, exactly the lines on which a
comment ends are found, if the search comes to them. -/
theorem openers_lead_iff {lines markers : List Text} {n : Nat} (hn : n ≤ lines.length + 1) :
    above? lines markers n =
        some (unlines ((captured lines markers n).dropWhile List.isEmpty)) ∧
      ((∀ line ∈ captured lines markers n,
          occursIn "/*" line = true → startsWith "/*" line = true) ↔
        ∀ inBlock line, ComesTo lines markers n inBlock line → occursIn "/*" line = true →
          startsWith "/*" line = false →
          occursIn "*/" line = false ∧ isCommentText inBlock line = false) ∧
      ∀ line, StartsCode line → (line ∈ captured lines markers n ↔
        occursIn "*/" line = true ∧ ∃ inBlock, ComesTo lines markers n inBlock line) := by
  have hfull : ∀ {line : Text}, occursIn "/*" line = true → line ≠ [] := by
    rintro line h rfl
    exact absurd h (by decide)
  refine ⟨above?_eq_captured hn, ⟨fun hlaw inBlock line hcome hopen hlate => ?_, ?_⟩, ?_⟩
  · have hunkept : keeps markers inBlock line = false := by
      refine Bool.eq_false_iff.2 fun hkeeps => ?_
      have hlead := hlaw line (mem_captured_iff.2 ⟨inBlock, hcome, hkeeps⟩) hopen
      exact absurd (hlead.symm.trans hlate) (by decide)
    rw [keeps_of_noOpener (hfull hopen) hlate hcome.unmarked] at hunkept
    exact Bool.or_eq_false_iff.1 hunkept
  · intro hcomes line hline hopen
    obtain ⟨inBlock, hcome, hkeeps⟩ := mem_captured_iff.1 hline
    by_contra hlate
    rw [Bool.not_eq_true] at hlate
    obtain ⟨hclose, htext⟩ := hcomes inBlock line hcome hopen hlate
    rw [keeps_of_noOpener (hfull hopen) hlate hcome.unmarked, hclose, htext] at hkeeps
    exact absurd hkeeps (by decide)
  · intro line hcode
    rw [mem_captured_iff]
    constructor
    · rintro ⟨inBlock, hcome, hkeeps⟩
      exact ⟨(hcode.keeps_eq hcome.unmarked).symm.trans hkeeps, inBlock, hcome⟩
    · rintro ⟨hclose, inBlock, hcome⟩
      exact ⟨inBlock, hcome, (hcode.keeps_eq hcome.unmarked).trans hclose⟩

/-- Of two statements, the one with a comment behind it is found, and the other one is not. -/
theorem openers_lead_iff_statements :
    let lines : List Text :=
      ["uint256 x;", "uint256 y; /* note */", "", "function f() external \x7b"]
    4 ≤ lines.length + 1 ∧ "uint256 y; /* note */".toList ∈ captured lines [] 4 ∧
      "uint256 x;".toList ∉ captured lines [] 4 := by
  intro lines
  obtain ⟨-, -, hcode⟩ := @openers_lead_iff lines [] 4 (by decide)
  have hx : StartsCode "uint256 x;" := ⟨by decide, by decide, by decide, by decide⟩
  have hy : StartsCode "uint256 y; /* note */" := ⟨by decide, by decide, by decide, by decide⟩
  have hcome : ComesTo lines [] 4 false "uint256 y; /* note */" :=
    ⟨["uint256 x;".toList], _, [[]], rfl, rfl, rfl, rfl⟩
  refine ⟨by decide, (hcode _ hy).2 ⟨by decide, false, hcome⟩, fun hmem => ?_⟩
  exact absurd ((hcode _ hx).1 hmem).1 (by decide)

/-- A statement with a comment behind it is taken for documentation, and is written into the
interface as such. -/
theorem statement_captured :
    let lines : List Text := ["uint256 x; /* note */", "function f() external \x7b"]
    let markers : List Text := ["/// @custom:interface"]
    ¬ (∀ line ∈ captured lines markers 2, occursIn "/*" line = true → startsWith "/*" line = true) ∧
      above? lines markers 2 = some "uint256 x; /* note */".toList ∧
      Interface.docLines "uint256 x; /* note */" = "    uint256 x; /* note */\n".toList := by
  decide

end Doc
end SolInterface
