import Mathlib.Data.List.GetD
import SolInterface.Directive.Dialect
import SolInterface.Proofs.FunctionLines
import SolInterface.Proofs.ReaderLocality

/-!
Comment lines and what is declared. The head of the contract, the events, the errors and the
variables are looked for in comments as well, and the head of a function takes in the comments
inside it. A comment that no such find touches can be emptied without changing what is declared.
-/
namespace SolInterface

/-! What is declared, without the documentation. A contract is also left without the line above
which its documentation was looked for, and a function without the text in which its head was
found. -/

def Contract.bare (c : Contract) : Contract := { c with doc := [], line := 0 }

def Function.bare (f : Function) : Function := { f with signature := [], doc := [] }

def Notice.bare (n : Notice) : Notice := { n with doc := [] }

def Variable.bare (v : Variable) : Variable := { v with doc := [] }

namespace Source
open Text

def outline (s : Source) : Source where
  contract := s.contract.bare
  functions := s.functions.map Function.bare
  events := s.events.map Notice.bare
  errors := s.errors.map Notice.bare
  stateVariables := s.stateVariables.map Variable.bare
  skipped := s.skipped

/-- The text with a bare comment in place of its line of index `i`. -/
def bareComment (content : Text) (i : Nat) : Text := unlines ((lines content).set i "//")

/-- No find that is kept touches the line of number `k`, and no other find goes over its edges. -/
def Skips {α : Type} (read : Bool → Text → Option (α × Text)) (kept : Occurrence α → Bool)
    (content : Text) (k : Nat) : Prop :=
  ∀ o ∈ occurrences read content, o.line ≤ k → k ≤ o.last → o.last = o.line ∧ kept o = false

def keepsVariable (content : Text) (found : Occurrence Variable.Parts) : Bool :=
  Variable.standsAlone found.value.type ((lines content).getD (found.line - 1) [])

/-- What the declaration that starts on line `j` takes in above line `i`. -/
def takenAbove (ls : List Text) (j i : Nat) : Text :=
  Function.declarationText 0 false ((ls.drop j).take (i - j))

/-- What the declaration that starts on line `j` takes in below line `i`. -/
def takenBelow (ls : List Text) (j i : Nat) : Text :=
  (Function.declarationText 0 false (ls.drop j)).drop (takenAbove ls j (i + 1)).length

/-- The head that is found in that declaration does not touch line `i`. -/
def HeadAvoids (ls : List Text) (j i : Nat) : Prop :=
  ∀ f ∈ firstFinding? Function.Head.find? 0 (Function.declarationText 0 false (ls.drop j)),
    f.Avoids (takenAbove ls j i).length (takenAbove ls j (i + 1)).length

def lineStart (ls : List Text) (i : Nat) : Nat := ((ls.take i).flatMap (· ++ ['\n'])).length

/-- No find of a declaration touches the line of index `i`. -/
structure ClearOf (content : Text) (i : Nat) : Prop where
  contract : ∀ f ∈ firstFinding? Contract.headFind? 0 content,
    f.Avoids (lineStart (lines content) i)
      (lineStart (lines content) i + ((lines content).getD i []).length)
  functions : ∀ j < i, startsFunction ((lines content).getD j []) = true →
    HeadAvoids (lines content) j i
  events : Skips (Notice.read? "event") (fun _ => true) content (i + 1)
  errors : Skips (Notice.read? "error") (fun _ => true) content (i + 1)
  stateVariables : Skips Variable.Parts.read? (keepsVariable content) content (i + 1)

instance {α : Type} (read : Bool → Text → Option (α × Text)) (kept : Occurrence α → Bool)
    (content : Text) (k : Nat) : Decidable (Skips read kept content k) :=
  inferInstanceAs (Decidable (∀ o ∈ occurrences read content, _))

instance (ls : List Text) (j i : Nat) : Decidable (HeadAvoids ls j i) :=
  inferInstanceAs (Decidable (∀ f ∈ firstFinding? _ _ _, _))

instance (content : Text) (i : Nat) : Decidable (ClearOf content i) :=
  decidable_of_iff (_ ∧ _ ∧ _ ∧ _ ∧ _)
    ⟨fun ⟨contract, functions, events, errors, stateVariables⟩ =>
      ⟨contract, functions, events, errors, stateVariables⟩,
    fun h => ⟨h.contract, h.functions, h.events, h.errors, h.stateVariables⟩⟩

theorem filter_of_skips {α : Type} {read : Bool → Text → Option (α × Text)}
    {kept : Occurrence α → Bool} {content : Text} {k : Nat} (h : Skips read kept content k) :
    (occurrences read content).filter kept =
      ((occurrences read content).filter fun o => o.line ≠ k).filter kept := by
  rw [List.filter_filter]
  refine List.filter_congr fun o ho => ?_
  by_cases hline : o.line = k
  · have hnot := (h o ho (Nat.le_of_eq hline) (by rw [Occurrence.last]; omega)).2
    simp [hnot]
  · simp [hline]

/-! Two texts that differ in one line. -/

theorem declarationText_append (depth : Int) (opened : Bool) (ls more : List Text) :
    ∃ rest, Function.declarationText depth opened (ls ++ more) =
      Function.declarationText depth opened ls ++ rest := by
  induction ls generalizing depth opened with
  | nil => exact ⟨_, rfl⟩
  | cons raw ls ih =>
    simp only [List.cons_append, Function.declarationText, List.append_assoc, List.cons.injEq,
      true_and, List.append_cancel_left_eq]
    split_ifs with hopens hstop hstop
    · exact ⟨[], rfl⟩
    · exact ih _ _
    · exact ⟨[], rfl⟩
    · exact ih _ _

/-- A declaration that starts on line `j` is cut into what stands above the line of index
`above.length`, what stands on it, and the rest. -/
theorem declarationText_cut {above : List Text} {j : Nat} (hj : j < above.length) (line : Text)
    (below : List Text) :
    ∃ own, takenAbove (above ++ line :: below) j above.length =
        Function.declarationText 0 false (above.drop j) ∧
      takenAbove (above ++ line :: below) j (above.length + 1) =
        Function.declarationText 0 false (above.drop j) ++ own ∧
      Function.declarationText 0 false ((above ++ line :: below).drop j) =
        Function.declarationText 0 false (above.drop j) ++
          (own ++ takenBelow (above ++ line :: below) j above.length) := by
  have hdrop : (above ++ line :: below).drop j = above.drop j ++ line :: below :=
    List.drop_append_of_le_length (Nat.le_of_lt hj)
  have hlength : (above.drop j).length = above.length - j := List.length_drop
  have habove : takenAbove (above ++ line :: below) j above.length =
      Function.declarationText 0 false (above.drop j) := by
    rw [takenAbove, hdrop, ← hlength, List.take_left]
  have hline : takenAbove (above ++ line :: below) j (above.length + 1) =
      Function.declarationText 0 false (above.drop j ++ [line]) := by
    have hcount : above.length + 1 - j = (above.drop j ++ [line]).length := by
      rw [List.length_append, hlength, List.length_singleton]
      omega
    rw [takenAbove, hdrop, List.append_cons, hcount, List.take_left]
  obtain ⟨own, hown⟩ := declarationText_append 0 false (above.drop j) [line]
  obtain ⟨rest, hrest⟩ := declarationText_append 0 false (above.drop j ++ [line]) below
  have hwhole : Function.declarationText 0 false ((above ++ line :: below).drop j) =
      takenAbove (above ++ line :: below) j (above.length + 1) ++ rest := by
    rw [hdrop, hline, List.append_cons, hrest]
  refine ⟨own, habove, by rw [hline, hown], ?_⟩
  rw [takenBelow, hwhole, List.drop_left, hline, hown, List.append_assoc]

/-- A function's head is the same in both texts. -/
theorem firstMatch_declarationText_replace {above below : List Text} {line line' : Text} {j : Nat}
    (hj : j < above.length) (hclear : HeadAvoids (above ++ line :: below) j above.length)
    (hclear' : HeadAvoids (above ++ line' :: below) j above.length)
    (hbelow : takenBelow (above ++ line :: below) j above.length =
      takenBelow (above ++ line' :: below) j above.length) :
    firstMatch Function.Head.read?
        (Function.declarationText 0 false ((above ++ line :: below).drop j)) =
      firstMatch Function.Head.read?
        (Function.declarationText 0 false ((above ++ line' :: below).drop j)) := by
  obtain ⟨own, habove, hline, hcut⟩ := declarationText_cut hj line below
  obtain ⟨own', habove', hline', hcut'⟩ := declarationText_cut hj line' below
  rw [HeadAvoids, habove, hline, hcut, List.length_append] at hclear
  rw [HeadAvoids, habove', hline', hcut', List.length_append, ← hbelow] at hclear'
  rw [hcut, hcut', ← hbelow]
  exact firstMatch_replace Function.Head.local_find? Function.Head.read?_eq hclear hclear'

theorem function?_bare (doc : Text) (n : Nat) (rest : List Text) :
    (function? doc n rest).map Function.bare =
      (firstMatch Function.Head.read? (Function.declarationText 0 false rest)).map fun head =>
        { name := head.name
          visibility := head.visibility.getD .pub
          mutability := head.mutability.getD .nonpayable
          parameters := head.parameters
          returns := head.returns
          line := n } := by
  dsimp only [function?]
  cases firstMatch Function.Head.read? (Function.declarationText 0 false rest) <;> rfl

/-- Lines at which the same heads are read give the same functions, whatever their documentation. -/
theorem functionsFrom_bare_cons {docAt docAt' : Nat → Text} {n : Nat} {line line' : Text}
    {more more' : List Text} (hstart : startsFunction line = startsFunction line')
    (hhead : startsFunction line = true →
      firstMatch Function.Head.read? (Function.declarationText 0 false (line :: more)) =
        firstMatch Function.Head.read? (Function.declarationText 0 false (line' :: more')))
    (hmore : (functionsFrom docAt (n + 1) more).map (Except.map Function.bare) =
      (functionsFrom docAt' (n + 1) more').map (Except.map Function.bare)) :
    (functionsFrom docAt n (line :: more)).map (Except.map Function.bare) =
      (functionsFrom docAt' n (line' :: more')).map (Except.map Function.bare) := by
  rw [functionsFrom, functionsFrom, ← hstart]
  cases hline : startsFunction line with
  | false => exact hmore
  | true =>
    have hsame : (function? (docAt n) n (line :: more)).map Function.bare =
        (function? (docAt' n) n (line' :: more')).map Function.bare := by
      rw [function?_bare, function?_bare, hhead hline]
    rw [if_pos rfl, if_pos rfl, List.map_cons, List.map_cons, hmore]
    congr 1
    cases hf : function? (docAt n) n (line :: more) <;>
      cases hf' : function? (docAt' n) n (line' :: more') <;> simp_all [Except.map]

theorem functionsFrom_bare (docAt docAt' : Nat → Text) (n : Nat) (ls : List Text) :
    (functionsFrom docAt n ls).map (Except.map Function.bare) =
      (functionsFrom docAt' n ls).map (Except.map Function.bare) := by
  induction ls generalizing n with
  | nil => rfl
  | cons line more ih => exact functionsFrom_bare_cons rfl (fun _ => rfl) (ih (n + 1))

theorem functionsFrom_replace (docAt docAt' : Nat → Text) {above below : List Text}
    {line line' : Text} (hline : startsFunction line = false)
    (hline' : startsFunction line' = false)
    (hheads : ∀ j < above.length, startsFunction ((above ++ line :: below).getD j []) = true →
      firstMatch Function.Head.read?
          (Function.declarationText 0 false ((above ++ line :: below).drop j)) =
        firstMatch Function.Head.read?
          (Function.declarationText 0 false ((above ++ line' :: below).drop j))) (n : Nat) :
    (functionsFrom docAt n (above ++ line :: below)).map (Except.map Function.bare) =
      (functionsFrom docAt' n (above ++ line' :: below)).map (Except.map Function.bare) := by
  induction above generalizing n with
  | nil =>
    refine functionsFrom_bare_cons (hline.trans hline'.symm) (fun h => ?_)
      (functionsFrom_bare docAt docAt' (n + 1) below)
    rw [hline] at h
    cases h
  | cons first above ih =>
    refine functionsFrom_bare_cons rfl (fun h => hheads 0 (by simp) h) (ih (fun j hj => ?_) (n + 1))
    exact hheads (j + 1) (by simpa using hj)

/-! The outline of what is extracted. -/

theorem notices_bare (keyword content : Text) (docAt : Nat → Text) :
    (notices keyword content docAt).map Notice.bare =
      (occurrences (Notice.read? keyword) content).map fun found =>
        { name := found.value.1
          parameters := found.value.2
          signature := found.text
          line := found.line } := by
  rw [notices, List.map_map]
  rfl

theorem variablesOf_bare (content : Text) (docAt : Nat → Text) :
    (variablesOf content docAt).map Variable.bare =
      ((occurrences Variable.Parts.read? content).filter (keepsVariable content)).map fun found =>
        { name := found.value.name
          type := found.value.type
          visibility := found.value.visibility.getD .intern
          isConstant := found.value.isConstant
          signature := found.text
          line := found.line } := by
  rw [variablesOf, List.map_map]
  rfl

theorem outline_extract? (content : Text) (markers : List Text) :
    (extract? content markers).map outline =
      (firstMatch Contract.head? content).map fun found =>
        let docAt := Doc.above (lines content) markers
        let functions := (functionsFrom docAt 1 (lines content)).map (Except.map Function.bare)
        { contract := { name := found.1, inheritance := found.2 }
          functions := functions.filterMap Except.toOption
          events := (notices "event" content docAt).map Notice.bare
          errors := (notices "error" content docAt).map Notice.bare
          stateVariables := (variablesOf content docAt).map Variable.bare
          skipped := functions.filterMap fun
            | .error n => some n
            | .ok _ => none } := by
  unfold extract? contract?
  cases firstMatch Contract.head? content with
  | none => rfl
  | some found =>
    simp only [Option.bind_eq_bind, Option.bind_some, Option.map_some, outline, Contract.bare,
      List.map_filterMap, List.filterMap_map]
    congr 3
    · funext result
      cases result <;> rfl
    · funext result
      cases result <;> rfl

theorem startsFunction_of_comment {line : Text} (h : startsWith "//" (trim line) = true) :
    startsFunction line = false := by
  obtain ⟨rest, hrest⟩ := startsWith_iff.1 h
  rw [startsFunction, ← hrest]
  rfl

theorem lines_replaced {above below : List Text} {line line' : Text}
    (hfeed : ∀ l ∈ above ++ line :: below, '\n' ∉ l) (hfeed' : '\n' ∉ line') :
    lines (unlines (above ++ line' :: below)) = above ++ line' :: below := by
  refine lines_unlines (by simp) fun l hl => ?_
  rcases List.mem_append.1 hl with hl | hl
  · exact hfeed l (by simp [hl])
  · rcases List.mem_cons.1 hl with rfl | hl
    · exact hfeed'
    · exact hfeed l (by simp [hl])

theorem getD_line (above below : List Text) (line : Text) :
    (above ++ line :: below).getD above.length [] = line := by
  rw [List.getD_append_right _ _ _ _ (Nat.le_refl _), Nat.sub_self]
  rfl

theorem getD_other {above : List Text} {n : Nat} (h : n ≠ above.length) (below : List Text)
    (line line' : Text) :
    (above ++ line :: below).getD n [] = (above ++ line' :: below).getD n [] := by
  rcases Nat.lt_or_gt_of_ne h with hlt | hgt
  · rw [List.getD_append _ _ _ _ hlt, List.getD_append _ _ _ _ hlt]
  · rw [List.getD_append_right _ _ _ _ (Nat.le_of_lt hgt),
      List.getD_append_right _ _ _ _ (Nat.le_of_lt hgt)]
    obtain ⟨k, hk⟩ := Nat.exists_eq_succ_of_ne_zero (Nat.sub_ne_zero_of_lt hgt)
    rw [hk]
    rfl

theorem lineStart_append (above below : List Text) :
    lineStart (above ++ below) above.length = (above.flatMap (· ++ ['\n'])).length := by
  rw [lineStart, List.take_left]

section Replace

variable {above below : List Text} {line line' : Text}
  (hfeed : ∀ l ∈ above ++ line :: below, '\n' ∉ l) (hfeed' : '\n' ∉ line')

include hfeed hfeed'

/-- The finds that are kept are the same in both texts. -/
theorem filter_occurrences_replace {α : Type} {read : Bool → Text → Option (α × Text)}
    {kept kept' : Occurrence α → Bool} (hread : ∀ b, Local (read b))
    (hkept : ∀ o : Occurrence α, 1 ≤ o.line → o.line ≠ above.length + 1 → kept o = kept' o)
    (hclear : Skips read kept (unlines (above ++ line :: below)) (above.length + 1))
    (hclear' : Skips read kept' (unlines (above ++ line' :: below)) (above.length + 1)) :
    (occurrences read (unlines (above ++ line :: below))).filter kept =
      (occurrences read (unlines (above ++ line' :: below))).filter kept' := by
  have hnumber : above.length + 1 = 1 + (above.flatMap (· ++ ['\n'])).count '\n' := by
    rw [count_endedLines fun l hl => hfeed l (by simp [hl]), Nat.add_comm]
  rw [filter_of_skips hclear, filter_of_skips hclear']
  rw [unlines_split] at hclear hclear' ⊢
  rw [unlines_split, occurrences, occurrences, filter_occurrencesFrom_replace hread
    (getLast?_endedLines above) (hfeed line (by simp)) hfeed' (head?_startedLines below)
    (Nat.zero_le _) hnumber (fun o ho hle hge => (hclear o ho hle hge).1)
    fun o ho hle hge => (hclear' o ho hle hge).1]
  refine List.filter_congr fun o ho => ?_
  obtain ⟨ho, hne⟩ := List.mem_filter.1 ho
  exact hkept o (line_of_mem_occurrencesFrom ho).1 (by simpa using hne)

theorem head?_replace (hclear : ClearOf (unlines (above ++ line :: below)) above.length)
    (hclear' : ClearOf (unlines (above ++ line' :: below)) above.length) :
    firstMatch Contract.head? (unlines (above ++ line :: below)) =
      firstMatch Contract.head? (unlines (above ++ line' :: below)) := by
  have hfind := hclear.contract
  have hfind' := hclear'.contract
  rw [lines_unlines (by simp) hfeed, lineStart_append, getD_line, unlines_split] at hfind
  rw [lines_replaced hfeed hfeed', lineStart_append, getD_line, unlines_split] at hfind'
  rw [unlines_split, unlines_split]
  exact firstMatch_replace Contract.local_headFind? Contract.head?_eq hfind hfind'

/-- Two texts that differ in one line have the same outline if no declaration touches the line in
either, it starts no function, and the declarations that run over it take in the same below it. -/
theorem outline_extract?_replace
    (hstart : startsFunction line = false) (hstart' : startsFunction line' = false)
    (hclear : ClearOf (unlines (above ++ line :: below)) above.length)
    (hclear' : ClearOf (unlines (above ++ line' :: below)) above.length)
    (hbelow : ∀ j < above.length, startsFunction ((above ++ line :: below).getD j []) = true →
      takenBelow (above ++ line :: below) j above.length =
        takenBelow (above ++ line' :: below) j above.length) (markers : List Text) :
    (extract? (unlines (above ++ line :: below)) markers).map outline =
      (extract? (unlines (above ++ line' :: below)) markers).map outline := by
  have hlines := lines_unlines (by simp) hfeed
  have hlines' := lines_replaced hfeed hfeed'
  have hnotices : ∀ keyword : Text,
      Skips (Notice.read? keyword) (fun _ => true) (unlines (above ++ line :: below))
        (above.length + 1) →
      Skips (Notice.read? keyword) (fun _ => true) (unlines (above ++ line' :: below))
        (above.length + 1) →
      occurrences (Notice.read? keyword) (unlines (above ++ line :: below)) =
        occurrences (Notice.read? keyword) (unlines (above ++ line' :: below)) := by
    intro keyword hskips hskips'
    have hsame := filter_occurrences_replace hfeed hfeed' (Notice.local_read? keyword)
      (fun _ _ _ => rfl) hskips hskips'
    rwa [List.filter_eq_self.2 fun _ _ => rfl, List.filter_eq_self.2 fun _ _ => rfl] at hsame
  have hvariables := filter_occurrences_replace hfeed hfeed' Variable.Parts.local_read?
    (fun o hpos hne => by
      rw [keepsVariable, keepsVariable, hlines, hlines',
        getD_other (by omega : o.line - 1 ≠ above.length) below line line'])
    hclear.stateVariables hclear'.stateVariables
  have hfunctions : ∀ docAt docAt' : Nat → Text,
      (functionsFrom docAt 1 (lines (unlines (above ++ line :: below)))).map
          (Except.map Function.bare) =
        (functionsFrom docAt' 1 (lines (unlines (above ++ line' :: below)))).map
          (Except.map Function.bare) := by
    intro docAt docAt'
    rw [hlines, hlines']
    refine functionsFrom_replace docAt docAt' hstart hstart' (fun j hj hfunction => ?_) 1
    have hfind := hclear.functions j hj
    have hfind' := hclear'.functions j hj
    rw [hlines] at hfind
    rw [hlines', getD_other (Nat.ne_of_lt hj) below line' line] at hfind'
    exact firstMatch_declarationText_replace hj (hfind hfunction) (hfind' hfunction)
      (hbelow j hj hfunction)
  rw [outline_extract?, outline_extract?, head?_replace hfeed hfeed' hclear hclear']
  congr 1
  funext found
  simp only [notices_bare, variablesOf_bare, hnotices _ hclear.events hclear'.events,
    hnotices _ hclear.errors hclear'.errors, hvariables,
    hfunctions _ (Doc.above (lines (unlines (above ++ line' :: below))) markers)]

end Replace

/-- A comment line that no declaration touches, before and after it is emptied, can be emptied: what
is declared stays the same, provided that a declaration that runs over the comment goes on to the
same lines below it. -/
theorem outline_bareComment {content line : Text} {i : Nat} (markers : List Text)
    (hline : (lines content)[i]? = some line) (hcomment : startsWith "//" (trim line) = true)
    (hclear : ClearOf content i) (hbare : ClearOf (bareComment content i) i)
    (hbelow : ∀ j < i, startsFunction ((lines content).getD j []) = true →
      takenBelow (lines content) j i = takenBelow (lines (bareComment content i)) j i) :
    (extract? (bareComment content i) markers).map outline =
      (extract? content markers).map outline := by
  obtain ⟨above, below, hlines, rfl⟩ : ∃ above below,
      lines content = above ++ line :: below ∧ above.length = i := by
    obtain ⟨hi, rfl⟩ := List.getElem?_eq_some_iff.1 hline
    refine ⟨(lines content).take i, (lines content).drop (i + 1), ?_,
      List.length_take_of_le (Nat.le_of_lt hi)⟩
    rw [← List.drop_eq_getElem_cons hi, List.take_append_drop]
  have hcontent : content = unlines (above ++ line :: below) := by rw [← hlines, unlines_lines]
  have hset : bareComment content above.length = unlines (above ++ "//".toList :: below) := by
    rw [bareComment, hlines, List.set_append_right _ _ (Nat.le_refl _), Nat.sub_self]
    rfl
  have hfeed : ∀ l ∈ above ++ line :: below, '\n' ∉ l := fun l hl =>
    notMem_of_mem_lines (hlines ▸ hl)
  have hbareFeed : '\n' ∉ "//".toList := by decide
  rw [hset] at hbare hbelow ⊢
  rw [hlines, lines_replaced hfeed hbareFeed] at hbelow
  rw [hcontent] at hclear ⊢
  exact (outline_extract?_replace hfeed hbareFeed (startsFunction_of_comment hcomment) (by decide)
    hclear hbare hbelow markers).symm

/-- A bodiless function, whose declaration runs over a comment in which a variable is found that is
not kept. -/
def quotedSource : Text :=
  unlines ["contract Vault is Base \x7b", "  uint256 public total;", "  event Paid(address to);",
    "  function quote() external virtual;", "  // uint256 fee = rate(total);",
    "  function pay(address to) external \x7b", "  \x7d", "\x7d"]

theorem outline_bareComment_quoted :
    ClearOf quotedSource 4 ∧ ClearOf (bareComment quotedSource 4) 4 ∧
      takenBelow (lines quotedSource) 3 4 = " function pay(address to) external \x7b".toList ∧
      (extract? quotedSource []).map (·.functions.map (·.name)) =
        some ["pay".toList, "pay".toList] ∧
      (extract? (bareComment quotedSource 4) []).map outline =
        (extract? quotedSource []).map outline := by
  have hsource : (lines quotedSource)[4]? = some "  // uint256 fee = rate(total);".toList ∧
      ClearOf quotedSource 4 ∧ ClearOf (bareComment quotedSource 4) 4 ∧
      (∀ j < 4, startsFunction ((lines quotedSource).getD j []) = true →
        takenBelow (lines quotedSource) j 4 = takenBelow (lines (bareComment quotedSource 4)) j 4) ∧
      takenBelow (lines quotedSource) 3 4 = " function pay(address to) external \x7b".toList ∧
      (extract? quotedSource []).map (·.functions.map (·.name)) =
        some ["pay".toList, "pay".toList] := by
    decide +kernel
  obtain ⟨hline, hclear, hbare, hbelow, htaken, hnames⟩ := hsource
  exact ⟨hclear, hbare, htaken, hnames,
    outline_bareComment [] hline (by decide) hclear hbare hbelow⟩

def twiceHeadedSource : Text := "// contract B \x7b\ncontract A \x7b\n\x7d\n"

/-- Sources with the index of a comment that matters: it holds the head of a contract, it holds an
event, it stands in the head of a function, or its brace ends the declaration of a bodiless one. -/
def touchedSources : List (Text × Nat) :=
  [(twiceHeadedSource, 0),
    ("contract A \x7b\n// event E();\n\x7d\n", 1),
    ("contract A \x7b\nfunction f(\n// a\n) external \x7b\n\x7d\n\x7d\n", 2),
    ("contract A \x7b\nfunction f();\n// \x7b\nfunction g() \x7b\n\x7d\n\x7d\n", 2)]

/-- The head in the comment is taken, so emptying the comment changes the contract's name; and each
of the conditions on a comment is needed. -/
theorem commented_head_extracted :
    let markers := [Dialect.custom.marker, Dialect.legacy.marker]
    (extract? twiceHeadedSource markers).map (·.contract.name) = some "B".toList ∧
      (extract? (bareComment twiceHeadedSource 0) markers).map (·.contract.name) =
        some "A".toList ∧
      ∀ source ∈ touchedSources,
        startsWith "//" (trim ((lines source.1).getD source.2 [])) = true ∧
        Doc.isMarked markers (trim ((lines source.1).getD source.2 [])) = false ∧
        (extract? (bareComment source.1 source.2) markers).map outline ≠
          (extract? source.1 markers).map outline := by
  decide

end Source
end SolInterface
