import SolInterface.Proofs.FunctionHead
import SolInterface.Source.Extract

/-!
Which line a function's record stands for. A record is made for each line on which a function
starts and from the first head in the text that is joined from that line on. It is the head of that
line itself exactly if this text starts with a head.
-/
namespace SolInterface.Source
open Text

/-! The scan over the lines. -/

theorem function?_line {doc : Text} {n : Nat} {rest : List Text} {f : Function}
    (h : function? doc n rest = some f) : f.line = n := by
  simp only [function?, Option.bind_eq_bind, Option.bind_eq_some_iff] at h
  obtain ⟨head, -, hf⟩ := h
  cases hf
  rfl

/-- What the first of the lines contributes. -/
theorem mem_functionsFrom_cons {docAt : Nat → Text} {n : Nat} {line : Text} {more : List Text}
    {f : Function} :
    .ok f ∈ functionsFrom docAt n (line :: more) ↔
      (startsFunction line = true ∧ function? (docAt n) n (line :: more) = some f) ∨
        .ok f ∈ functionsFrom docAt (n + 1) more := by
  rw [functionsFrom]
  cases hs : startsFunction line with
  | false => simp
  | true => cases hf : function? (docAt n) n (line :: more) <;> simp [eq_comm]

/-- The records of the scan are those of the lines that start a function. -/
theorem ok_mem_functionsFrom {docAt : Nat → Text} {n : Nat} {ls : List Text} {f : Function} :
    .ok f ∈ functionsFrom docAt n ls ↔
      ∃ i line more, ls.drop i = line :: more ∧ startsFunction line = true ∧
        function? (docAt (n + i)) (n + i) (line :: more) = some f := by
  induction ls generalizing n with
  | nil => simp [functionsFrom]
  | cons first ls ih =>
    rw [mem_functionsFrom_cons, ih]
    constructor
    · rintro (⟨hs, hf⟩ | ⟨i, line, more, hd, hs, hf⟩)
      · exact ⟨0, first, ls, rfl, hs, hf⟩
      · exact ⟨i + 1, line, more, hd, hs, by rwa [Nat.add_right_comm, Nat.add_assoc] at hf⟩
    · rintro ⟨i, line, more, hd, hs, hf⟩
      cases i with
      | zero =>
        obtain ⟨rfl, rfl⟩ := List.cons.inj hd
        exact Or.inl ⟨hs, hf⟩
      | succ i =>
        exact Or.inr ⟨i, line, more, hd, hs, by rwa [Nat.add_right_comm, Nat.add_assoc]⟩

theorem le_line_of_mem {docAt : Nat → Text} {n : Nat} {ls : List Text} {f : Function}
    (h : .ok f ∈ functionsFrom docAt n ls) : n ≤ f.line := by
  obtain ⟨i, line, more, -, -, hf⟩ := ok_mem_functionsFrom.1 h
  rw [function?_line hf]
  exact Nat.le_add_right n i

theorem mem_filterMap_toOption {f : Function} {rs : List (Except Nat Function)} :
    f ∈ rs.filterMap Except.toOption ↔ .ok f ∈ rs := by
  rw [List.mem_filterMap]
  constructor
  · rintro ⟨_ | g, hg, he⟩
    · cases he
    · cases he
      exact hg
  · exact fun hf => ⟨.ok f, hf, rfl⟩

/-- A line that starts a readable function has one record. -/
theorem filter_line_functionsFrom {docAt : Nat → Text} {n : Nat} {pre post : List Text} {line : Text}
    {f : Function} (hs : startsFunction line = true)
    (hf : function? (docAt (n + pre.length)) (n + pre.length) (line :: post) = some f) :
    ((functionsFrom docAt n (pre ++ line :: post)).filterMap Except.toOption).filter
      (·.line == n + pre.length) = [f] := by
  induction pre generalizing n with
  | nil =>
    have hlater : ((functionsFrom docAt (n + 1) post).filterMap Except.toOption).filter
        (·.line == n) = [] := by
      refine List.filter_eq_nil_iff.2 fun g hg => ?_
      have := le_line_of_mem (mem_filterMap_toOption.1 hg)
      simp
      omega
    have hline : f.line = n := function?_line hf
    rw [List.nil_append, functionsFrom, if_pos hs]
    simp only [List.length_nil, Nat.add_zero] at hf ⊢
    simp [hf, Except.toOption, hline, hlater]
  | cons first pre ih =>
    have hnext := ih (n := n + 1) (by simpa [Nat.add_comm, Nat.add_left_comm] using hf)
    have hcount : n + (first :: pre).length = n + 1 + pre.length := by simp; omega
    rw [List.cons_append, functionsFrom, hcount]
    split
    · cases hfirst : function? (docAt n) n (first :: (pre ++ line :: post)) with
      | none => exact hnext
      | some g =>
        have hg : (g.line == n + 1 + pre.length) = false := by
          rw [function?_line hfirst]
          simp
          omega
        simpa [Except.toOption, hg] using hnext
    · exact hnext

/-- The text that is joined from a line on, without the space in front of it. -/
def joinedText (ls : List Text) : Text := (Function.declarationText 0 false ls).tail

theorem stops_declarationText (depth : Int) (opened : Bool) (ls : List Text) :
    Stops isWord (Function.declarationText depth opened ls) := by
  cases ls with
  | nil => exact stops_nil _
  | cons line more =>
    rw [Function.declarationText]
    exact stops_cons.2 rfl

/-- After the first line, which is trimmed, there is nothing or a space. -/
theorem declarationText_cons (depth : Int) (opened : Bool) (line : Text) (more : List Text) :
    ∃ tail, Function.declarationText depth opened (line :: more) = ' ' :: (trim line ++ tail) ∧
      Stops isWord tail := by
  rw [Function.declarationText]
  exact ⟨_, rfl, stops_ite (stops_nil _) (stops_declarationText _ _ _)⟩

theorem mem_functions_iff {content : Text} {markers : List Text} {s : Source}
    (h : extract? content markers = some s) {f : Function} :
    f ∈ s.functions ↔
      ∃ line more, (lines content).drop (f.line - 1) = line :: more ∧ 0 < f.line ∧
        startsFunction line = true ∧
        function? (Doc.above (lines content) markers f.line) f.line (line :: more) = some f := by
  simp only [extract?, Option.bind_eq_bind, Option.bind_eq_some_iff] at h
  obtain ⟨c, -, hs⟩ := h
  cases hs
  rw [mem_filterMap_toOption, ok_mem_functionsFrom]
  constructor
  · rintro ⟨i, line, more, hd, hst, hf⟩
    have hline : f.line = 1 + i := function?_line hf
    refine ⟨line, more, ?_, by omega, hst, by rwa [hline]⟩
    rwa [hline, Nat.add_sub_cancel_left]
  · rintro ⟨line, more, hd, hpos, hst, hf⟩
    refine ⟨f.line - 1, line, more, hd, hst, ?_⟩
    rwa [Nat.add_sub_cancel' hpos]

/-! The name that a line gives to its function. -/

/-- The trimmed line starts with `function`, blanks, and the name as a whole word. -/
def Describes (line name : Text) : Prop :=
  ∃ gap rest : Text, trim line = "function" ++ gap ++ name ++ rest ∧ gap ≠ [] ∧
    (∀ c ∈ gap, isBlank c) ∧ IsName name ∧ Stops isWord rest

/-- The word after `function` and blanks at the start of a text. -/
def leadName? (t : Text) : Option Text := do
  let (name, _) ← word? (← blanks? (← after? "function" t))
  some name

theorem describes_iff {line name : Text} :
    Describes line name ↔ leadName? (trim line) = some name := by
  unfold Describes leadName?
  simp only [Option.bind_eq_bind, Option.bind_eq_some_iff, after?_eq_some, blanks?_eq_some,
    Option.some.injEq]
  constructor
  · rintro ⟨gap, rest, hline, hne, hg, hn, hrest⟩
    exact ⟨gap ++ (name ++ rest), by simp [hline], name ++ rest,
      ⟨gap, rfl, hne, hg, hn.stops_isBlank rest⟩, (name, rest), hn.word?_append hrest, rfl⟩
  · rintro ⟨_, hline, _, ⟨gap, rfl, hne, hg, -⟩, ⟨name, rest⟩, hword, rfl⟩
    obtain ⟨rfl, hn, hw, hrest⟩ := word?_eq_some.1 hword
    exact ⟨gap, rest, by simp [hline], hne, hg, ⟨hn, hw⟩, hrest⟩

instance (line name : Text) : Decidable (Describes line name) :=
  decidable_of_iff _ describes_iff.symm

theorem leadName?_of_read? {t : Text} {head : Function.Head}
    (h : Function.Head.read? t = some head) : leadName? t = some head.name := by
  obtain ⟨gap, gap', params, rest, rfl, hne, hg, hn, hg', -⟩ := Function.Head.exists_front h
  have hstop : Stops isWord (gap' ++ ('(' :: params ++ ')' :: rest)) := by
    cases gap' with
    | nil => exact stops_cons.2 rfl
    | cons c gap' => exact stops_cons.2 (isWord_of_isBlank (hg' c (by simp)))
  have hshape : "function".toList ++ gap ++ head.name ++ gap' ++ '(' :: params ++ ')' :: rest =
      "function".toList ++ (gap ++ (head.name ++ (gap' ++ ('(' :: params ++ ')' :: rest)))) := by
    simp
  rw [hshape, leadName?, after?_append]
  simp only [Option.bind_eq_bind, Option.bind_some, blanks?_append hne hg (hn.stops_isBlank _),
    hn.word?_append hstop]

theorem word?_append_stops {t tail : Text} (ht : Stops isWord tail) :
    (word? (t ++ tail)).map (·.1) = (word? t).map (·.1) := by
  have htake : (t ++ tail).takeWhile isWord = t.takeWhile isWord := by
    rw [List.takeWhile_append, takeWhile_of_stops ht, List.append_nil]
    split
    · next h => exact ((List.takeWhile_prefix isWord).eq_of_length h).symm
    · rfl
  unfold word?
  rw [htake]
  split <;> rfl

theorem leadName?_function (t : Text) :
    leadName? ("function" ++ ' ' :: t) = (word? (skipBlanks t)).map (·.1) := by
  simp only [leadName?, after?_append, blanks?_space, Option.bind_eq_bind, Option.bind_some]
  exact Option.map_eq_bind.symm

/-- What is joined to a line that starts a function does not change the name on it. -/
theorem leadName?_append {line tail : Text} (h : startsFunction line = true)
    (ht : Stops isWord tail) : leadName? (trim line ++ tail) = leadName? (trim line) := by
  obtain ⟨t, hline⟩ := startsWith_iff.1 h
  have hshape : trim line = "function".toList ++ ' ' :: t := by simp [← hline]
  -- The last character of the line is no blank, so the blanks after `function` end on it.
  have hsolid : skipBlanks t ≠ [] := by
    obtain ⟨a, c, hc, hblank⟩ := endsSolid_trim (show trim line ≠ [] by simp [hshape])
    have hlast : (' ' :: t).getLast? = some c := by
      have := congrArg List.getLast? (hshape.symm.trans hc)
      simpa using this
    intro hnil
    have hall : ∀ d ∈ ' ' :: t, isBlank d := by
      intro d hd
      rcases List.mem_cons.1 hd with rfl | hd
      · rfl
      · exact List.dropWhile_eq_nil_iff.1 hnil d hd
    rw [hall c (List.mem_of_getLast? hlast)] at hblank
    cases hblank
  have hskip : skipBlanks (t ++ tail) = skipBlanks t ++ tail := by
    unfold skipBlanks at hsolid ⊢
    rw [List.dropWhile_append, if_neg (by simpa using hsolid)]
  rw [hshape, List.append_assoc, List.cons_append, leadName?_function, leadName?_function, hskip,
    word?_append_stops ht]

structure Carries (f : Function) (head : Function.Head) : Prop where
  name : f.name = head.name
  parameters : f.parameters = head.parameters
  visibility : f.visibility = head.visibility.getD .pub
  mutability : f.mutability = head.mutability.getD .nonpayable
  returns : f.returns = head.returns

theorem function?_eq_some {doc : Text} {n : Nat} {line : Text} {more : List Text} {f : Function}
    (h : function? doc n (line :: more) = some f) :
    ∃ head, firstMatch Function.Head.read? (joinedText (line :: more)) = some head ∧
      Carries f head := by
  simp only [function?, Option.bind_eq_bind, Option.bind_eq_some_iff] at h
  obtain ⟨head, hhead, hf⟩ := h
  cases hf
  obtain ⟨tail, htext, -⟩ := declarationText_cons 0 false line more
  refine ⟨head, ?_, rfl, rfl, rfl, rfl, rfl⟩
  rw [joinedText, htext, List.tail_cons]
  rwa [htext, firstMatch_cons (by rfl)] at hhead

/-- Every record is that of the first head in the text joined from its line on. It is that of the
line itself exactly if this text starts with a head, and then it bears the name that stands on the
line. Otherwise it is that of a head further on, and bears the line's name only if this later head
has the same name. -/
theorem record_own_line_iff {content : Text} {markers : List Text} {s : Source}
    (h : extract? content markers = some s) {f : Function} (hf : f ∈ s.functions) :
    ∃ line more skipped rest head,
      (lines content).drop (f.line - 1) = line :: more ∧ 0 < f.line ∧ startsFunction line = true ∧
      joinedText (line :: more) = skipped ++ rest ∧ Function.Head.read? rest = some head ∧
      Carries f head ∧ (∀ p q, skipped = p ++ q → q ≠ [] → ¬ Function.IsHead (q ++ rest)) ∧
      (skipped = [] ↔ Function.IsHead (joinedText (line :: more))) ∧
      (Function.IsHead (joinedText (line :: more)) → Describes line f.name) ∧
      (¬ Function.IsHead (joinedText (line :: more)) →
        (Describes line f.name ↔ leadName? rest = leadName? (trim line))) := by
  obtain ⟨line, more, hdrop, hpos, hstart, hfun⟩ := (mem_functions_iff h).1 hf
  obtain ⟨head, hfirst, hcarries⟩ := function?_eq_some hfun
  obtain ⟨skipped, rest, hjoined, hread, hno⟩ := firstMatch_eq_some_iff.1 hfirst
  have hnone : ∀ p q, skipped = p ++ q → q ≠ [] → ¬ Function.IsHead (q ++ rest) := by
    intro p q hpq hq hhead
    rw [← Function.isSome_read?_iff, hno p q hpq hq] at hhead
    cases hhead
  have hown : skipped = [] ↔ Function.IsHead (joinedText (line :: more)) := by
    constructor
    · rintro rfl
      rw [hjoined, List.nil_append, ← Function.isSome_read?_iff, hread]
      rfl
    · intro hhead
      by_contra hne
      exact hnone [] skipped rfl hne (hjoined ▸ hhead)
  have hname : leadName? rest = some f.name := by rw [leadName?_of_read? hread, hcarries.name]
  refine ⟨line, more, skipped, rest, head, hdrop, hpos, hstart, hjoined, hread, hcarries, hnone,
    hown, fun hhead => ?_, fun _ => ?_⟩
  · obtain rfl := hown.2 hhead
    obtain ⟨tail, htext, htail⟩ := declarationText_cons 0 false line more
    rw [joinedText, htext, List.tail_cons, List.nil_append] at hjoined
    rw [describes_iff, ← leadName?_append hstart htail, hjoined, hname]
  · rw [describes_iff, hname, eq_comm]

def bodilessSource : Text :=
  "contract A \x7b\n  function f() external;\n  function g() internal \x7b\n  \x7d\n\x7d\n"

/-- The line of the function without a body gets the record of the next function. -/
theorem bodiless_record_of_next :
    ∃ s, extract? bodilessSource [] = some s ∧ ∃ f ∈ s.functions,
      f.line = 2 ∧ (lines bodilessSource).drop 1 = "  function f() external;".toList ::
        (lines bodilessSource).drop 2 ∧ ¬ Describes "  function f() external;" f.name ∧
      s.functions.map (fun f => (f.name, f.line)) = [("g".toList, 2), ("g".toList, 3)] := by
  refine ⟨_, rfl, _, List.mem_cons_self, rfl, rfl, ?_, rfl⟩
  decide

/-- The same text: its second record is that of its own line. -/
theorem record_own_line_second :
    ∃ s, extract? bodilessSource [] = some s ∧ ∃ f ∈ s.functions, f.line = 3 ∧
      ∃ line more skipped rest head,
        (lines bodilessSource).drop (f.line - 1) = line :: more ∧ 0 < f.line ∧
        startsFunction line = true ∧ joinedText (line :: more) = skipped ++ rest ∧
        Function.Head.read? rest = some head ∧ Carries f head ∧
        (∀ p q, skipped = p ++ q → q ≠ [] → ¬ Function.IsHead (q ++ rest)) ∧
        (skipped = [] ↔ Function.IsHead (joinedText (line :: more))) ∧
        (Function.IsHead (joinedText (line :: more)) → Describes line f.name) ∧
        (¬ Function.IsHead (joinedText (line :: more)) →
          (Describes line f.name ↔ leadName? rest = leadName? (trim line))) := by
  refine ⟨_, rfl, _, List.mem_cons_of_mem _ List.mem_cons_self, rfl, ?_⟩
  exact record_own_line_iff rfl (List.mem_cons_of_mem _ List.mem_cons_self)

end SolInterface.Source
