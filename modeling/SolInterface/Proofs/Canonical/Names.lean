import SolInterface.Proofs.Canonical.Document

/-!
The names, types and field lists of a canonical source: which characters they are made of, and which
words they are not.
-/
namespace SolInterface.Canonical
open Text

theorem isWord_of_ascii {c : Char} (h : (c.isAlphanum || c == '_') = true) : isWord c = true := by
  have hsmall : c.toNat < 128 := by
    simp only [Char.isAlphanum, Char.isAlpha, Char.isUpper, Char.isLower, Char.isDigit,
      Bool.or_eq_true, Bool.and_eq_true, decide_eq_true_eq, beq_iff_eq, ge_iff_le,
      UInt32.le_iff_toNat_le] at h
    have hval : c.toNat = c.val.toNat := rfl
    rcases h with ((⟨-, hz⟩ | ⟨-, hz⟩) | ⟨-, hz⟩) | rfl
    · exact Nat.lt_of_le_of_lt (hval ▸ hz) (by decide)
    · exact Nat.lt_of_le_of_lt (hval ▸ hz) (by decide)
    · exact Nat.lt_of_le_of_lt (hval ▸ hz) (by decide)
    · decide
  rw [isWord, if_pos hsmall, h]

theorem isDigit_of_isDecimal {c : Char} (h : isDecimal c = true) : isDigit c = true := by
  simp only [isDecimal, Bool.and_eq_true, decide_eq_true_eq] at h
  have hdigit : c.isDigit = true := by
    simp only [Char.isDigit, Bool.and_eq_true, decide_eq_true_eq]
    exact h
  have hsmall : c.toNat < 128 := Nat.lt_of_le_of_lt h.2 (by decide)
  rw [isDigit, if_pos hsmall, hdigit]

theorem Safe.isName {w : Text} (h : Safe w) : IsName w :=
  ⟨h.ne_nil, fun c hc => isWord_of_ascii (h.ascii c hc)⟩

theorem Identifier.isName (i : Identifier) : IsName i.text := i.safe.isName

theorem Identifier.ne_reserved (i : Identifier) {w : Text} (hw : w ∈ reserved) : i.text ≠ w :=
  fun h => i.safe.unreserved (h ▸ hw)

theorem Primitive.isName (p : Primitive) : IsName p.text := by
  cases p with
  | sized stem digits =>
    have hstem : IsName stem.text := by cases stem <;> decide
    refine ⟨List.append_ne_nil_of_left_ne_nil hstem.1 _, fun c hc => ?_⟩
    rcases List.mem_append.1 hc with hc | hc
    · exact hstem.2 c hc
    · exact Variable.isWord_of_isDigit (isDigit_of_isDecimal (digits.2 c hc))
  | string => decide
  | address => decide
  | bool => decide

theorem TypeName.isName (t : TypeName) : IsName t.text := by
  cases t with
  | primitive p => exact p.isName
  | named i => exact i.isName

/-! Lists of fields. -/

theorem Field.stops_text (f : Field) : f.text ≠ [] ∧ Stops isBlank f.text := by
  have htype := f.type.isName
  unfold Field.text
  cases f.name with
  | none => exact ⟨htype.1, by simpa using htype.stops_isBlank []⟩
  | some name => exact ⟨by simp, htype.stops_isBlank _⟩

theorem Field.stops_reverse_text (f : Field) : Stops isBlank f.text.reverse := by
  have hname : ∀ {w : Text}, IsName w → Stops isBlank w.reverse := fun h c hc =>
    isBlank_of_isWord (h.2 c (List.mem_reverse.1 (List.mem_of_mem_head? hc)))
  unfold Field.text
  cases f.name with
  | none => exact hname f.type.isName
  | some name =>
    rw [List.reverse_append, List.reverse_cons, List.append_assoc,
      stops_append (by simp [name.isName.1])]
    exact hname name.isName

theorem mem_fieldsText {c : Char} {fields : List Field} (h : c ∈ fieldsText fields) :
    isWord c = true ∨ c = ' ' ∨ c = ',' := by
  rcases mem_joinWith h with hsep | ⟨w, hw, hc⟩
  · simp only [List.mem_cons, List.not_mem_nil, or_false] at hsep
    exact Or.inr hsep.symm
  · obtain ⟨f, -, rfl⟩ := List.mem_map.1 hw
    unfold Field.text at hc
    cases hname : f.name with
    | none =>
      rw [hname] at hc
      exact Or.inl (f.type.isName.2 c hc)
    | some name =>
      rw [hname] at hc
      rcases List.mem_append.1 hc with hc | hc
      · exact Or.inl (f.type.isName.2 c hc)
      · rcases List.mem_cons.1 hc with rfl | hc
        · exact Or.inr (Or.inl rfl)
        · exact Or.inl (name.isName.2 c hc)

theorem notMem_fieldsText {c : Char} (hword : isWord c = false) (hspace : c ≠ ' ') (hcomma : c ≠ ',')
    (fields : List Field) : c ∉ fieldsText fields := by
  intro hc
  rcases mem_fieldsText hc with h | h | h
  · rw [hword] at h
    cases h
  · exact hspace h
  · exact hcomma h

theorem flat_fieldsText (fields : List Field) : Function.Flat (fieldsText fields) :=
  ⟨notMem_fieldsText (by rfl) (by decide) (by decide) fields,
    notMem_fieldsText (by rfl) (by decide) (by decide) fields,
    notMem_fieldsText (by rfl) (by decide) (by decide) fields,
    notMem_fieldsText (by rfl) (by decide) (by decide) fields⟩

theorem trim_fieldsText (fields : List Field) : trim (fieldsText fields) = fieldsText fields := by
  refine trim_eq_self_iff.2 ⟨?_, ?_⟩
  · cases fields with
    | nil => exact stops_nil _
    | cons f fields =>
      obtain ⟨hne, hstop⟩ := f.stops_text
      exact stops_joinWith hne hstop
  · refine stops_reverse_joinWith fun w hw => ?_
    obtain ⟨f, -, rfl⟩ := List.mem_map.1 hw
    exact ⟨f.stops_text.1, f.stops_reverse_text⟩

/-! The characters of a member. -/

/-- A character that members are made of. -/
def isCode (c : Char) : Bool := isWord c || c ∈ [' ', ',', '(', ')', '{', '}', ';', '=', '>']

theorem isCode_of_isName {w : Text} (h : IsName w) : ∀ c ∈ w, isCode c := fun c hc => by
  simp [isCode, h.2 c hc]

theorem isCode_of_fieldsText (fields : List Field) : ∀ c ∈ fieldsText fields, isCode c := by
  intro c hc
  rcases mem_fieldsText hc with h | rfl | rfl
  · simp [isCode, h]
  · rfl
  · rfl

theorem isCode_append {t u : Text} (ht : ∀ c ∈ t, isCode c) (hu : ∀ c ∈ u, isCode c) :
    ∀ c ∈ t ++ u, isCode c := fun c hc =>
  (List.mem_append.1 hc).elim (ht c) (hu c)

theorem isCode_cons {d : Char} {t : Text} (hd : isCode d = true) (ht : ∀ c ∈ t, isCode c) :
    ∀ c ∈ d :: t, isCode c := by
  intro c hc
  rcases List.mem_cons.1 hc with rfl | hc
  · exact hd
  · exact ht c hc

theorem isCode_of_variableType (type : VariableType) : ∀ c ∈ type.text, isCode c := by
  cases type with
  | primitive p => exact isCode_of_isName p.isName
  | mapping domain range =>
    change ∀ c ∈ mappingText domain range, isCode c
    have hdomain := isCode_of_isName domain.isName
    have hrange := isCode_of_isName range.isName
    exact isCode_append (isCode_append (by decide)
      (isCode_append (isCode_append hdomain (by decide)) hrange)) (by decide)

def headWords : List Text :=
  ["function", "returns", "external", "public", "internal", "private", "view", "pure", "payable"]

theorem mem_headWords {visibility : Visibility}
    {mutability : Option { m : Mutability // m ∈ [.view, .pure, .payable] }} {w : Text}
    (hw : w ∈ specifiers visibility mutability) : w ∈ headWords := by
  rcases List.mem_cons.1 hw with rfl | hw
  · cases visibility <;> decide
  · obtain ⟨⟨m, hm⟩, -, rfl⟩ := Option.map_eq_some_iff.1 (Option.mem_toList.1 hw)
    have hall : ∀ m ∈ [Mutability.view, .pure, .payable], m.keyword ∈ headWords := by decide
    exact hall m hm

theorem isName_headWords : ∀ w ∈ headWords, IsName w := by decide

theorem isCode_of_headLine (name : Identifier) (params : List Field) (visibility : Visibility)
    (mutability : Option { m : Mutability // m ∈ [.view, .pure, .payable] })
    (returns : List Field) :
    ∀ c ∈ Function.headLine name.text (fieldsText params) (specifiers visibility mutability)
      (returnsText returns) [], isCode c := by
  have hspecs : ∀ c ∈ Function.spaced (specifiers visibility mutability) [], isCode c := by
    intro c hc
    rcases Function.mem_spaced hc with rfl | ⟨w, hw, hc⟩
    · rfl
    · exact isCode_of_isName (isName_headWords w (mem_headWords hw)) c hc
  have hreturns : ∀ c ∈ Function.returnsPart (returnsText returns), isCode c := by
    unfold returnsText
    split
    · simp [Function.returnsPart]
    · exact isCode_append (isCode_append (by decide) (isCode_of_fieldsText returns)) (by decide)
  have hend : ∀ c ∈ Function.headEnd (returnsText returns) [], isCode c :=
    isCode_append hreturns (by decide)
  rw [Function.headLine_eq, Function.spaced_append]
  exact isCode_append
    (isCode_append (isCode_append (isCode_append (isCode_append (by decide) (by decide))
      (isCode_of_isName name.isName)) (by decide)) (isCode_cons rfl (isCode_of_fieldsText params)))
    (isCode_cons rfl (isCode_cons rfl (isCode_append hspecs hend)))

theorem isCode_of_declaration (m : Member) : ∀ c ∈ m.declaration, isCode c := by
  cases m with
  | notice kind name params =>
    have hkind : ∀ c ∈ kind.keyword, isCode c := by cases kind <;> decide
    exact isCode_append hkind (isCode_cons rfl (isCode_append (isCode_of_isName name.isName)
      (isCode_cons rfl (isCode_append (isCode_of_fieldsText params) (by decide)))))
  | stateVariable type v isImmutable name =>
    have hv : ∀ c ∈ v.1.keyword, isCode c := by cases v.1 <;> decide
    have himmutable : ∀ c ∈ Variable.immutability isImmutable, isCode c := by
      cases isImmutable <;> decide
    exact isCode_append (isCode_of_variableType type) (isCode_cons rfl (isCode_append hv
      (isCode_cons rfl (isCode_append himmutable
        (isCode_append (isCode_of_isName name.isName) (by decide))))))
  | function name params visibility mutability returns =>
    exact isCode_of_headLine name params visibility mutability returns

theorem notMem_declaration {c : Char} (hc : isCode c = false) (m : Member) : c ∉ m.declaration := by
  intro hmem
  rw [isCode_of_declaration m c hmem] at hc
  cases hc

end SolInterface.Canonical
