import SolInterface.Interface.Getter
import SolInterface.Proofs.Canonical.Extract
import SolInterface.Proofs.TypeSubstitution

/-!
The signatures of an interface, written from the names and types of a member. Types are renamed word
by word: in a list of fields each word is renamed but the last one, which only a list of one word
has renamed; in a getter these are the types, and the name `key` of the parameter.
-/
namespace SolInterface.Canonical
open Text Renaming

/-- A field that another one follows. -/
def Field.retyped (σ : Text → Text) (f : Field) : Text :=
  match f.name with
  | none => σ f.type.text
  | some name => σ f.type.text ++ ' ' :: σ name.text

/-- The last of several words keeps its name. -/
def Field.retypedLast (σ : Text → Text) (f : Field) : Text :=
  match f.name with
  | none => f.type.text
  | some name => σ f.type.text ++ ' ' :: name.text

def retypedFrom (σ : Text → Text) : List Field → Text
  | [] => []
  | [f] => f.retypedLast σ
  | f :: g :: fields => f.retyped σ ++ ',' :: ' ' :: retypedFrom σ (g :: fields)

def fieldsRetyped (σ : Text → Text) : List Field → Text
  | [⟨type, none⟩] => σ type.text
  | fields => retypedFrom σ fields

/-- The parameter of a getter: a mapping has one. -/
def VariableType.keyText (σ : Text → Text) : VariableType → Text
  | .primitive _ => []
  | .mapping key _ => σ key.text ++ ' ' :: σ "key"

def VariableType.result : VariableType → Text
  | .primitive p => p.text
  | .mapping _ value => value.text

def getterMutability (isImmutable : Bool) : Text := if isImmutable then "pure" else "view"

def getterEnd (σ : Text → Text) (type : VariableType) (isImmutable : Bool) : Text :=
  ' ' :: ("external".toList ++ ' ' :: (getterMutability isImmutable ++ ' ' ::
    ("returns".toList ++ ' ' :: '(' :: (σ type.result ++ [')', ';']))))

def getterText (σ : Text → Text) (type : VariableType) (isImmutable : Bool) (name : Text) : Text :=
  indent ++ ("function".toList ++ ' ' :: (name ++ '(' ::
    (type.keyText σ ++ ')' :: getterEnd σ type isImmutable)))

/-! Fields. -/

theorem Field.retyped_id (f : Field) : f.retyped id = f.text := by
  unfold Field.retyped Field.text
  cases f.name <;> rfl

theorem Field.retypedLast_id (f : Field) : f.retypedLast id = f.text := by
  unfold Field.retypedLast Field.text
  cases f.name <;> rfl

theorem retypedFrom_id (fields : List Field) : retypedFrom id fields = fieldsText fields := by
  induction fields with
  | nil => rfl
  | cons f fields ih =>
    cases fields with
    | nil => simpa [retypedFrom, fieldsText, joinWith] using f.retypedLast_id
    | cons g fields =>
      rw [retypedFrom, f.retyped_id, ih]
      simp [fieldsText, joinWith, List.intercalate_cons_cons]

theorem fieldsRetyped_id (fields : List Field) : fieldsRetyped id fields = fieldsText fields := by
  unfold fieldsRetyped
  split
  · simp [fieldsText, joinWith, Field.text]
  · exact retypedFrom_id fields

theorem fieldsRetyped_ne_nil {σ : Text → Text} (hσ : ∀ w, IsName w → IsName (σ w))
    {fields : List Field} (hne : fields ≠ []) : fieldsRetyped σ fields ≠ [] := by
  have hlast : ∀ f : Field, f.retypedLast σ ≠ [] := by
    intro f
    unfold Field.retypedLast
    cases f.name with
    | none => exact f.type.isName.1
    | some name => simp
  unfold fieldsRetyped
  split
  · next type => exact (hσ _ type.isName).1
  · cases fields with
    | nil => exact absurd rfl hne
    | cons f fields =>
      cases fields with
      | nil => exact hlast f
      | cons g fields => simp [retypedFrom]

section Entry
variable {entry : Text × Text} (he : IsName entry.1) {σ : Text → Text}
  (hσ : ∀ w, IsName w → IsName (σ w))
include he hσ

/-- A field that starts where a type may, and that a comma ends, has all its words renamed. -/
theorem replaceFrom_field {before : Option Char} (hb : opensType before = true) (f : Field)
    (t : Text) :
    replaceFrom entry.1 entry.2 0 before (f.retyped σ ++ ',' :: t) =
      f.retyped (fun w => swap entry (σ w)) ++ ',' :: replaceFrom entry.1 entry.2 0 (some ',') t := by
  have htype := hσ _ f.type.isName
  have hcomma : closesType (',' :: t) = true := rfl
  unfold Field.retyped
  cases f.name with
  | none =>
    rw [replaceFrom_word_sep he _ htype _ (by decide), hb, hcomma]
    rfl
  | some name =>
    have hspace : closesType (' ' :: (σ name.text ++ ',' :: t)) = true := rfl
    have hopens : opensType (some ' ') = true := by decide
    simp only [List.append_assoc, List.cons_append]
    rw [replaceFrom_word_sep he _ htype _ (by decide), hb, hspace,
      replaceFrom_word_sep he _ (hσ _ name.isName) _ (by decide), hopens, hcomma]
    rfl

theorem replaceFrom_fieldLast {before : Option Char} (hb : opensType before = true) (f : Field) :
    replaceFrom entry.1 entry.2 0 before (f.retypedLast σ) =
      f.retypedLast fun w => swap entry (σ w) := by
  unfold Field.retypedLast
  cases f.name with
  | none => exact replaceFrom_word_end he _ f.type.isName _
  | some name =>
    have hspace : closesType (' ' :: name.text) = true := rfl
    simp only
    rw [replaceFrom_word_sep he _ (hσ _ f.type.isName) _ (by decide), hb, hspace,
      replaceFrom_word_end he _ name.isName]
    rfl

theorem replaceFrom_fields {before : Option Char} (hb : opensType before = true)
    (fields : List Field) :
    replaceFrom entry.1 entry.2 0 before (retypedFrom σ fields) =
      retypedFrom (fun w => swap entry (σ w)) fields := by
  induction fields generalizing before with
  | nil => simp [retypedFrom, replaceFrom]
  | cons f fields ih =>
    cases fields with
    | nil => exact replaceFrom_fieldLast he hσ hb f
    | cons g fields =>
      rw [retypedFrom, replaceFrom_field he hσ hb, replaceFrom_sep he _ _ (by decide),
        ih (by decide)]
      rfl

omit hσ in
theorem replaceType_of_space {t : Text} (ht : t = [] ∨ ' ' ∈ t) :
    replaceType t entry = replaceFrom entry.1 entry.2 0 none t := by
  have hne : t ≠ entry.1 := by
    rintro rfl
    rcases ht with ht | ht
    · exact he.1 ht
    · exact he.notMem (by decide) ht
  rw [replaceType, if_neg hne]

theorem replaceType_fields (fields : List Field) :
    replaceType (fieldsRetyped σ fields) entry =
      fieldsRetyped (fun w => swap entry (σ w)) fields := by
  unfold fieldsRetyped
  split
  · next type =>
    rw [replaceType, replaceFrom_word_end he _ (hσ _ type.isName)]
    rfl
  · next hseveral =>
    have hspace : retypedFrom σ fields = [] ∨ ' ' ∈ retypedFrom σ fields := by
      cases fields with
      | nil => exact .inl rfl
      | cons f fields =>
        right
        cases fields with
        | nil =>
          obtain ⟨type, name⟩ := f
          cases name with
          | none => exact absurd rfl (hseveral type)
          | some name => simp [retypedFrom, Field.retypedLast]
        | cons g fields => simp [retypedFrom]
    rw [replaceType_of_space he hspace, replaceFrom_fields he hσ rfl]

end Entry

/-! Getters. -/

def getterWords : List Text := ["function", "external", "pure", "view", "returns"]

theorem not_safe_getterWords : ∀ w ∈ getterWords, IsName w ∧ ¬ Safe w := by decide

theorem getterMutability_mem (isImmutable : Bool) : getterMutability isImmutable ∈ getterWords := by
  cases isImmutable <;> decide

section GetterEntry
variable {entry : Text × Text} (he : Safe entry.1)
include he

theorem replaceFrom_keyword {w : Text} (hw : w ∈ getterWords) (before : Option Char) (t : Text) :
    replaceFrom entry.1 entry.2 0 before (w ++ ' ' :: t) =
      w ++ ' ' :: replaceFrom entry.1 entry.2 0 (some ' ') t := by
  obtain ⟨hname, hunsafe⟩ := not_safe_getterWords w hw
  have hne : w ≠ entry.1 := by
    rintro rfl
    exact hunsafe he
  have hkept : swap entry w = w := if_neg hne
  rw [replaceFrom_word_sep he.isName _ hname _ (by decide), hkept, ite_self]

variable {σ : Text → Text} (hσ : ∀ w, IsName w → IsName (σ w))
include hσ

theorem replaceFrom_getterEnd (before : Option Char) (type : VariableType) (isImmutable : Bool) :
    replaceFrom entry.1 entry.2 0 before (getterEnd σ type isImmutable) =
      getterEnd (fun w => swap entry (σ w)) type isImmutable := by
  have hresult : IsName (σ type.result) := by
    cases type with
    | primitive p => exact hσ _ p.isName
    | mapping key value => exact hσ _ value.isName
  have hopens : opensType (some '(') = true := rfl
  have hcloses : closesType [')', ';'] = true := rfl
  have hend : replaceFrom entry.1 entry.2 0 (some ';') [] = [] := by rw [replaceFrom]
  unfold getterEnd
  rw [replaceFrom_sep he.isName _ _ (by decide), replaceFrom_keyword he (by decide),
    replaceFrom_keyword he (getterMutability_mem isImmutable),
    replaceFrom_keyword he (by decide), replaceFrom_sep he.isName _ _ (by decide),
    replaceFrom_word_sep he.isName _ hresult _ (by decide), hopens, hcloses,
    replaceFrom_sep he.isName _ _ (by decide), hend]
  rfl

theorem replaceFrom_keyText (type : VariableType) (t : Text) :
    replaceFrom entry.1 entry.2 0 (some '(') (type.keyText σ ++ ')' :: t) =
      type.keyText (fun w => swap entry (σ w)) ++
        ')' :: replaceFrom entry.1 entry.2 0 (some ')') t := by
  cases type with
  | primitive p => exact replaceFrom_sep he.isName _ _ (by decide) t
  | mapping key value =>
    have hkey : IsName (σ "key") := hσ _ (by decide)
    have hopens : opensType (some '(') = true ∧ opensType (some ' ') = true := by decide
    have hspace : closesType (' ' :: (σ "key" ++ ')' :: t)) = true := rfl
    have hparen : closesType (')' :: t) = true := rfl
    simp only [VariableType.keyText, List.append_assoc, List.cons_append]
    rw [replaceFrom_word_sep he.isName _ (hσ _ key.isName) _ (by decide), hopens.1, hspace,
      replaceFrom_word_sep he.isName _ hkey _ (by decide), hopens.2, hparen]
    rfl

theorem replaceType_getter (type : VariableType) (isImmutable : Bool) {name : Text}
    (hn : IsName name) :
    replaceType (getterText σ type isImmutable name) entry =
      getterText (fun w => swap entry (σ w)) type isImmutable name := by
  have hspace : ' ' ∈ getterText σ type isImmutable name := by simp [getterText]
  have hindent : ∀ before t, replaceFrom entry.1 entry.2 0 before (indent ++ t) =
      indent ++ replaceFrom entry.1 entry.2 0 (some ' ') t := by
    intro before t
    change replaceFrom _ _ 0 before (' ' :: ' ' :: ' ' :: ' ' :: t) = ' ' :: ' ' :: ' ' :: ' ' :: _
    iterate 4 rw [replaceFrom_sep he.isName _ _ (by decide)]
    rfl
  have hname : ∀ t, replaceFrom entry.1 entry.2 0 (some ' ') (name ++ '(' :: t) =
      name ++ '(' :: replaceFrom entry.1 entry.2 0 (some '(') t := by
    intro t
    have hopen : closesType ('(' :: t) = false := rfl
    rw [replaceFrom_word_sep he.isName _ hn _ (by decide), hopen, Bool.and_false]
    rfl
  rw [replaceType_of_space he.isName (.inr hspace)]
  unfold getterText
  rw [hindent, replaceFrom_keyword he (by decide), hname, replaceFrom_keyText he hσ,
    replaceFrom_getterEnd he hσ]

end GetterEntry

/-! Renamings of safe names. -/

section Renamings
variable {r : Renaming} (hr : ∀ entry ∈ r.pairs, Safe entry.1 ∧ Safe entry.2)
include hr

theorem applyTypes_fieldsText (fields : List Field) :
    r.applyTypes (fieldsText fields) = fieldsRetyped (retype r.pairs) fields := by
  rw [← fieldsRetyped_id]
  exact applyTypes_eq (fun σ => fieldsRetyped σ fields)
    (fun entry h => ⟨(hr entry h).1.isName, (hr entry h).2.isName⟩)
    fun _ hσ entry h => replaceType_fields (hr entry h).1.isName hσ fields

theorem applyTypes_getterText (type : VariableType) (isImmutable : Bool) {name : Text}
    (hn : IsName name) :
    r.applyTypes (getterText id type isImmutable name) =
      getterText (retype r.pairs) type isImmutable name :=
  applyTypes_eq (fun σ => getterText σ type isImmutable name)
    (fun entry h => ⟨(hr entry h).1.isName, (hr entry h).2.isName⟩)
    fun _ hσ entry h => replaceType_getter (hr entry h).1 hσ type isImmutable hn

end Renamings
/-! The getter of a variable. -/

theorem valueType?_name {value : Text} (hv : IsName value) :
    Variable.valueType? (' ' :: (value ++ [')'])) = some value := by
  obtain ⟨c, more, rfl⟩ := List.exists_cons_of_ne_nil hv.1
  have hinside : ∀ d ∈ more, (d != ')' && d != '\n') = true := by
    intro d hd
    have hword := hv.2 d (List.mem_cons_of_mem _ hd)
    have hparen : d ≠ ')' := ne_of_isWord hword (by decide)
    have hnewline : d ≠ '\n' := ne_of_isWord hword (by decide)
    simp [hparen, hnewline]
  have hstop : Stops (fun d => d != ')' && d != '\n') [')'] := by simp
  have hc : c ≠ '\n' := ne_of_isWord (hv.2 c (by simp)) (by decide)
  have hskip : skipBlanks (' ' :: (c :: more ++ [')'])) = c :: (more ++ [')']) :=
    skipBlanks_of_stops (hv.stops_isBlank [')'])
  have hread : Variable.upToParen? (c :: (more ++ [')'])) = some (c :: more) := by
    simp only [Variable.upToParen?, if_neg hc]
    rw [dropWhile_run hinside hstop, takeWhile_run hinside hstop]
    rfl
  rw [Variable.valueType?, hskip, hread]

/-- The key is read up to the arrow, since no arrow follows within a name. -/
theorem keyAndValue?_name {value : Text} (hv : IsName value) {key : Text} (hk : IsName key)
    (read : Text) :
    Variable.keyAndValue? read (key ++ (" => ".toList ++ (value ++ [')']))) =
      some (read.reverse ++ key, value) := by
  obtain ⟨hne, hword⟩ := hk
  induction key generalizing read with
  | nil => exact absurd rfl hne
  | cons c key ih =>
    have hc : c ≠ '\n' := ne_of_isWord (hword c (by simp)) (by decide)
    rw [List.cons_append, Variable.keyAndValue?, if_neg hc]
    cases key with
    | nil =>
      have hafter : after? "=>" (skipBlanks ([] ++ (" => ".toList ++ (value ++ [')'])))) =
          some (' ' :: (value ++ [')'])) := rfl
      rw [hafter, Option.bind_some, valueType?_name hv]
      simp
    | cons d key =>
      have hd := hword d (by simp)
      have hskip : skipBlanks (d :: key ++ (" => ".toList ++ (value ++ [')']))) =
          d :: (key ++ (" => ".toList ++ (value ++ [')']))) :=
        skipBlanks_of_stops (stops_cons.2 (isBlank_of_isWord hd))
      have hde : '=' ≠ d := (ne_of_isWord hd (by decide)).symm
      have hnone : after? "=>" (d :: (key ++ (" => ".toList ++ (value ++ [')'])))) = none :=
        if_neg hde
      rw [hskip, hnone, Option.bind_none]
      refine (ih (c :: read) (by simp) fun e he => hword e (List.mem_cons_of_mem _ he)).trans ?_
      simp

theorem mappingTypes?_text (key value : TypeName) :
    Variable.mappingTypes? (mappingText key value) = some (key.text, value.text) := by
  have hread := keyAndValue?_name value.isName key.isName []
  unfold Variable.mappingTypes? mappingText
  rw [List.append_assoc, after?_append]
  simpa using hread

/-- A variable of a canonical source has a getter. -/
theorem getter?_text {v : Variable} {type : VariableType} (h : v.type = type.text) :
    v.getter? = some (getterText id type v.isConstant v.name) := by
  cases type with
  | primitive p =>
    have hmapping : v.isMapping = false := by
      rw [Variable.isMapping, h]
      exact p.notMem_text.2.2
    unfold Variable.getter?
    simp only [hmapping, Bool.false_eq_true, if_false, h]
    cases v.isConstant <;> simp [getterText, getterEnd, getterMutability, VariableType.keyText,
      VariableType.result, VariableType.text, Text.cat, indent]
  | mapping key value =>
    have hmapping : v.isMapping = true := by
      rw [Variable.isMapping, h]
      rfl
    have htypes : Variable.mappingTypes? v.type = some (key.text, value.text) :=
      h ▸ mappingTypes?_text key value
    unfold Variable.getter?
    simp only [hmapping, if_true, htypes, Option.map_some]
    cases v.isConstant <;> simp [getterText, getterEnd, getterMutability, VariableType.keyText,
      VariableType.result, Text.cat, indent]

end SolInterface.Canonical
