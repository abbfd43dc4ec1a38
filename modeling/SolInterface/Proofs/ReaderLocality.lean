import SolInterface.Proofs.Locality
import SolInterface.Source.Header

/-!
The readers of declarations look no further than what they find. The heads of contracts and of
functions are given again together with the text that is left behind them.
-/
namespace SolInterface
open Text

theorem Notice.local_read? (keyword : Text) (b : Bool) : Local (Notice.read? keyword b) := by
  cases b with
  | true => exact Local.none
  | false =>
    exact Local.after keyword <| Local.blanks <| Local.word fun name => Local.skip <|
      Local.parenthesised fun params => Local.skip <| Local.closing (c := ';') rfl (name, params)

namespace Variable

/-- A step that `stem` leads, seen from a text that starts with it. -/
def SteadyAfter (stem : Text) (step : Text → Option (Text × Text)) : Prop :=
  ∀ {t type r}, step t = some (type, r) →
    ∃ w, t = stem ++ (w ++ r) ∧
      ∀ r' : Text, r'.head? = r.head? → step (stem ++ (w ++ r')) = some (type, r')

theorem steady_sized? (stem : Text) : SteadyAfter stem (sized? stem) := by
  intro t type r h
  simp only [sized?, Option.bind_eq_bind, Option.bind_eq_some_iff, Option.some.injEq,
    Prod.mk.injEq] at h
  obtain ⟨more, hmore, rfl, rfl⟩ := h
  have hdigits : ∀ c ∈ more.takeWhile isDigit, isDigit c := fun c hc => List.mem_takeWhile_imp hc
  refine ⟨more.takeWhile isDigit, ?_, fun r' hhead => ?_⟩
  · rw [after?_eq_some.1 hmore, List.takeWhile_append_dropWhile]
  · have hstop : Stops isDigit r' := stops_of_head? hhead (stops_dropWhile _ _)
    simp [sized?, takeWhile_run hdigits hstop, dropWhile_run hdigits hstop]

theorem steady_plain? (name : Text) : SteadyAfter name (plain? name) := by
  intro t type r h
  simp only [plain?, Option.map_eq_some_iff, Prod.mk.injEq] at h
  obtain ⟨more, hmore, rfl, rfl⟩ := h
  exact ⟨[], after?_eq_some.1 hmore, fun r' _ => by simp [plain?]⟩

theorem steady_mapping? : SteadyAfter "mapping" mapping? := by
  intro t type r h
  simp only [mapping?, Option.bind_eq_bind, Option.bind_eq_some_iff] at h
  obtain ⟨more, hmore, ⟨inside, rest⟩, hparen, hfound⟩ := h
  obtain ⟨rfl, hinside⟩ := parenthesised?_eq_some.1 hparen
  dsimp only at hfound
  split at hfound
  · cases hfound
  · next hne =>
    obtain ⟨rfl, rfl⟩ := Prod.mk.inj (Option.some.inj hfound)
    refine ⟨'(' :: (inside ++ [')']), ?_, fun r' _ => ?_⟩
    · rw [after?_eq_some.1 hmore, List.cons_append, List.append_assoc, List.singleton_append]
    · rw [List.cons_append, List.append_assoc, List.singleton_append, mapping?, after?_append]
      simp only [Option.bind_eq_bind, Option.bind_some, parenthesised?_append r' hinside]
      rw [if_neg hne]

theorem steady_type? : Steady type? := by
  intro t type r h
  have hlead : ∀ {stem step}, SteadyAfter stem step → (∀ u, type? (stem ++ u) = step (stem ++ u)) →
      step t = some (type, r) →
      ∃ m, t = m ++ r ∧ ∀ r' : Text, r'.head? = r.head? → type? (m ++ r') = some (type, r') := by
    intro stem step hsteady heq hstep
    obtain ⟨w, rfl, hw⟩ := hsteady hstep
    refine ⟨stem ++ w, by rw [List.append_assoc], fun r' hhead => ?_⟩
    rw [List.append_assoc, heq, hw r' hhead]
  simp only [type?, Option.orElse_eq_orElse, Option.orElse_eq_or, Option.or_eq_some_iff] at h
  rcases h with h | ⟨-, h | ⟨-, h | ⟨-, h | ⟨-, h | ⟨-, h | ⟨-, h⟩⟩⟩⟩⟩⟩
  · exact hlead (steady_sized? "uint") (fun _ => rfl) h
  · exact hlead (steady_sized? "int") (fun _ => rfl) h
  · exact hlead (steady_plain? "string") (fun _ => rfl) h
  · exact hlead (steady_plain? "address") (fun _ => rfl) h
  · exact hlead (steady_plain? "bool") (fun _ => rfl) h
  · exact hlead (steady_sized? "bytes") (fun _ => rfl) h
  · exact hlead steady_mapping? (fun _ => rfl) h

theorem named?_eq (t : Text) :
    named? t = (word? t).bind fun found =>
      ((after? ['='] (skipBlanks found.2)).bind fun rest => some (found.1, rest)) <|>
        ((after? [';'] (skipBlanks found.2)).bind fun rest => some (found.1, rest)) := by
  rw [named?]
  cases word? t with
  | none => rfl
  | some found =>
    cases hend : skipBlanks found.2 with
    | nil => simp [hend, after?]
    | cons c more =>
      by_cases heq : c = '='
      · simp [hend, after?, heq]
      · by_cases hsemi : c = ';'
        · simp [hend, after?, hsemi]
        · simp [hend, after?, heq, hsemi, Ne.symm heq, Ne.symm hsemi]

theorem local_named? : Local named? := by
  rw [funext named?_eq]
  exact Local.word fun name =>
    Local.skip ((Local.closing (c := '=') rfl name).orElse (Local.closing (c := ';') rfl name))

theorem constantNamed?_eq (t : Text) :
    constantNamed? t =
      (((oneOf? constancies t).bind fun found =>
        (named? (skipBlanks found.2)).map fun named => ((true, named.1), named.2)) <|>
      (named? t).map fun named => ((false, named.1), named.2)) := by
  unfold constantNamed?
  cases oneOf? constancies t <;> rfl

theorem local_constantNamed? : Local constantNamed? := by
  rw [funext constantNamed?_eq]
  exact (Local.keyword (by decide) fun _ => (local_named?.map _).skip).orElse (local_named?.map _)

def Parts.afterType? (type t : Text) : Option (Parts × Text) :=
  ((oneOf? visibilities t).bind fun found => (constantNamed? (skipBlanks found.2)).map
    fun named => (Parts.mk type (some found.1) named.1.1 named.1.2, named.2)) <|>
  (constantNamed? t).map fun named => (Parts.mk type none named.1.1 named.1.2, named.2)

theorem Parts.read?_eq (t : Text) :
    Parts.read? false t =
      (type? t).bind fun typed => (blanks? typed.2).bind (Parts.afterType? typed.1) := by
  simp only [Parts.read?, Bool.false_eq_true, if_false, Option.bind_eq_bind]
  congr 1
  funext typed
  congr 1
  funext rest
  unfold Parts.afterType?
  cases oneOf? visibilities rest <;> rfl

theorem Parts.local_afterType? (type : Text) : Local (Parts.afterType? type) := by
  have hvisible : ∀ v : Visibility, Local fun t => (constantNamed? (skipBlanks t)).map
      fun named => (Parts.mk type (some v) named.1.1 named.1.2, named.2) := fun v =>
    (local_constantNamed?.map fun named => Parts.mk type (some v) named.1 named.2).skip
  exact (Local.keyword (by decide) hvisible).orElse
    (local_constantNamed?.map fun named => Parts.mk type none named.1 named.2)

theorem Parts.local_read? (b : Bool) : Local (Parts.read? b) := by
  cases b with
  | true => exact Local.none
  | false =>
    rw [funext Parts.read?_eq]
    exact Local.after_step steady_type? fun type => Local.blanks (Parts.local_afterType? type)

end Variable

/-! The head of a contract, with the text behind it. -/

namespace Contract

def upToBrace? (t : Text) : Option (Text × Text) :=
  match t.dropWhile (· != '{') with
  | _ :: rest => some (t.takeWhile (· != '{'), rest)
  | [] => none

def bases? : Text → Option Text
  | c :: d :: more => if isBlank c then some (trim (c :: d :: more)) else none
  | _ => none

def baseListFind? (t : Text) : Option (Text × Text) :=
  (after? "is" t).bind fun rest => (upToBrace? rest).bind fun found =>
    (bases? found.1).map fun bases => (bases, found.2)

def headEndFind? (name t : Text) : Option ((Text × Text) × Text) :=
  ((after? ['{'] (skipBlanks t)).bind fun rest => some ((name, []), rest)) <|>
    (blanks? t).bind fun other => (baseListFind? other).map fun found => ((name, found.1), found.2)

def headFind? (t : Text) : Option ((Text × Text) × Text) :=
  (after? "contract" t).bind fun rest => (blanks? rest).bind fun rest => (word? rest).bind
    fun named => headEndFind? named.1 named.2

theorem upToBrace?_eq_some {t body rest : Text} :
    upToBrace? t = some (body, rest) ↔ t = body ++ '{' :: rest ∧ '{' ∉ body := by
  by_cases hmem : '{' ∈ t
  · obtain ⟨u, v, rfl, hu⟩ := List.eq_append_cons_of_mem hmem
    rw [upToBrace?, dropWhile_ne hu, takeWhile_ne hu]
    constructor
    · rintro h
      obtain ⟨rfl, rfl⟩ := Prod.mk.inj (Option.some.inj h)
      exact ⟨rfl, hu⟩
    · rintro ⟨h, hbody⟩
      have htake := congrArg (List.takeWhile (· != '{')) h
      have hdrop := congrArg (List.dropWhile (· != '{')) h
      rw [takeWhile_ne hu, takeWhile_ne hbody] at htake
      rw [dropWhile_ne hu, dropWhile_ne hbody] at hdrop
      rw [htake, (List.cons.inj hdrop).2]
  · rw [upToBrace?, dropWhile_ne_self hmem]
    constructor
    · rintro ⟨⟩
    · rintro ⟨rfl, -⟩
      simp at hmem

theorem local_upToBrace {α : Type} (f : Text → Option α) :
    Local fun t => (upToBrace? t).bind fun found => (f found.1).map fun a => (a, found.2) where
  split {t a rest} h := by
    obtain ⟨⟨body, rest'⟩, hfound, ha⟩ := Option.bind_eq_some_iff.1 h
    obtain ⟨_, -, he⟩ := Option.map_eq_some_iff.1 ha
    obtain ⟨-, rfl⟩ := Prod.mk.inj he
    obtain ⟨rfl, -⟩ := upToBrace?_eq_some.1 hfound
    exact ⟨body ++ ['{'], by simp, '{', by simp, rfl⟩
  persists m x y a h := by
    obtain ⟨⟨body, rest'⟩, hfound, ha⟩ := Option.bind_eq_some_iff.1 h
    obtain ⟨_, hf, he⟩ := Option.map_eq_some_iff.1 ha
    obtain ⟨rfl, rfl⟩ := Prod.mk.inj he
    obtain ⟨hm, hbody⟩ := upToBrace?_eq_some.1 hfound
    obtain rfl : m = body ++ ['{'] := List.append_cancel_right (hm.trans (by simp))
    have hfound' : upToBrace? (body ++ ['{'] ++ y) = some (body, y) :=
      upToBrace?_eq_some.2 ⟨by simp, hbody⟩
    exact ⟨_, [], y, rfl, by simp only [hfound', Option.bind_some, hf, Option.map_some],
      fun _ => rfl⟩

theorem local_headFind? : Local headFind? := by
  have hbases : Local baseListFind? := (local_upToBrace bases?).after "is"
  have hend : ∀ name, Local (headEndFind? name) := fun name =>
    (Local.closing (c := '{') rfl (name, [])).skip.orElse
      (hbases.map fun bases => (name, bases)).blanks
  exact (Local.word hend).blanks.after "contract"

theorem baseList?_eq (t : Text) : baseList? t = (baseListFind? t).map Prod.fst := by
  unfold baseList? baseListFind?
  cases after? "is" t with
  | none => rfl
  | some rest =>
    simp only [Option.bind_eq_bind, Option.bind_some, upToBrace?]
    cases rest.dropWhile (· != '{') with
    | nil => simp
    | cons d left =>
      rcases rest.takeWhile (· != '{') with _ | ⟨c, _ | ⟨d, more⟩⟩
      · rfl
      · rfl
      · cases hc : isBlank c <;> simp [bases?, hc]

theorem eq_skipBlanks_of_blanks? {t rest : Text} (h : blanks? t = some rest) :
    rest = skipBlanks t := by
  obtain ⟨gap, rfl, -, hblank, hstop⟩ := blanks?_eq_some.1 h
  rw [skipBlanks_append hblank, skipBlanks_of_stops hstop]

theorem head?_eq (t : Text) : head? t = (headFind? t).map Prod.fst := by
  simp only [head?, headFind?, Option.bind_eq_bind, Option.map_bind, Function.comp_def]
  congr 1
  funext rest
  congr 1
  funext rest
  congr 1
  funext named
  obtain ⟨name, rest⟩ := named
  dsimp only
  split
  · next hbrace => simp [headEndFind?, hbrace, after?]
  · next hno =>
    have hnone : after? ['{'] (skipBlanks rest) = none := by
      cases hskip : skipBlanks rest with
      | nil => rfl
      | cons c more =>
        have hc : c ≠ '{' := by
          rintro rfl
          exact hno more hskip
        rw [after?, if_neg (Ne.symm hc)]
    cases hblanks : blanks? rest with
    | none => simp [headEndFind?, hnone, hblanks]
    | some other =>
      obtain rfl := eq_skipBlanks_of_blanks? hblanks
      simp [headEndFind?, hnone, hblanks, baseList?_eq, Function.comp_def]

end Contract

/-! The head of a function, with the text behind it. -/

namespace Function

def returnsFind? (t : Text) : Option (Text × Text) :=
  (after? "returns" t).bind fun rest => (parenthesised? (skipBlanks rest)).bind fun found =>
    (after? ['{'] (skipBlanks found.2)).bind fun rest => some (found.1, rest)

def bodyFind? (t : Text) : Option (Text × Text) :=
  (after? ['{'] (skipBlanks t)).bind fun rest => some ([], rest)

def endingFind? : Text → Option (Text × Text)
  | [] => none
  | c :: r =>
    returnsFind? (c :: r) <|> bodyFind? (c :: r) <|> if isFiller c then endingFind? r else none

def fillerFind? : Text → Option (Text × Text)
  | [] => none
  | c :: r => if isFiller c then endingFind? r else none

def specifiedFind? (t : Text) : Option ((Option Mutability × Text) × Text) :=
  ((oneOf? mutabilities t).bind fun found => (endingFind? (skipBlanks found.2)).map
    fun ended => ((some found.1, ended.1), ended.2)) <|>
  (endingFind? t).map fun ended => ((none, ended.1), ended.2)

def visibleFind? (t : Text) : Option ((Option Visibility × Option Mutability × Text) × Text) :=
  (oneOf? visibilities t).elim
    ((specifiedFind? t).map fun more => ((none, more.1), more.2)) fun found =>
      (specifiedFind? (skipBlanks found.2)).map fun more => ((some found.1, more.1), more.2)

def Head.find? (t : Text) : Option (Head × Text) :=
  (after? "function" t).bind fun rest => (blanks? rest).bind fun rest => (word? rest).bind
    fun named => (parenthesised? (skipBlanks named.2)).bind fun found =>
      (visibleFind? (skipBlanks found.2)).map fun more =>
        (⟨named.1, trim found.1, more.1.1, more.1.2.1, trim more.1.2.2⟩, more.2)

theorem local_returnsFind? : Local returnsFind? :=
  Local.after "returns" <| Local.skip <| Local.parenthesised fun types =>
    (Local.closing (c := '{') rfl types).skip

theorem local_bodyFind? : Local bodyFind? := (Local.closing (c := '{') rfl []).skip

theorem endingFind?_eq (t : Text) :
    endingFind? t = (returnsFind? t <|> (bodyFind? t <|> fillerFind? t)) := by
  cases t <;> rfl

theorem split_endingFind? {t types rest : Text} (h : endingFind? t = some (types, rest)) :
    ∃ m : Text, t = m ++ rest ∧ ∃ c ∈ m, isPlain c = false := by
  induction t with
  | nil => cases h
  | cons c t ih =>
    simp only [endingFind?_eq, Option.orElse_eq_orElse, Option.orElse_eq_or,
      Option.or_eq_some_iff] at h
    rcases h with h | ⟨-, h | ⟨-, h⟩⟩
    · exact local_returnsFind?.split h
    · exact local_bodyFind?.split h
    · rw [fillerFind?] at h
      split at h
      · obtain ⟨m, rfl, d, hd, hmark⟩ := ih h
        exact ⟨c :: m, rfl, d, List.mem_cons_of_mem c hd, hmark⟩
      · cases h

theorem persists_endingFind? (m : Text) : Persists endingFind? m := by
  induction m with
  | nil =>
    intro x y types h
    obtain ⟨m, hm, hmark⟩ := split_endingFind? h
    exact absurd (List.self_eq_append_left.1 hm) (Local.ne_nil_of_mark hmark)
  | cons c m ih =>
    have hfiller : Persists fillerFind? (c :: m) := by
      intro x y types h
      rw [List.cons_append, fillerFind?] at h ⊢
      split at h
      · next hc =>
        rw [if_pos hc]
        exact ih x y types h
      · cases h
    rw [funext endingFind?_eq]
    exact Persists.orElse local_returnsFind? (Persists.orElse local_bodyFind? hfiller)

theorem local_endingFind? : Local endingFind? := ⟨split_endingFind?, persists_endingFind?⟩

theorem local_specifiedFind? : Local specifiedFind? := by
  have hmutable : ∀ m : Mutability, Local fun t => (endingFind? (skipBlanks t)).map
      fun ended => ((some m, ended.1), ended.2) := fun m =>
    (local_endingFind?.map fun types => (some m, types)).skip
  exact (Local.keyword (by decide) hmutable).orElse
    (local_endingFind?.map fun types => (none, types))

theorem local_visibleFind? : Local visibleFind? := by
  have hvisible : ∀ v : Visibility, Local fun t => (specifiedFind? (skipBlanks t)).map
      fun more => ((some v, more.1), more.2) := fun v =>
    (local_specifiedFind?.map fun more => (some v, more)).skip
  have hplain : ∀ o ∈ visibilities, ∀ c ∈ o.1, isPlain c = true := by decide
  exact Local.commit hplain hvisible (local_specifiedFind?.map fun more => (none, more))

theorem Head.local_find? : Local Head.find? := by
  have hmore : ∀ name parameters : Text, Local fun t => (visibleFind? (skipBlanks t)).map
      fun more => (Head.mk name (trim parameters) more.1.1 more.1.2.1 (trim more.1.2.2), more.2) :=
    fun name parameters => (local_visibleFind?.map fun more =>
      Head.mk name (trim parameters) more.1 more.2.1 (trim more.2.2)).skip
  exact Local.after "function" <| Local.blanks <| Local.word fun name =>
    Local.skip <| Local.parenthesised (hmore name)

theorem returnsBrace?_eq (t : Text) : returnsBrace? t = (returnsFind? t).map Prod.fst := by
  simp only [returnsBrace?, returnsFind?, Option.bind_eq_bind, Option.map_bind, Function.comp_def]
  congr 1
  funext rest
  congr 1
  funext found
  simp only [startsWith, isPrefixOf_eq_isSome]
  cases after? ['{'] (skipBlanks found.2) <;> rfl

theorem ending?_eq (t : Text) : ending? t = (endingFind? t).map Prod.fst := by
  induction t with
  | nil => rfl
  | cons c t ih =>
    rw [ending?, endingFind?, returnsBrace?_eq]
    cases returnsFind? (c :: t) with
    | some found => rfl
    | none =>
      simp only [startsWith, isPrefixOf_eq_isSome, bodyFind?]
      cases after? ['{'] (skipBlanks (c :: t)) with
      | some rest => rfl
      | none =>
        cases hc : isFiller c with
        | true => exact ih
        | false => rfl

theorem specified?_eq (t : Text) : specified? t = (specifiedFind? t).map Prod.fst := by
  simp only [specified?, specifiedFind?, ending?_eq]
  cases oneOf? mutabilities t with
  | none => simp [Function.comp_def]
  | some found =>
    simp only [Option.bind_some]
    cases endingFind? (skipBlanks found.2) with
    | none => simp [Function.comp_def]
    | some ended => rfl

theorem Head.read?_eq (t : Text) : Head.read? t = (Head.find? t).map Prod.fst := by
  simp only [Head.read?, Head.find?, Option.bind_eq_bind, Option.map_bind, Function.comp_def]
  congr 1
  funext rest
  congr 1
  funext rest
  congr 1
  funext named
  congr 1
  funext found
  simp only [specified?_eq, visibleFind?]
  cases oneOf? visibilities (skipBlanks found.2) with
  | none => cases specifiedFind? (skipBlanks found.2) <;> rfl
  | some visible =>
    simp only [Option.elim_some]
    cases specifiedFind? (skipBlanks visible.2) <;> rfl

end Function
end SolInterface
