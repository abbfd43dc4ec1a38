import SolInterface.Markup.Render
import SolInterface.Proofs.Console

/-!
Which texts can be shown where markup is read. A text can be shown if all that it closes is open and
the styles of all that it opens can be looked up. What stands before a text makes no difference to
these, if it has no tags or closes those that it opens.
-/
namespace SolInterface.Markup
open Text
open Console (Fault)

/-! The pieces of a text. -/

theorem bracketed?_of_head_ne {t : Text} (h : t.head? ≠ some '[') : bracketed? t = none := by
  unfold bracketed?
  split
  · exact absurd rfl h
  · rfl

theorem length_of_bracketed? {t body rest : Text} (h : bracketed? t = some (body, rest)) :
    rest.length < t.length := by
  unfold bracketed? at h
  split at h
  · next c r =>
    dsimp only at h
    split at h
    · next rest' _ hdrop =>
      obtain ⟨-, rfl⟩ := Prod.mk.inj (Option.some.inj h)
      have hlength := congrArg List.length hdrop
      rw [List.length_drop, List.length_cons] at hlength
      simp only [List.length_cons]
      omega
    · cases h
  · cases h

/-- As many steps as there are characters are enough. -/
theorem piecesFrom_of_le {n m : Nat} {t : Text} (hn : t.length ≤ n) (hm : t.length ≤ m)
    (found : Text) : piecesFrom n found t = piecesFrom m found t := by
  induction n generalizing m found t with
  | zero =>
    rw [List.length_eq_zero_iff.1 (Nat.le_zero.1 hn)]
    cases m <;> rfl
  | succ n ih =>
    cases t with
    | nil => cases m <;> rfl
    | cons c r =>
      obtain ⟨m, rfl⟩ := Nat.exists_eq_add_one.2 (Nat.lt_of_lt_of_le (Nat.succ_pos _) hm)
      rw [List.length_cons] at hn hm
      rw [piecesFrom, piecesFrom]
      split
      · next body rest hbracketed =>
        have hlength := length_of_bracketed? hbracketed
        rw [List.length_drop, List.length_cons] at hlength
        have hn' : rest.length ≤ n := by omega
        have hm' : rest.length ≤ m := by omega
        rw [ih hn' hm']
      · exact ih (by omega) (by omega) _

/-- A character that is neither a bracket nor a backslash is text. -/
theorem piecesFrom_lead {lead : Text} (h : isTagless lead = true) (fuel : Nat) (found t : Text) :
    piecesFrom (lead.length + fuel) found (lead ++ t) =
      piecesFrom fuel (lead.reverse ++ found) t := by
  induction lead generalizing found with
  | nil => simp
  | cons c lead ih =>
    obtain ⟨hc, hlead⟩ := Bool.and_eq_true_iff.1 h
    have hne : c ≠ '[' ∧ c ≠ '\\' := by simpa using hc
    have hnone : bracketed? (c :: (lead ++ t)) = none :=
      bracketed?_of_head_ne (by simpa using hne.1)
    rw [show (c :: lead).length + fuel = lead.length + fuel + 1 by simp; omega, List.cons_append,
      piecesFrom]
    simp only [List.takeWhile_cons, beq_iff_eq, hne.2, if_false, List.length_nil, List.drop_zero,
      hnone]
    rw [ih hlead]
    simp

structure IsTagText (c : Char) (body : Text) : Prop where
  starts : startsTag c = true
  noBracket : (body.all fun d => d != '[' && d != ']') = true
  noEquals : ((c :: body).all (· != '=')) = true

theorem IsTagText.closing {c : Char} {body : Text} (h : IsTagText c body) :
    IsTagText '/' (c :: body) where
  starts := rfl
  noBracket := by
    have hc : c ≠ '[' ∧ c ≠ ']' := by
      constructor <;>
      · rintro rfl
        exact absurd h.starts (by decide)
    simpa [hc] using h.noBracket
  noEquals := h.noEquals

theorem IsTagText.bracketed? {c : Char} {body : Text} (h : IsTagText c body) (rest : Text) :
    Markup.bracketed? ('[' :: c :: (body ++ ']' :: rest)) = some (c :: body, rest) := by
  have htake : (body ++ ']' :: rest).takeWhile (fun d => d != '[' && d != ']') = body :=
    takeWhile_run (fun d hd => List.all_eq_true.1 h.noBracket d hd) (by simp)
  simp [Markup.bracketed?, htake, h.starts]

theorem IsTagText.ofText {c : Char} {body : Text} (h : IsTagText c body) :
    Tag.ofText (c :: body) = ⟨c :: body, none⟩ := by
  have hequals : '=' ∉ c :: body := fun hmem =>
    absurd (List.all_eq_true.1 h.noEquals _ hmem) (by decide)
  rw [Tag.ofText, dropWhile_ne_self hequals]

theorem IsTagText.piecesFrom {c : Char} {body : Text} (h : IsTagText c body) (fuel : Nat)
    (found rest : Text) :
    Markup.piecesFrom (fuel + 1) found ('[' :: c :: (body ++ ']' :: rest)) =
      textPiece found ++ .tag ⟨c :: body, none⟩ :: Markup.piecesFrom fuel [] rest := by
  rw [Markup.piecesFrom]
  simp [h.bracketed?, escapedTag, h.ofText]

/-! What is opened. -/

/-- The tags that the pieces open, where all that they close is open. -/
def openedBy (s : State) (pieces : List Piece) : Except Fault (List Tag) :=
  (pieces.foldlM step s).map (·.opened)

/-- The state where another text has been shown, and other tags had been opened before. -/
def State.after (s : State) (shown : Text) (before : List Tag) : State :=
  { s with shown, opened := s.opened ++ before }

theorem close_after (s : State) (shown : Text) (before : List Tag) (name : Text) :
    close (s.after shown before) name = (close s name).map (·.after shown before) := by
  unfold close
  cases hname : name.isEmpty with
  | true =>
    simp only [State.after, if_true, bind, Except.bind, pure, Except.pure]
    cases s.isOpen.head? with
    | none => rfl
    | some tag => cases h : closeAction tag <;> simp [h, Except.map]
  | false =>
    cases normalName name with
    | error fault => rfl
    | ok wanted =>
      simp only [State.after, Bool.false_eq_true, if_false, bind, Except.bind, pure, Except.pure]
      cases s.isOpen.find? fun tag => tag.name == wanted with
      | none => rfl
      | some tag => cases h : closeAction tag <;> simp [h, Except.map]

theorem step_tag_after (s : State) (shown : Text) (before : List Tag) (tag : Tag) :
    step (s.after shown before) (.tag tag) =
      (step s (.tag tag)).map (·.after shown before) := by
  unfold step
  dsimp only
  split
  · exact close_after s shown before _
  · cases normalName tag.name <;> rfl

/-- What came before has no part in what is opened from there on. -/
theorem openedBy_after (s : State) (shown : Text) (before : List Tag) (pieces : List Piece) :
    openedBy (s.after shown before) pieces = (openedBy s pieces).map (· ++ before) := by
  unfold openedBy
  induction pieces generalizing s shown before with
  | nil => rfl
  | cons piece pieces ih =>
    rw [List.foldlM_cons, List.foldlM_cons]
    cases piece with
    | text t =>
      exact ih { s with shown := s.shown ++ withEmoji (unescape t) } _ before
    | tag tag =>
      rw [step_tag_after]
      cases step s (.tag tag) with
      | error fault => rfl
      | ok s' => exact ih s' shown before

theorem openedBy_shown (s : State) (shown : Text) (pieces : List Piece) :
    openedBy { s with shown } pieces = openedBy s pieces := by
  have hafter := openedBy_after s shown [] pieces
  rw [State.after, List.append_nil] at hafter
  rw [hafter]
  cases openedBy s pieces <;> simp [Except.map]

theorem openedBy_textPiece (s : State) (found : Text) (pieces : List Piece) :
    openedBy s (textPiece found ++ pieces) = openedBy s pieces := by
  unfold textPiece
  split
  · rfl
  · exact openedBy_shown s _ pieces

theorem openedBy_piecesFrom (fuel : Nat) (s : State) (found t : Text) :
    openedBy s (piecesFrom fuel found t) = openedBy s (piecesFrom fuel [] t) := by
  have hfound : ∀ found, openedBy s (textPiece found) = openedBy s [] := fun found => by
    simpa using openedBy_textPiece s found []
  induction fuel generalizing found t with
  | zero => exact (hfound found).trans (hfound []).symm
  | succ fuel ih =>
    cases t with
    | nil => exact (hfound found).trans (hfound []).symm
    | cons c r =>
      unfold piecesFrom
      dsimp only
      split
      · rw [List.append_assoc, List.append_assoc, openedBy_textPiece, openedBy_textPiece]
      · rw [ih (c :: found), ih [c]]

theorem openedBy_of_not_mem {t : Text} (h : '[' ∉ t) (fuel : Nat) (s : State) (found : Text) :
    openedBy s (piecesFrom fuel found t) = .ok s.opened := by
  have hfound : ∀ found, openedBy s (textPiece found) = .ok s.opened := fun found =>
    (List.append_nil (textPiece found)).symm ▸ openedBy_textPiece s found []
  induction fuel generalizing found t with
  | zero => exact hfound found
  | succ fuel ih =>
    cases t with
    | nil => exact hfound found
    | cons c r =>
      have hdrop : ((c :: r).drop ((c :: r).takeWhile (· == '\\')).length).head? ≠ some '[' :=
        fun hhead => h (List.mem_of_mem_drop (List.mem_of_mem_head? hhead))
      rw [piecesFrom]
      simp only [bracketed?_of_head_ne hdrop]
      exact ih (fun hmem => h (List.mem_cons_of_mem _ hmem)) _

theorem openedBy_append {lead : Text} (h : isTagless lead = true) (s : State) (t : Text) :
    openedBy s (piecesOf (lead ++ t)) = openedBy s (piecesOf t) := by
  rw [piecesOf, piecesOf, List.length_append, Nat.add_assoc, piecesFrom_lead h,
    openedBy_piecesFrom]

/-! Styles. -/

/-- A colour is looked up without a fault unless it is given by its parts. -/
theorem exists_isColour {word : Text} (h : between? "rgb(" word = none) :
    ∃ b, isColour word = .ok b := by
  unfold isColour
  split
  · exact ⟨_, rfl⟩
  · split
    · exact ⟨_, rfl⟩
    · rw [h]
      cases between? "color(" word with
      | none => exact ⟨_, rfl⟩
      | some digits => exact ⟨_, rfl⟩

/-- A single word in small letters that is neither an attribute nor a word with a meaning of its
own. It may be a colour. -/
@[mk_iff isBareWord_iff]
structure IsBareWord (word : Text) : Prop where
  alone : words word = [word]
  trimmed : trim word = word
  small : lower word = word
  notNone : (word == "none".toList) = false
  notOn : (word == "on".toList) = false
  notNot : (word == "not".toList) = false
  notLink : (word == "link".toList) = false
  noAttribute : attributes.lookup word = none
  noParts : between? "rgb(" word = none

namespace IsBareWord

variable {word : Text}

theorem style?_eq (h : IsBareWord word) :
    style? word = .ok none ∨ style? word = .ok (some { colour := some word }) := by
  obtain ⟨b, hb⟩ := exists_isColour h.noParts
  unfold style?
  rw [h.trimmed, h.notNone, h.alone]
  simp only [styleFrom, h.small, h.notOn, h.notNot, h.notLink, h.noAttribute, hb, bind,
    Except.bind, Bool.false_eq_true, if_false]
  cases b with
  | false => exact Or.inl rfl
  | true => exact Or.inr rfl

theorem normalName_eq (h : IsBareWord word) : normalName word = .ok word := by
  unfold normalName
  rcases h.style?_eq with hnone | hcolour
  · rw [hnone]
    simp [bind, Except.bind, pure, Except.pure, h.trimmed, h.small]
  · rw [hcolour]
    simp [bind, Except.bind, pure, Except.pure, Style.text, joinWith, attributeOrder,
      List.intercalate]

theorem checkStyle_eq (h : IsBareWord word) : checkStyle ⟨word, none⟩ = .ok () := by
  unfold checkStyle Tag.text
  rcases h.style?_eq with hnone | hcolour
  · rw [hnone]
    rfl
  · rw [hcolour]
    rfl

end IsBareWord

structure IsTagName (c : Char) (body : Text) : Prop extends IsTagText c body where
  opens : c ≠ '/'
  trimmed : trim (c :: body) = c :: body
  normal : normalName (c :: body) = .ok (c :: body)
  style : checkStyle ⟨c :: body, none⟩ = .ok ()

namespace IsTagName

variable {c : Char} {body : Text}

theorem step_open (h : IsTagName c body) (s : State) :
    step s (.tag ⟨c :: body, none⟩) = .ok { s with
      isOpen := ⟨c :: body, none⟩ :: s.isOpen, opened := ⟨c :: body, none⟩ :: s.opened } := by
  unfold step
  dsimp only
  split
  · next hslash => exact absurd (List.cons.inj hslash).1 h.opens
  · rw [h.normal]
    rfl

theorem step_close (h : IsTagName c body) {s : State} {more : List Tag}
    (hs : s.isOpen = ⟨c :: body, none⟩ :: more) :
    step s (.tag ⟨'/' :: c :: body, none⟩) = .ok { s with isOpen := more } := by
  have haction : closeAction ⟨c :: body, none⟩ = .ok () := by
    unfold closeAction
    split
    · next hparameters => cases hparameters
    · rfl
  simp [step, close, h.trimmed, h.normal, hs, haction, bind, Except.bind, pure, Except.pure]

theorem openedBy_open (h : IsTagName c body) (t : Text) :
    openedBy {} (piecesOf ('[' :: c :: (body ++ ']' :: t))) =
      openedBy { isOpen := [⟨c :: body, none⟩], opened := [⟨c :: body, none⟩] } (piecesOf t) := by
  have hfuel : t.length ≤ ('[' :: c :: (body ++ ']' :: t)).length := by
    simp only [List.length_cons, List.length_append]
    omega
  rw [piecesOf, h.piecesFrom, piecesFrom_of_le hfuel (Nat.le_succ _), ← piecesOf]
  change openedBy {} (.tag ⟨c :: body, none⟩ :: _) = _
  rw [openedBy, List.foldlM_cons, h.step_open]
  rfl

/-- A text between the tags of the name opens the one, and leaves none open. -/
theorem openedBy_between (h : IsTagName c body) {lead : Text} (hlead : isTagless lead = true)
    (t : Text) :
    openedBy {} (piecesOf
        ('[' :: c :: (body ++ ']' :: (lead ++ '[' :: '/' :: c :: (body ++ ']' :: t))))) =
      (openedBy {} (piecesOf t)).map (· ++ [⟨c :: body, none⟩]) := by
  have hfuel : t.length ≤ ('[' :: '/' :: c :: (body ++ ']' :: t)).length := by
    simp only [List.length_cons, List.length_append]
    omega
  rw [h.openedBy_open, openedBy_append hlead, piecesOf]
  have hpieces := h.closing.piecesFrom ('[' :: '/' :: c :: (body ++ ']' :: t)).length [] t
  rw [List.cons_append] at hpieces
  rw [hpieces, piecesFrom_of_le hfuel (Nat.le_succ _), ← piecesOf]
  change openedBy _ (.tag ⟨'/' :: c :: body, none⟩ :: _) = _
  rw [openedBy, List.foldlM_cons, h.step_close rfl]
  exact openedBy_after {} [] [⟨c :: body, none⟩] (piecesOf t)

end IsTagName

theorem IsBareWord.isTagName {c : Char} {body : Text} (h : IsBareWord (c :: body))
    (htext : IsTagText c body) (hopens : c ≠ '/') : IsTagName c body where
  toIsTagText := htext
  opens := hopens
  trimmed := h.trimmed
  normal := h.normalName_eq
  style := h.checkStyle_eq

theorem exists_isTagName (s : Console.Style) :
    ∃ c body, s.name = c :: body ∧ IsTagName c body := by
  cases s with
  | red => exact ⟨'r', "ed".toList, rfl, ((isBareWord_iff _).2 (by decide)).isTagName
      ⟨by decide, by decide, by decide⟩ (by decide)⟩
  | green => exact ⟨'g', "reen".toList, rfl, ((isBareWord_iff _).2 (by decide)).isTagName
      ⟨by decide, by decide, by decide⟩ (by decide)⟩
  | yellow => exact ⟨'y', "ellow".toList, rfl, ((isBareWord_iff _).2 (by decide)).isTagName
      ⟨by decide, by decide, by decide⟩ (by decide)⟩
  | blue => exact ⟨'b', "lue".toList, rfl, ((isBareWord_iff _).2 (by decide)).isTagName
      ⟨by decide, by decide, by decide⟩ (by decide)⟩
  | bold => exact ⟨'b', "old".toList, rfl, ⟨by decide, by decide, by decide⟩, by decide, by decide,
      rfl, rfl⟩

/-! What can be shown. -/

theorem shows_iff {t : Text} :
    console.Shows t ↔
      (openedBy {} (piecesOf t) >>= fun opened => opened.forM checkStyle) = .ok () := by
  change (∃ shown, render t = .ok shown) ↔ _
  unfold render plain
  by_cases h : '[' ∈ t
  · rw [List.contains_eq_mem, decide_eq_true h]
    unfold openedBy
    cases (piecesOf t).foldlM step {} with
    | error fault => simp [bind, Except.bind, Except.map]
    | ok s =>
      cases hstyles : s.opened.forM checkStyle with
      | error fault => simp [bind, Except.bind, Except.map, hstyles]
      | ok _ => simp [bind, Except.bind, Except.map, pure, Except.pure, hstyles]
  · rw [List.contains_eq_mem, decide_eq_false h, piecesOf, openedBy_of_not_mem h]
    exact iff_of_true ⟨_, rfl⟩ rfl

theorem shows_tagged_append {c : Char} {body : Text} (h : IsTagName c body) {lead : Text}
    (hlead : isTagless lead = true) (t : Text) :
    console.Shows ('[' :: c :: (body ++ ']' :: (lead ++ '[' :: '/' :: c :: (body ++ ']' :: t)))) ↔
      console.Shows t := by
  rw [shows_iff, shows_iff, h.openedBy_between hlead]
  cases openedBy {} (piecesOf t) with
  | error fault => exact Iff.rfl
  | ok opened =>
    have hlast : ([⟨c :: body, none⟩] : List Tag).forM checkStyle = .ok () := by
      simp [List.forM, h.style, bind, Except.bind, pure, Except.pure]
    change (opened ++ ([⟨c :: body, none⟩] : List Tag)).forM checkStyle = .ok () ↔
      opened.forM checkStyle = .ok ()
    rw [show (opened ++ ([⟨c :: body, none⟩] : List Tag)).forM checkStyle =
      (opened.forM checkStyle >>= fun _ => ([⟨c :: body, none⟩] : List Tag).forM checkStyle) from
      List.forM_append, hlast]
    cases opened.forM checkStyle <;> simp [bind, Except.bind]

/-- A tag with a name before a text without tags. -/
theorem shows_open {c : Char} {body t : Text} (h : IsTagName c body) (ht : '[' ∉ t) :
    console.Shows ('[' :: c :: (body ++ ']' :: t)) := by
  rw [shows_iff, h.openedBy_open, piecesOf, openedBy_of_not_mem ht]
  simp [List.forM, h.style, bind, Except.bind, pure, Except.pure]

/-- A description that can be shown can be shown beside the mark of progress. -/
theorem exists_progress {t : Text} (h : console.Shows t) (finished : Bool) :
    ∃ lines, console.progress finished t = .ok lines := by
  obtain ⟨shown, h⟩ := h
  change render t = .ok shown at h
  change ∃ lines, progressLines finished t = .ok lines
  unfold render at h
  unfold progressLines columnLines
  cases hplain : plain t with
  | error fault =>
    rw [hplain] at h
    cases h
  | ok text => exact ⟨_, rfl⟩

theorem isLawful_console : console.IsLawful where
  shows_nil := shows_iff.2 rfl
  shows_append hlead t := by rw [shows_iff, shows_iff, openedBy_append hlead]
  shows_tagged_append s lead hlead t := by
    obtain ⟨c, body, hname, htag⟩ := exists_isTagName s
    have htext : s.tagged lead ++ t =
        '[' :: c :: (body ++ ']' :: (lead ++ '[' :: '/' :: c :: (body ++ ']' :: t))) := by
      simp [Console.Style.tagged, hname, cat]
    rw [htext]
    exact shows_tagged_append htag hlead t

end SolInterface.Markup
