import SolInterface.Console
import SolInterface.Proofs.Text

/-!
Which texts a console can show. Of a console it is assumed only that messages can be shown: words
that hold nothing of a tag, and such words between the tags of a style, make no difference to the
text after them.
-/
namespace SolInterface

namespace Text

/-- No bracket and no backslash, and so nothing of a tag. -/
def isTagless (t : Text) : Bool := t.all fun c => c != '[' && c != '\\'

@[simp] theorem isTagless_append (s t : Text) : isTagless (s ++ t) = (isTagless s && isTagless t) :=
  List.all_append

theorem isTagless_ofNat (n : Nat) : isTagless (ofNat n) = true := by
  refine List.all_eq_true.2 fun c hc => ?_
  have hdigit : c.isDigit = true := Nat.isDigit_of_mem_toDigits (by decide) (by decide) hc
  by_cases hbracket : c = '['
  · subst hbracket
    exact absurd hdigit (by decide)
  · by_cases hbackslash : c = '\\'
    · subst hbackslash
      exact absurd hdigit (by decide)
    · simp [hbracket, hbackslash]

theorem isTagless_ofInt (n : Int) : isTagless (ofInt n) = true := by
  cases n with
  | ofNat n => exact isTagless_ofNat n
  | negSucc n => exact isTagless_ofNat (n + 1)

theorem isTagless_cat {parts : List Text} (h : ∀ part ∈ parts, isTagless part = true) :
    isTagless (cat parts) = true := by
  induction parts with
  | nil => rfl
  | cons part parts ih =>
    obtain ⟨hpart, hparts⟩ := List.forall_mem_cons.1 h
    rw [cat, List.flatten_cons, isTagless_append, hpart]
    exact ih hparts

end Text

namespace Console
open Text

def Shows (console : Console) (t : Text) : Prop := ∃ shown, console.render t = .ok shown

/-- What the messages of a batch take for granted. -/
structure IsLawful (console : Console) : Prop where
  shows_nil : console.Shows []
  shows_append : ∀ {lead : Text}, isTagless lead = true → ∀ t,
    console.Shows (lead ++ t) ↔ console.Shows t
  shows_tagged_append : ∀ (s : Style) {lead : Text}, isTagless lead = true → ∀ t,
    console.Shows (s.tagged lead ++ t) ↔ console.Shows t

namespace IsLawful

variable {console : Console}

theorem shows_of_isTagless (h : console.IsLawful) {t : Text} (ht : isTagless t = true) :
    console.Shows t := by
  rw [← List.append_nil t, h.shows_append ht]
  exact h.shows_nil

theorem shows_tagged (h : console.IsLawful) (s : Style) {t : Text} (ht : isTagless t = true) :
    console.Shows (s.tagged t) := by
  rw [← List.append_nil (s.tagged t), h.shows_tagged_append s ht]
  exact h.shows_nil

end IsLawful

end Console
end SolInterface
