import SolInterface.Text.Basic

/-!
The order of names: by the first character in which they differ, and a name before its extensions.
The same rule, one level up, orders lists of names. Main statements: the order is transitive, and of
two different names one stands before the other.
-/
namespace SolInterface

/-- The first list comes before the second in the lexicographic order that `lt` gives. -/
def lexBefore {α : Type} [DecidableEq α] (lt : α → α → Bool) : List α → List α → Bool
  | _, [] => false
  | [], _ :: _ => true
  | a :: s, b :: t => if a = b then lexBefore lt s t else lt a b

section
variable {α : Type} [DecidableEq α] {lt : α → α → Bool}

theorem lexBefore_self (s : List α) : lexBefore lt s s = false := by
  induction s with
  | nil => rfl
  | cons a s ih => rw [lexBefore, if_pos rfl, ih]

theorem lexBefore_total (htotal : ∀ a b, a ≠ b → lt a b = false → lt b a = true) {s t : List α}
    (hne : s ≠ t) (h : lexBefore lt s t = false) : lexBefore lt t s = true := by
  induction s generalizing t with
  | nil =>
    cases t with
    | nil => exact absurd rfl hne
    | cons b t => simp [lexBefore] at h
  | cons a s ih =>
    cases t with
    | nil => rfl
    | cons b t =>
      simp only [lexBefore] at h ⊢
      split at h
      · next hab =>
        subst hab
        simpa using ih (fun hst => hne (by rw [hst])) h
      · next hab => simpa [Ne.symm hab] using htotal a b hab h

theorem lexBefore_trans (hasymm : ∀ a b, lt a b = true → lt b a = false)
    (htrans : ∀ a b c, lt a b = true → lt b c = true → lt a c = true) {s t u : List α}
    (hst : lexBefore lt s t = true) (htu : lexBefore lt t u = true) : lexBefore lt s u = true := by
  induction s generalizing t u with
  | nil =>
    cases u with
    | nil => cases t <;> simp [lexBefore] at htu
    | cons c u => rfl
  | cons a s ih =>
    cases t with
    | nil => simp [lexBefore] at hst
    | cons b t =>
      cases u with
      | nil => simp [lexBefore] at htu
      | cons c u =>
        simp only [lexBefore] at hst htu ⊢
        by_cases hab : a = b
        · subst hab
          by_cases hac : a = c
          · subst hac
            simp only [if_true] at hst htu ⊢
            exact ih hst htu
          · simpa [hac] using htu
        · by_cases hbc : b = c
          · subst hbc
            simpa [hab] using hst
          · simp only [hab, hbc, if_false] at hst htu
            have hac : a ≠ c := by
              intro hac
              subst hac
              rw [hasymm _ _ hst] at htu
              exact Bool.noConfusion htu
            simpa [hac] using htrans a b c hst htu

end

namespace Text

/-- The first name comes before the second, compared character by character. -/
def before : Text → Text → Bool := lexBefore fun c d => decide (c.toNat < d.toNat)

theorem before_total {s t : Text} (hne : s ≠ t) (h : before s t = false) : before t s = true := by
  refine lexBefore_total (fun c d hcd hlt => ?_) hne h
  have hval : c.toNat ≠ d.toNat := fun he => hcd (Char.toNat_inj.1 he)
  simp only [decide_eq_false_iff_not] at hlt
  simp only [decide_eq_true_eq]
  omega

theorem before_trans {s t u : Text} (hst : before s t = true) (htu : before t u = true) :
    before s u = true := by
  refine lexBefore_trans (fun c d hlt => ?_) (fun c d e hcd hde => ?_) hst htu
  · simp only [decide_eq_true_eq] at hlt
    simp only [decide_eq_false_iff_not]
    omega
  · simp only [decide_eq_true_eq] at hcd hde ⊢
    omega

end Text
end SolInterface
