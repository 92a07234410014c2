import Dictation.Text.Basic
/-!
# Orders of lists

Texts are ordered by their first difference. So is everything that is compared part by part, and what
holds of the order of the parts holds of the order of the whole.
-/
namespace Dictation

/-- An order of lists by their first difference, where the shorter of two lists comes first if there is
none. Parts that differ are compared by `before`. -/
structure IsLexicographic {α : Type} [DecidableEq α] (le : List α → List α → Bool)
    (before : α → α → Bool) : Prop where
  nil : ∀ bs, le [] bs = true
  cons_nil : ∀ a as, le (a :: as) [] = false
  cons_cons : ∀ a as b bs, le (a :: as) (b :: bs) = if a = b then le as bs else before a b
  total : ∀ a b, a ≠ b → before a b = true ∨ before b a = true
  trans : ∀ a b c, before a b = true → before b c = true → before a c = true
  antisymm : ∀ a b, before a b = true → before b a = true → a = b

namespace IsLexicographic

variable {α : Type} [DecidableEq α] {le : List α → List α → Bool} {before : α → α → Bool}
  (h : IsLexicographic le before)
include h

theorem le_total (as bs : List α) : (le as bs || le bs as) = true := by
  induction as generalizing bs with
  | nil => rw [h.nil, Bool.true_or]
  | cons a as ih =>
    cases bs with
    | nil => rw [h.nil, Bool.or_true]
    | cons b bs =>
      rw [h.cons_cons, h.cons_cons]
      by_cases hab : a = b
      · rw [if_pos hab, if_pos hab.symm]
        exact ih bs
      · rw [if_neg hab, if_neg (Ne.symm hab), Bool.or_eq_true]
        exact h.total a b hab

theorem le_antisymm (as bs : List α) (hle : le as bs = true) (hge : le bs as = true) : as = bs := by
  induction as generalizing bs with
  | nil =>
    cases bs with
    | nil => rfl
    | cons b bs =>
      rw [h.cons_nil] at hge
      cases hge
  | cons a as ih =>
    cases bs with
    | nil =>
      rw [h.cons_nil] at hle
      cases hle
    | cons b bs =>
      rw [h.cons_cons] at hle hge
      by_cases hab : a = b
      · rw [if_pos hab] at hle
        rw [if_pos hab.symm] at hge
        rw [hab, ih bs hle hge]
      · rw [if_neg hab] at hle
        rw [if_neg (Ne.symm hab)] at hge
        exact absurd (h.antisymm a b hle hge) hab

theorem le_trans (as bs cs : List α) (hab : le as bs = true) (hbc : le bs cs = true) :
    le as cs = true := by
  induction as generalizing bs cs with
  | nil => exact h.nil cs
  | cons a as ih =>
    cases bs with
    | nil =>
      rw [h.cons_nil] at hab
      cases hab
    | cons b bs =>
      cases cs with
      | nil =>
        rw [h.cons_nil] at hbc
        cases hbc
      | cons c cs =>
        rw [h.cons_cons] at hab hbc ⊢
        by_cases h₁ : a = b
        · subst h₁
          rw [if_pos rfl] at hab
          by_cases h₂ : a = c
          · rw [if_pos h₂] at hbc ⊢
            exact ih bs cs hab hbc
          · rwa [if_neg h₂] at hbc ⊢
        · rw [if_neg h₁] at hab
          by_cases h₂ : b = c
          · subst h₂
            rwa [if_neg h₁]
          · rw [if_neg h₂] at hbc
            have h₃ : a ≠ c := fun heq => h₂ (h.antisymm b c hbc (heq ▸ hab))
            rw [if_neg h₃]
            exact h.trans a b c hab hbc

end IsLexicographic

namespace Text

theorem isLexicographic_le : IsLexicographic le fun a b => a.toNat < b.toNat where
  nil _ := rfl
  cons_nil _ _ := rfl
  cons_cons _ _ _ _ := rfl
  total a b hab := by
    have hne : a.toNat ≠ b.toNat := fun heq => hab (Char.toNat_inj.mp heq)
    rw [decide_eq_true_eq, decide_eq_true_eq]
    omega
  trans a b c hab hbc := by
    rw [decide_eq_true_eq] at hab hbc ⊢
    exact Nat.lt_trans hab hbc
  antisymm a b hab hba := by
    rw [decide_eq_true_eq] at hab hba
    omega

theorem le_total (a b : Text) : (le a b || le b a) = true := isLexicographic_le.le_total a b

theorem le_trans (a b c : Text) (hab : le a b = true) (hbc : le b c = true) : le a c = true :=
  isLexicographic_le.le_trans a b c hab hbc

theorem le_antisymm {a b : Text} (hab : le a b = true) (hba : le b a = true) : a = b :=
  isLexicographic_le.le_antisymm a b hab hba

theorem le_append_left (t a b : Text) : le (t ++ a) (t ++ b) = le a b := by
  induction t with
  | nil => rfl
  | cons c t ih =>
    rw [List.cons_append, List.cons_append, isLexicographic_le.cons_cons, if_pos rfl, ih]

/-- Whether a text comes before another one. -/
def Before (a b : Text) : Prop := le a b = true ∧ a ≠ b

theorem Before.trans {a b c : Text} (hab : a.Before b) (hbc : b.Before c) : a.Before c :=
  ⟨le_trans a b c hab.1 hbc.1, fun heq => hab.2 (le_antisymm hab.1 (heq ▸ hbc.1))⟩

end Text

end Dictation
