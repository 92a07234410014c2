import Dictation.Operator
import Mathlib.Data.List.Infix
/-!
# The longest operator first

A text is divided into operators from left to right. What is read at a place is the longest operator of
several characters that stands there, and a single character where there is none. Only one division is
of this kind.
-/
namespace Dictation.Operator

/-- The table of operators with its strings spelled out. -/
def spelledTable : { es : List (Text × Text) // table = es } :=
  ⟨_, by
    simp only [table, names, List.map]
    repeat apply congrArg₂ List.cons (congrArg₂ Prod.mk String.toList_ofList String.toList_ofList)
    rfl⟩

theorem mem_table_of_spoken? {op spoken : Text} (h : spoken? op = some spoken) :
    (op, spoken) ∈ spelledTable.1 := by
  obtain ⟨es, es', hes, _⟩ := List.lookup_eq_some_iff.mp h
  rw [← spelledTable.2, hes]
  exact List.mem_append_right es List.mem_cons_self

def compounds : List Text := (table.map Prod.fst).filter (2 ≤ ·.length)

/-- What is read first of a text: the longest compound operator that it starts with, or its first
character if it starts with none. -/
inductive IsFirst : Text → Text → Prop
  | compound {op t : Text} (hop : op ∈ compounds) (hstands : op <+: t)
      (hlongest : ∀ op' ∈ compounds, op' <+: t → op'.length ≤ op.length) : IsFirst op t
  | character (c : Char) (rest : Text) (hnone : ∀ op ∈ compounds, ¬ op <+: c :: rest) :
      IsFirst [c] (c :: rest)

/-- Operators that make up a text, each of them read first of what is left. -/
inductive LongestMatch : Text → List Text → Prop
  | nil : LongestMatch [] []
  | cons {op rest : Text} {ops : List Text} (hfirst : IsFirst op (op ++ rest))
      (hrest : LongestMatch rest ops) : LongestMatch (op ++ rest) (op :: ops)

theorem length_of_mem_compounds {op : Text} (h : op ∈ compounds) : 2 ≤ op.length :=
  of_decide_eq_true (List.mem_filter.mp h).2

private theorem foldl_max_sound (es : List (Text × Text)) (n : Nat) :
    (∀ e ∈ es, e.1.length ≤ es.foldl (fun n e => max n e.1.length) n) ∧
      n ≤ es.foldl (fun n e => max n e.1.length) n ∧
      (es.foldl (fun n e => max n e.1.length) n = n ∨
        ∃ e ∈ es, e.1.length = es.foldl (fun n e => max n e.1.length) n) := by
  induction es generalizing n with
  | nil => simp
  | cons e es ih =>
    obtain ⟨hle, hge, hcases⟩ := ih (max n e.1.length)
    rw [List.foldl_cons]
    refine ⟨List.forall_mem_cons.mpr ⟨by omega, hle⟩, by omega, ?_⟩
    rcases hcases with heq | ⟨e', he', heq⟩
    · rcases Nat.le_total e.1.length n with hn | hn
      · exact .inl (by omega)
      · exact .inr ⟨e, List.mem_cons_self, by omega⟩
    · exact .inr ⟨e', List.mem_cons_of_mem e he', heq⟩

private theorem mem_filter_table {t op : Text} :
    (∃ e ∈ table.filter (fun e => 2 ≤ e.1.length && e.1.isPrefixOf t), e.1 = op) ↔
      op ∈ compounds ∧ op <+: t := by
  unfold compounds
  simp only [List.mem_filter, List.mem_map, Bool.and_eq_true, decide_eq_true_eq,
    List.isPrefixOf_iff_prefix]
  constructor
  · rintro ⟨e, ⟨he, hlen, hstands⟩, rfl⟩
    exact ⟨⟨⟨e, he, rfl⟩, hlen⟩, hstands⟩
  · rintro ⟨⟨⟨e, he, rfl⟩, hlen⟩, hstands⟩
    exact ⟨e, ⟨he, hlen, hstands⟩, rfl⟩

theorem length_le_munchLength {op t : Text} (hop : op ∈ compounds) (hstands : op <+: t) :
    op.length ≤ munchLength t := by
  obtain ⟨e, he, rfl⟩ := mem_filter_table.mpr ⟨hop, hstands⟩
  exact (foldl_max_sound _ 1).1 e he

theorem munchLength_cases (t : Text) :
    munchLength t = 1 ∨ ∃ op ∈ compounds, op <+: t ∧ op.length = munchLength t := by
  refine (foldl_max_sound _ 1).2.2.imp_right fun ⟨e, he, hlen⟩ => ?_
  obtain ⟨hop, hstands⟩ := mem_filter_table.mp ⟨e, he, rfl⟩
  exact ⟨e.1, hop, hstands, hlen⟩

namespace IsFirst

variable {op t : Text}

theorem isPrefix (h : IsFirst op t) : op <+: t := by
  cases h with
  | compound hop hstands hlongest => exact hstands
  | character c rest hnone => exact ⟨rest, rfl⟩

theorem length_eq (h : IsFirst op t) : op.length = munchLength t := by
  cases h with
  | compound hop hstands hlongest =>
    have hle := length_le_munchLength hop hstands
    rcases munchLength_cases t with hone | ⟨op', hop', hstands', hlen⟩
    · have := length_of_mem_compounds hop
      omega
    · have := hlongest op' hop' hstands'
      omega
  | character c rest hnone =>
    rcases munchLength_cases (c :: rest) with hone | ⟨op', hop', hstands', _⟩
    · exact hone.symm
    · exact absurd hstands' (hnone op' hop')

theorem eq_take (h : IsFirst op t) : op = t.take (munchLength t) := by
  rw [← h.length_eq]
  exact List.prefix_iff_eq_take.mp h.isPrefix

theorem ne_nil (h : IsFirst op t) : op ≠ [] := by
  rw [← List.length_pos_iff, h.length_eq]
  exact munchLength_pos t

end IsFirst

theorem isFirst_take {t : Text} (ht : t ≠ []) : IsFirst (t.take (munchLength t)) t := by
  rcases munchLength_cases t with hone | ⟨op, hop, hstands, hlen⟩
  · obtain ⟨c, rest, rfl⟩ := List.exists_cons_of_ne_nil ht
    rw [hone]
    refine .character c rest fun op hop hstands => ?_
    have hle := length_le_munchLength hop hstands
    have htwo := length_of_mem_compounds hop
    omega
  · rw [← hlen, ← List.prefix_iff_eq_take.mp hstands]
    exact .compound hop hstands fun op' hop' hstands' =>
      hlen ▸ length_le_munchLength hop' hstands'

theorem longestMatch_split (t : Text) : LongestMatch t (split t) := by
  induction t using split.induct with
  | case1 =>
    rw [split]
    exact .nil
  | case2 c rest ih =>
    have hfirst := isFirst_take (List.cons_ne_nil c rest)
    rw [split]
    have hcons := LongestMatch.cons (by rwa [List.take_append_drop]) ih
    rwa [List.take_append_drop] at hcons

namespace LongestMatch

variable {t : Text} {ops : List Text}

theorem flatten_eq (h : LongestMatch t ops) : ops.flatten = t := by
  induction h with
  | nil => rfl
  | cons hfirst hrest ih => rw [List.flatten_cons, ih]

theorem eq_split (h : LongestMatch t ops) : ops = split t := by
  induction h with
  | nil => rw [split]
  | @cons op rest ops hfirst hrest ih =>
    have htake := hfirst.eq_take
    have hdrop : (op ++ rest).drop (munchLength (op ++ rest)) = rest := by
      rw [← hfirst.length_eq, List.drop_left]
    obtain ⟨c, x, hcons⟩ := List.exists_cons_of_ne_nil
      (List.append_ne_nil_of_left_ne_nil hfirst.ne_nil rest)
    rw [hcons] at htake hdrop ⊢
    rw [split, ← htake, hdrop, ih]

theorem compound_or_character (h : LongestMatch t ops) {op : Text} (hop : op ∈ ops) :
    op ∈ compounds ∨ ∃ c, op = [c] := by
  induction h with
  | nil => cases hop
  | cons hfirst hrest ih =>
    rcases List.mem_cons.mp hop with rfl | hop
    · cases hfirst with
      | compound hop _ _ => exact .inl hop
      | character c _ _ => exact .inr ⟨c, rfl⟩
    · exact ih hop

end LongestMatch

end Dictation.Operator
