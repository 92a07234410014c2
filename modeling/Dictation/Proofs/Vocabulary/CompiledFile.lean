import Dictation.Proofs.Text.Order
import Dictation.Proofs.Text.Utf8
import Dictation.Vocabulary.Compiled
import Mathlib.Data.List.Chain
/-!
# Compiled vocabularies are read as they were built

The keys of a vocabulary that was built ascend and differ, and its bytes stand for it.
-/
namespace Dictation

section
variable {α : Type} [BEq α] [LawfulBEq α]

omit [LawfulBEq α] in
private theorem eraseReps_loop (a : α) (l kept : List α) :
    List.eraseRepsBy.loop (· == ·) a l kept =
      kept.reverse ++ List.eraseRepsBy.loop (· == ·) a l [] := by
  induction l generalizing a kept with
  | nil => simp [List.eraseRepsBy.loop]
  | cons b l ih =>
    simp only [List.eraseRepsBy.loop]
    split
    · exact ih a kept
    · rw [ih b (a :: kept), ih b [a]]
      simp

theorem eraseReps_cons_same (a : α) (l : List α) : (a :: a :: l).eraseReps = (a :: l).eraseReps := by
  change List.eraseRepsBy.loop (· == ·) a (a :: l) [] = _
  simp only [List.eraseRepsBy.loop, beq_self_eq_true]
  rfl

theorem eraseReps_cons_ne {a b : α} (h : a ≠ b) (l : List α) :
    (a :: b :: l).eraseReps = a :: (b :: l).eraseReps := by
  change List.eraseRepsBy.loop (· == ·) a (b :: l) [] = _
  simp only [List.eraseRepsBy.loop, beq_eq_false_iff_ne.mpr h]
  exact eraseReps_loop b l [a]

theorem head?_eraseReps (l : List α) : l.eraseReps.head? = l.head? := by
  induction l with
  | nil => rfl
  | cons a l ih =>
    cases l with
    | nil => rfl
    | cons b l =>
      by_cases h : a = b
      · rw [h, eraseReps_cons_same, ih]
        rfl
      · rw [eraseReps_cons_ne h]
        rfl

theorem mem_eraseReps {x : α} {l : List α} : x ∈ l.eraseReps ↔ x ∈ l := by
  induction l with
  | nil => rfl
  | cons a l ih =>
    cases l with
    | nil => rfl
    | cons b l =>
      by_cases h : a = b
      · rw [h, eraseReps_cons_same, ih, List.mem_cons (a := x) (b := b) (l := b :: l)]
        exact ⟨.inr, fun hx => hx.elim (· ▸ List.mem_cons_self) id⟩
      · rw [eraseReps_cons_ne h, List.mem_cons, ih, ← List.mem_cons]

theorem isChain_eraseReps {R : α → α → Prop} {l : List α} (h : l.IsChain R) :
    l.eraseReps.IsChain fun a b => R a b ∧ a ≠ b := by
  induction l with
  | nil => exact .nil
  | cons a l ih =>
    cases l with
    | nil => exact .singleton a
    | cons b l =>
      obtain ⟨hab, hrest⟩ := List.isChain_cons_cons.mp h
      by_cases heq : a = b
      · rw [heq, eraseReps_cons_same]
        exact ih hrest
      · rw [eraseReps_cons_ne heq]
        refine List.isChain_cons.mpr ⟨fun y hy => ?_, ih hrest⟩
        rw [head?_eraseReps] at hy
        cases hy
        exact ⟨hab, heq⟩

end

namespace CompiledVocabulary

theorem isAscending_iff {keys : List Text} :
    isAscending keys = true ↔ keys.IsChain Text.Before := by
  induction keys with
  | nil => simp [isAscending]
  | cons a keys ih =>
    cases keys with
    | nil => simp [isAscending]
    | cons b keys =>
      rw [isAscending, List.isChain_cons_cons, ← ih]
      simp [Text.Before]

theorem isAscending_build (es : List Entry) : isAscending (build es).keys = true :=
  isAscending_iff.mpr (isChain_eraseReps (List.pairwise_mergeSort Text.le_trans Text.le_total _).isChain)

theorem mem_build {es : List Entry} {k : Text} :
    k ∈ (build es).keys ↔ ∃ e ∈ es, e.word ≠ [] ∧ key e.word.lower e.pronunciation = k := by
  unfold build
  simp [mem_eraseReps, List.mem_mergeSort, and_assoc]

theorem areTaken_iff {keys : List Bytes} :
    areTaken keys = true ↔ keys.IsChain fun a b => ¬b < a := by
  induction keys with
  | nil => simp [areTaken]
  | cons a keys ih =>
    cases keys with
    | nil => simp [areTaken]
    | cons b keys =>
      rw [areTaken, List.isChain_cons_cons, ← ih]
      simp

theorem areTaken_build (es : List Entry) : areTaken ((build es).keys.map Bytes.ofText) = true := by
  rw [areTaken_iff, List.isChain_map]
  exact (isAscending_iff.mp (isAscending_build es)).imp fun _ _ h => List.lt_asymm (Bytes.ofText_lt_ofText h)

theorem ofBytes?_toBytes {v : CompiledVocabulary} (h : isAscending v.keys = true) :
    ofBytes? v.toBytes = some v := by
  have hafter : afterMark? v.toBytes = some (v.keys.flatMap fun key => Bytes.ofText key ++ [stop]) := by
    rw [afterMark?, toBytes, if_pos (List.isPrefixOf_iff_prefix.mpr (List.prefix_append _ _)),
      List.drop_left]
  have hfields : Bytes.fields stop (v.keys.flatMap fun key => Bytes.ofText key ++ [stop]) =
      v.keys.map Bytes.ofText ++ [[]] := by
    rw [← Bytes.fields_flatMap fun bs hbs b hb => ?_, List.flatMap_map]
    obtain ⟨key, _, rfl⟩ := List.mem_map.mp hbs
    exact Bytes.ne_of_mem_ofText hb
  have hread : (v.keys.map Bytes.ofText).mapM Bytes.text? = some v.keys := by
    have hpure : Bytes.text? ∘ Bytes.ofText = fun key => pure key :=
      funext Bytes.text?_ofText
    rw [List.mapM_map, hpure, List.mapM_pure, List.map_id']
    rfl
  have hend : (v.keys.map Bytes.ofText ++ [[]]).getLast? = some [] := List.getLast?_concat
  simp only [ofBytes?, hafter, hfields, List.dropLast_concat, hread, hend, h, Option.bind_eq_bind,
    Option.bind_some, Option.pure_def, decide_true, Bool.true_and, if_true]

end CompiledVocabulary

end Dictation
