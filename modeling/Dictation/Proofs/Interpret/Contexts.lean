import Dictation.Interpret.Command
import Dictation.Proofs.Pattern.Marking
/-!
# Contexts of commands

A context pattern is put into a larger one that stands for whole texts only. Where it is a pattern by itself, the rule
applies to a context exactly if the pattern matches all of its name. A text that is no pattern by itself may close the
group that it is put into and open another one; then the assertions of the two ends belong to different alternatives.
-/
namespace Dictation

namespace Node

theorem ways_nil (n : Node) : n.ways [] = [] := by
  refine List.eq_nil_iff_forall_not_mem.mpr fun d hd => ?_
  obtain ⟨_, hc, _⟩ := leads_of_mem_ways n [] d hd
  cases hc

open Pattern (anchored)

theorem matchAt?_anchored_behind (n : Node) (c : Char) (t : Text) : (anchored n).matchAt? (some c) t = none := by
  have hways : (anchored n).ways [Cursor.start (some c) t] = [] := by
    have hstart : (assertion .textStart).ways [Cursor.start (some c) t] = [] := rfl
    rw [anchored, ways, hstart, ways_nil]
  rw [matchAt?, hways]
  rfl

theorem matchAt?_anchored (n : Node) (t : Text) :
    ((anchored n).matchAt? none t).isSome = true ↔ ∃ d ∈ n.ways [Cursor.start none t], d.rest = [] := by
  have hways : (anchored n).ways [Cursor.start none t] = (n.ways [Cursor.start none t]).filter (·.rest.isEmpty) := by
    have hstart : (assertion .textStart).ways [Cursor.start none t] = [Cursor.start none t] := rfl
    rw [anchored, ways, hstart, ways, ways]
    exact List.filter_congr fun d _ => by cases d.rest <;> rfl
  rw [matchAt?, hways, Option.isSome_map, List.isSome_head?, ← List.length_pos_iff, List.length_pos_iff_exists_mem]
  simp only [List.mem_filter, List.isEmpty_iff]

/-- Whether a scan has found something. -/
private def finds (parts : List Part) : Bool := parts.any fun p =>
  match p with
  | .found _ => true
  | .kept _ => false

private theorem finds_scanFrom_behind (n : Node) (c : Char) (t : Text) :
    finds ((anchored n).scanFrom 0 false (some c) t) = false := by
  have hfresh (c : Char) (t : Text) : (anchored n).fresh? false (some c) t = none := by
    rw [fresh?, matchAt?_anchored_behind, Option.filter_none]
  induction t generalizing c with
  | nil => rw [scanFrom, hfresh]; rfl
  | cons d t ih =>
    rw [scanFrom, hfresh]
    exact ih d

/-- A node between the assertions of both ends occurs in a text exactly if it has a way to the end of it. -/
theorem occursIn_anchored (n : Node) (t : Text) :
    (anchored n).occursIn t = true ↔ ∃ d ∈ n.ways [Cursor.start none t], d.rest = [] := by
  rw [← matchAt?_anchored]
  have hfresh : (anchored n).fresh? false none t = (anchored n).matchAt? none t := by
    rw [fresh?]
    cases (anchored n).matchAt? none t <;> rfl
  change finds ((anchored n).scanFrom 0 false none t) = true ↔ _
  cases t with
  | nil =>
    rw [scanFrom, hfresh]
    cases (anchored n).matchAt? none [] <;> exact Iff.rfl
  | cons c t =>
    rw [scanFrom, hfresh]
    cases (anchored n).matchAt? none (c :: t) with
    | none =>
      refine iff_of_false ?_ Bool.false_ne_true
      rw [Bool.not_eq_true]
      exact finds_scanFrom_behind n c t
    | some m =>
      refine iff_of_true ?_ rfl
      change finds (if _ then _ else _) = true
      split <;> rfl

end Node

namespace CommandRule

theorem exists_of_make? {context trigger tag : Text} {r : CommandRule} (hne : context.trim ≠ [])
    (hstar : context.trim ≠ ['*']) (h : make? context trigger tag = some r) :
    ∃ p, Pattern.compile? {} ("^(?:".toList ++ context.trim ++ splicedEnd) = some p ∧ r.context = some p := by
  have hsource : contextSource? context = some ("^(?:".toList ++ context.trim ++ splicedEnd) := by
    have hcond : ¬(context.trim = ['*'] || context.trim.isEmpty) = true := by simpa using ⟨hstar, hne⟩
    exact if_neg hcond
  unfold make? at h
  rw [hsource] at h
  obtain ⟨c, hc, h⟩ := Option.bind_eq_some_iff.mp h
  obtain ⟨t, _, h⟩ := Option.bind_eq_some_iff.mp h
  obtain ⟨p, hp, rfl⟩ := Option.map_eq_some_iff.mp hc
  cases h
  exact ⟨p, hp, rfl⟩

/-- A rule with a context that is a pattern by itself applies to the contexts of which it matches the whole name. -/
theorem appliesTo_iff_matches {context trigger tag : Text} {q : Pattern} {r : CommandRule} (hne : context.trim ≠ [])
    (hstar : context.trim ≠ ['*']) (hq : Pattern.compile? {} context.trim = some q)
    (hr : make? context trigger tag = some r) (name : Text) :
    r.appliesTo name = true ↔ q.node.Matches none name [] := by
  obtain ⟨p, hp, hcontext⟩ := exists_of_make? hne hstar hr
  have hnode : p.node = Pattern.anchored q.node := Pattern.node_of_compile?_anchored hq hp
  have happlies : r.appliesTo name = p.node.occursIn name := by
    rw [appliesTo, hcontext]
  rw [happlies, hnode, Node.occursIn_anchored]
  exact Pattern.exists_way_iff_matches hq none name

/-- A context with alternatives. -/
theorem appliesTo_editor_shell : ∃ q r, Pattern.compile? {} "editor|shell".toList = some q ∧
    make? "editor|shell".toList "save".toList "save".toList = some r ∧
    ∀ name, r.appliesTo name = true ↔ q.node.Matches none name [] := by
  have htrim : Text.trim "editor|shell".toList = "editor|shell".toList := by decide +kernel
  obtain ⟨q, hq⟩ := Option.isSome_iff_exists.mp
    (by decide +kernel : (Pattern.compile? {} "editor|shell".toList).isSome = true)
  obtain ⟨r, hr⟩ := Option.isSome_iff_exists.mp
    (by decide +kernel : (make? "editor|shell".toList "save".toList "save".toList).isSome = true)
  refine ⟨q, r, hq, hr, appliesTo_iff_matches ?_ ?_ (htrim.symm ▸ hq) hr⟩
  · rw [htrim]
    decide
  · rw [htrim]
    decide

/-- A context that is no pattern by itself makes a rule that applies to names of which it matches a part. -/
theorem appliesTo_unbalanced : ¬∀ (context trigger tag : Text) (r : CommandRule), context.trim ≠ [] →
    context.trim ≠ ['*'] → make? context trigger tag = some r → ∀ name, r.appliesTo name = true ↔
      ∃ q, Pattern.compile? {} context.trim = some q ∧ q.node.Matches none name [] := by
  intro h
  have htrim : Text.trim "a)|(?:b".toList = "a)|(?:b".toList := by decide +kernel
  obtain ⟨r, hr⟩ := Option.isSome_iff_exists.mp
    (by decide +kernel : (make? "a)|(?:b".toList "x".toList "t".toList).isSome = true)
  have happlies : (make? "a)|(?:b".toList "x".toList "t".toList).all (·.appliesTo "axe".toList) = true := by
    decide +kernel
  rw [hr] at happlies
  have hclaim := h _ _ _ r (htrim.symm ▸ by decide) (htrim.symm ▸ by decide) hr "axe".toList
  obtain ⟨q, hq, _⟩ := hclaim.mp happlies
  have hnone : Pattern.compile? {} "a)|(?:b".toList = none := by decide +kernel
  rw [htrim, hnone] at hq
  cases hq

end CommandRule

end Dictation
