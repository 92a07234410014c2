import Dictation.Interpret.Interpreter
import Dictation.Proofs.Pattern.Scanning
import Dictation.Proofs.Rewrite.Keyword
import Dictation.Proofs.Text.Words
/-!
# Utterances without commands

Where the shipped triggers find nothing, an utterance is rewritten as a whole.
-/
namespace Dictation

open Node

namespace CommandRule

theorem fragments_kept (r : CommandRule) {t : Text} (ht : t ≠ []) :
    r.fragments (t.map .kept) = [.literal t] := by
  induction t with
  | nil => exact absurd rfl ht
  | cons c t ih =>
    by_cases hnil : t = []
    · subst hnil
      rfl
    · rw [List.map_cons, fragments, ih hnil]
      rfl

theorem split_of_misses (r : CommandRule) (hn : r.trigger.node.consumes = true) {t : Text}
    (ht : t ≠ []) (h : r.trigger.node.Misses none t []) : r.split t = [.literal t] := by
  have hscan := scanFrom_misses hn h
  rw [List.append_nil, scanFrom_nil hn, List.append_nil] at hscan
  rw [split, scan, hscan, fragments_kept r ht]

end CommandRule

namespace CommandTable

/-- The triggers of the shipped commands, each between the ends of words. -/
def triggers : List Node := [
  sequence [bound, sequence (literal "correct that"), bound],
  sequence [bound, sequence (literal "verbatim" ++ [someBlanks,
    group 1 (star none false (set (.compl (.one '\n')))),
    alt (sequence (someBlanks :: literal "verbatim off")) (assertion .textEnd)]), bound]]

theorem shipped_triggers :
    shipped.rules.map (fun r => (r.context, r.trigger.node)) = triggers.map (none, ·) := by
  decide +kernel

theorem triggers_consume : ∀ n ∈ triggers, n.consumes = true := by
  decide +kernel

theorem mem_triggers {r : CommandRule} (hr : r ∈ shipped.rules) :
    r.context = none ∧ r.trigger.node ∈ triggers := by
  have hmem := List.mem_map_of_mem (f := fun r => (r.context, r.trigger.node)) hr
  rw [shipped_triggers] at hmem
  obtain ⟨n, hn, heq⟩ := List.mem_map.mp hmem
  obtain ⟨hcontext, hnode⟩ := Prod.mk.inj heq
  exact ⟨hcontext.symm, hnode ▸ hn⟩

theorem extract_of_misses {t : Text} (ht : t ≠ []) (h : ∀ n ∈ triggers, n.Misses none t [])
    (context : Text) : shipped.extract t context = [.literal t] := by
  have hone : ∀ rs : List CommandRule, (∀ r ∈ rs, r.trigger.node ∈ triggers) →
      rs.foldl (fun fragments r => fragments.flatMap r.splitFragment) [.literal t] =
        [.literal t] := by
    intro rs hrs
    induction rs with
    | nil => rfl
    | cons r rs ih =>
      have hr := hrs r List.mem_cons_self
      have hsplit := r.split_of_misses (triggers_consume _ hr) ht (h _ hr)
      rw [List.foldl_cons, List.flatMap_singleton]
      rw [CommandRule.splitFragment, hsplit]
      exact ih fun r' hr' => hrs r' (List.mem_cons_of_mem r hr')
  exact hone _ fun r hr => (mem_triggers (List.mem_filter.mp hr).1).2

end CommandTable

namespace Interpreter

/-- An utterance in one piece is rewritten, even if nothing is left of it. -/
theorem interpretText_of_literal (rules : RuleTable) {commands : CommandTable} {t : Text}
    (h : commands.extract t rootContext = [.literal t]) :
    (new rules commands).interpretText t = [.text ((rules.apply t.trim).trimOf ' ')] := by
  unfold interpretText
  simp only [new, currentContext, List.headD_nil, h, List.filterMap_cons, interpretFragment?, List.filterMap_nil]
  cases hnil : ((rules.apply t.trim).trimOf ' ').isEmpty with
  | true => simp [List.isEmpty_iff.mp hnil]
  | false => simp

theorem interpretText_of_extract {rules : RuleTable} {commands : CommandTable} {t u : Text}
    (ht : t.IsTrimmed) (hextract : commands.extract t rootContext = [.literal t])
    (happly : rules.apply t = u) (hu : u.IsTrimmed) :
    (new rules commands).interpretText t = [.text u] := by
  have hrewritten : (rules.apply t.trim).trimOf ' ' = u := by
    rw [ht.trim, happly, hu.trimOf (by decide +kernel)]
  rw [interpretText_of_literal rules hextract, hrewritten]

/-- The same with the shipped tables, where the triggers find nothing. -/
theorem interpretText_of_misses {t u : Text} (ht : t.IsTrimmed)
    (htriggers : ∀ n ∈ CommandTable.triggers, n.Misses none t [])
    (happly : RuleTable.shipped.apply t = u) (hu : u.IsTrimmed) :
    (new .shipped .shipped).interpretText t = [.text u] :=
  interpretText_of_extract ht (CommandTable.extract_of_misses ht.ne_nil htriggers _) happly hu

end Interpreter

end Dictation
