import Dictation.Interpret.Interpreter
import Dictation.Proofs.Text.Words
/-!
# Spans of an utterance

The interpretations of a record follow the fragments of its text one by one. A command stands for itself,
whatever the rules are, and a span for what it rewrites to; only spans that rewrite to nothing are passed
over. The empty text stands in for interpretations where there are none.
-/
namespace Dictation

def Fragment.command? : Fragment → Option Command
  | .literal _ => none
  | .command c => some c

def Interpretation.command? : Interpretation → Option Command
  | .text _ => none
  | .command c => some c

/-- Whether a span rewrites to `u`: the rules get the span without the white space around it, and of what
they make of it the spaces at both ends are left out. -/
def RuleTable.RewritesSpan (rules : RuleTable) (span u : Text) : Prop :=
  ∃ inner, Text.Strips Unicode.isBlank span inner ∧ Text.Strips (· == ' ') (rules.apply inner) u

/-- Fragments with their interpretations, in order: commands stand for themselves, and spans for what they
rewrite to unless that is nothing. -/
inductive RuleTable.Renders (rules : RuleTable) : List Fragment → List Interpretation → Prop
  | nil : Renders rules [] []
  | command (c : Command) {fragments : List Fragment} {results : List Interpretation}
      (h : Renders rules fragments results) :
      Renders rules (.command c :: fragments) (.command c :: results)
  | text {span u : Text} {fragments : List Fragment} {results : List Interpretation}
      (hspan : rules.RewritesSpan span u) (hu : u ≠ []) (h : Renders rules fragments results) :
      Renders rules (.literal span :: fragments) (.text u :: results)
  | nothing {span : Text} {fragments : List Fragment} {results : List Interpretation}
      (hspan : rules.RewritesSpan span []) (h : Renders rules fragments results) :
      Renders rules (.literal span :: fragments) results

namespace RuleTable

variable {rules : RuleTable} {fragments : List Fragment} {results : List Interpretation}

theorem rewritesSpan_iff {span u : Text} :
    rules.RewritesSpan span u ↔ u = (rules.apply span.trim).trimOf ' ' := by
  simp [RewritesSpan, Text.strips_trim_iff, Text.strips_trimOf_iff]

theorem renders_interpretFragment? (rules : RuleTable) (fragments : List Fragment) :
    rules.Renders fragments (fragments.filterMap (Interpreter.interpretFragment? rules)) := by
  induction fragments with
  | nil => exact .nil
  | cons f fragments ih =>
    cases f with
    | command c => exact .command c ih
    | literal span =>
      by_cases hnil : (rules.apply span.trim).trimOf ' ' = []
      · have hnone : Interpreter.interpretFragment? rules (.literal span) = none := by
          simp [Interpreter.interpretFragment?, hnil]
        rw [List.filterMap_cons_none hnone]
        exact .nothing (rewritesSpan_iff.mpr hnil.symm) ih
      · have hsome : Interpreter.interpretFragment? rules (.literal span) =
            some (.text ((rules.apply span.trim).trimOf ' ')) := by
          simp [Interpreter.interpretFragment?, hnil]
        rw [List.filterMap_cons_some hsome]
        exact .text (rewritesSpan_iff.mpr rfl) hnil ih

namespace Renders

/-- Fragments have their interpretations in one way only. -/
theorem unique (h : rules.Renders fragments results) {others : List Interpretation}
    (hothers : rules.Renders fragments others) : others = results := by
  induction h generalizing others with
  | nil =>
    cases hothers
    rfl
  | command c _ ih =>
    cases hothers with
    | command _ hothers => rw [ih hothers]
  | text hspan hu _ ih =>
    cases hothers with
    | text hspan' _ hothers => rw [ih hothers, rewritesSpan_iff.mp hspan, rewritesSpan_iff.mp hspan']
    | nothing hspan' _ =>
      exact absurd ((rewritesSpan_iff.mp hspan).trans (rewritesSpan_iff.mp hspan').symm) hu
  | nothing hspan _ ih =>
    cases hothers with
    | text hspan' hu _ =>
      exact absurd ((rewritesSpan_iff.mp hspan').trans (rewritesSpan_iff.mp hspan).symm) hu
    | nothing _ hothers => exact ih hothers

theorem commands (h : rules.Renders fragments results) :
    results.filterMap Interpretation.command? = fragments.filterMap Fragment.command? := by
  induction h with
  | nil => rfl
  | command c _ ih => simp [Interpretation.command?, Fragment.command?, ih]
  | text _ _ _ ih => exact ih
  | nothing _ _ ih => exact ih

/-- A text among the interpretations is what a span rewrites to, and not nothing. -/
theorem exists_span (h : rules.Renders fragments results) {u : Text} (hu : .text u ∈ results) :
    u ≠ [] ∧ ∃ span, .literal span ∈ fragments ∧ rules.RewritesSpan span u := by
  induction h with
  | nil => exact absurd hu List.not_mem_nil
  | command c _ ih =>
    obtain ⟨hne, span, hspan, hrewrites⟩ := ih (by simpa using hu)
    exact ⟨hne, span, List.mem_cons_of_mem _ hspan, hrewrites⟩
  | text hspan hne _ ih =>
    rcases List.mem_cons.mp hu with hsame | hu
    · cases hsame
      exact ⟨hne, _, List.mem_cons_self, hspan⟩
    · obtain ⟨hne, span, hspan, hrewrites⟩ := ih hu
      exact ⟨hne, span, List.mem_cons_of_mem _ hspan, hrewrites⟩
  | nothing _ _ ih =>
    obtain ⟨hne, span, hspan, hrewrites⟩ := ih hu
    exact ⟨hne, span, List.mem_cons_of_mem _ hspan, hrewrites⟩

theorem eq_nil_iff (h : rules.Renders fragments results) :
    results = [] ↔ ∀ f ∈ fragments, ∃ span, f = .literal span ∧ rules.RewritesSpan span [] := by
  induction h with
  | nil => simp
  | command c _ _ => simp
  | text hspan hu _ _ =>
    have hnot : ¬rules.RewritesSpan _ [] := fun hnil =>
      hu ((rewritesSpan_iff.mp hspan).trans (rewritesSpan_iff.mp hnil).symm)
    simp [hnot]
  | nothing hspan _ ih => simp [ih, hspan]

end Renders

end RuleTable

namespace Interpreter

/-- The fragments of a record in the current context. -/
def fragments (i : Interpreter) (r : Record) : List Fragment := i.commands.extract r.text i.currentContext

def meanings (i : Interpreter) (r : Record) : List Interpretation := (i.interpret r).map (·.interpreted)

/-- How the interpretations of a record account for its text. -/
structure Accounts (i : Interpreter) (r : Record) : Prop where
  ne_nil : i.interpret r ≠ []
  /-- Each interpretation comes with the record as it was. -/
  record : ∀ x ∈ i.interpret r, x.record = r
  /-- The commands are those of the text, in order, whatever the rules are. -/
  commands : ∀ rules : RuleTable, ({ i with rules := rules }.meanings r).filterMap Interpretation.command? =
    (i.fragments r).filterMap Fragment.command?
  /-- The interpretations are the only ones that the fragments have, or the empty text if they have none. -/
  spans : ∃ results, i.rules.Renders (i.fragments r) results ∧
    (∀ others, i.rules.Renders (i.fragments r) others → others = results) ∧
    i.meanings r = if results = [] then [.text []] else results
  /-- No text begins or ends with a space. -/
  trimmed : ∀ u, .text u ∈ i.meanings r → u.head? ≠ some ' ' ∧ u.getLast? ≠ some ' '
  /-- An empty text is the only interpretation. -/
  sole : .text [] ∈ i.meanings r → i.meanings r = [.text []]
  /-- It is given if there is no command and every span rewrites to nothing. -/
  empty : .text [] ∈ i.meanings r ↔
    ∀ f ∈ i.fragments r, ∃ span, f = .literal span ∧ i.rules.RewritesSpan span []

theorem meanings_eq (i : Interpreter) (r : Record) : i.meanings r = i.interpretText r.text := by
  simp [meanings, interpret, Function.comp_def]

/-- The interpretations of the fragments, if there are any. -/
theorem exists_renders (i : Interpreter) (r : Record) :
    ∃ results, i.rules.Renders (i.fragments r) results ∧
      i.meanings r = if results = [] then [.text []] else results := by
  refine ⟨_, i.rules.renders_interpretFragment? (i.fragments r), ?_⟩
  rw [meanings_eq, interpretText]
  split
  case h_1 hnil => exact (if_pos hnil).symm
  case h_2 hne => exact (if_neg hne).symm

theorem commands_meanings (i : Interpreter) (r : Record) :
    (i.meanings r).filterMap Interpretation.command? = (i.fragments r).filterMap Fragment.command? := by
  obtain ⟨results, hresults, hmeanings⟩ := i.exists_renders r
  rw [hmeanings, ← hresults.commands]
  split
  case isTrue hnil => simp [hnil, Interpretation.command?]
  case isFalse => rfl

theorem interpret_ne_nil (i : Interpreter) (r : Record) : i.interpret r ≠ [] := by
  intro hnil
  obtain ⟨results, _, hmeanings⟩ := i.exists_renders r
  rw [meanings, hnil, List.map_nil] at hmeanings
  split at hmeanings
  case isTrue => cases hmeanings
  case isFalse hne => exact hne hmeanings.symm

theorem ends_of_mem_meanings {i : Interpreter} {r : Record} {u : Text} (hu : .text u ∈ i.meanings r) :
    u.head? ≠ some ' ' ∧ u.getLast? ≠ some ' ' := by
  obtain ⟨results, hresults, hmeanings⟩ := i.exists_renders r
  rw [hmeanings] at hu
  split at hu
  case isTrue =>
    obtain rfl : u = [] := by simpa using hu
    simp
  case isFalse =>
    obtain ⟨_, span, _, inner, _, front, back, _, _, _, hhead, hlast⟩ := hresults.exists_span hu
    exact ⟨fun h => by simpa using hhead _ h, fun h => by simpa using hlast _ h⟩

/-- The empty text is given only where there is nothing else. -/
theorem text_nil_mem_iff {i : Interpreter} {r : Record} {results : List Interpretation}
    (hresults : i.rules.Renders (i.fragments r) results) :
    .text [] ∈ (if results = [] then [.text []] else results) ↔ results = [] := by
  by_cases hnil : results = []
  · simp [hnil]
  · simpa [hnil] using fun hmem => (hresults.exists_span hmem).1 rfl

/-- The interpretations of a record are its commands and what is between them: nothing of the text is lost
but spans that rewrite to nothing, and nothing is added but the empty text for want of anything else. -/
theorem interpret_accounts (i : Interpreter) (r : Record) : i.Accounts r := by
  obtain ⟨results, hresults, hmeanings⟩ := i.exists_renders r
  have hempty : .text [] ∈ i.meanings r ↔ results = [] := by
    rw [hmeanings]
    exact text_nil_mem_iff hresults
  constructor
  case ne_nil => exact i.interpret_ne_nil r
  case record =>
    intro x hx
    obtain ⟨_, _, rfl⟩ := List.mem_map.mp hx
    rfl
  case commands =>
    intro rules
    exact commands_meanings { i with rules := rules } r
  case spans => exact ⟨results, hresults, fun _ hothers => hresults.unique hothers, hmeanings⟩
  case trimmed =>
    intro u hu
    exact ends_of_mem_meanings hu
  case sole =>
    intro hmem
    rw [hmeanings, if_pos (hempty.mp hmem)]
  case empty => rw [hempty, hresults.eq_nil_iff]

/-- A rule that takes out a letter leaves nothing between two commands, and nothing at all without them. -/
example :
    let rules : RuleTable := ⟨[⟨['x'], ⟨.set (.one 'x'), []⟩, .literal [' ']⟩]⟩
    let commands : CommandTable := ⟨[⟨none, ⟨.set (.one 'y'), []⟩, ['t']⟩]⟩
    let i := new rules commands
    i.interpretText "y xx y".toList = [.command ⟨['t'], [], []⟩, .command ⟨['t'], [], []⟩] ∧
      i.interpretText "x x".toList = [.text []] ∧ i.interpretText "a x".toList = [.text ['a']] := by
  decide +kernel

end Interpreter

end Dictation
