import Dictation.Proofs.Operator.Alternation
/-!
# Operators behind their spoken forms

Every spoken form shows which operator it stands for: a listed form stands for one operator only, and
any other one begins with its character. So a stretch of punctuation can be read off its words.
-/
namespace Dictation.Operator

/-- The operator that a word stands for: the listed one, or else the first character of the word. -/
def recovered (word : Text) : Text := (written? word).getD (word.take 1)

theorem find_spoken : ∀ e ∈ spelledTable.1, spelledTable.1.find? (·.2 = e.2) = some e := by
  decide +kernel

theorem written?_of_spoken? {op spoken : Text} (h : spoken? op = some spoken) :
    written? spoken = some op := by
  unfold written?
  rw [spelledTable.2, find_spoken _ (mem_table_of_spoken? h)]
  rfl

/-- What the names of the control keys begin with. All other listed forms begin with an operator. -/
def keyLetters : List Char := ['n', 't', 'c']

theorem head_spoken : ∀ e ∈ spelledTable.1, ∀ c ∈ e.2.head?,
    spelledTable.1.lookup [c] = none → c ∈ keyLetters := by
  decide +kernel

theorem keyLetters_sound : ∀ c ∈ keyLetters, ∀ e ∈ spelledTable.1, e.2 ≠ c :: fallbackName c := by
  decide +kernel

theorem written?_fallbackName {c : Char} (h : spoken? [c] = none) :
    written? (c :: fallbackName c) = none := by
  unfold spoken? at h
  unfold written?
  rw [spelledTable.2] at h ⊢
  rw [Option.map_eq_none_iff, List.find?_eq_none]
  intro e he hsame
  rw [decide_eq_true_eq] at hsame
  exact keyLetters_sound c (head_spoken e he c (by rw [hsame]; rfl) h) e he hsame

theorem spoken?_of_mem_compounds {op : Text} (h : op ∈ compounds) : spoken? op ≠ none := by
  obtain ⟨e, he, rfl⟩ := List.mem_map.mp (List.mem_filter.mp h).1
  intro hnone
  have hne := List.lookup_eq_none_iff.mp hnone e he
  simp at hne

theorem recovered_word {op : Text} (h : op ∈ compounds ∨ ∃ c, op = [c]) :
    recovered (word op) = op := by
  unfold recovered word
  cases hspoken : spoken? op with
  | some spoken =>
    rw [Option.getD_some, written?_of_spoken? hspoken]
    rfl
  | none =>
    obtain ⟨c, rfl⟩ := h.resolve_left fun hop => spoken?_of_mem_compounds hop hspoken
    rw [Option.getD_none, List.flatMap_singleton, written?_fallbackName hspoken]
    rfl

/-- A text has one division in which each operator is the longest one that stands at its place, and
this is how it is divided. A pattern with the compound operators as alternatives finds the same. The
operators make up the text, and they are recovered from their spoken forms. -/
theorem longest_and_recovered (t : Text) :
    (∀ ops, LongestMatch t ops ↔ ops = split t) ∧
      (∃ p, Pattern.compile? {} pattern = some p ∧
        p.node.scan t = (split t).map fun op => .found ⟨op, []⟩) ∧
      (split t).flatten = t ∧ (words t).flatMap recovered = t := by
  have hmatch := longestMatch_split t
  refine ⟨fun ops => ⟨LongestMatch.eq_split, fun h => h ▸ hmatch⟩, ?_, hmatch.flatten_eq, ?_⟩
  · obtain ⟨_, hunmarked, hconsumes⟩ := longestFirst_sound
    exact ⟨_, compile_pattern, hmatch.scanFrom_eq hunmarked hconsumes takes_longestFirst none⟩
  · have hrecovered : ∀ op ∈ split t, recovered (word op) = op :=
      fun op hop => recovered_word (hmatch.compound_or_character hop)
    calc (words t).flatMap recovered
        = (split t).flatMap fun op => recovered (word op) := by rw [words, List.flatMap_map]
      _ = (split t).flatMap id := List.flatMap_congr hrecovered
      _ = t := by rw [List.flatMap_id, hmatch.flatten_eq]

end Dictation.Operator
