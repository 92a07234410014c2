import Dictation.Proofs.Source.Statements
/-!
# The open statement

Lexemes are cut at their newlines, and the words of each piece are a statement. What stands behind the
last newline is left out if all of its words are said where blocks begin and end. The markers of blocks
say such words, and so does a name that is spelled like them: of an open statement that consists of such
names nothing is left.
-/
namespace Dictation.Source

open Segmenter

/-- A cut of lexemes at their newlines: the pieces that a newline ends, and those behind the last one.
-/
inductive IsCut : List Lexeme → List (List Lexeme) → List Lexeme → Prop where
  | last {ls : List Lexeme} (h : ∀ l ∈ ls, l.kind ≠ .newline) : IsCut ls [] ls
  | next {piece rest last : List Lexeme} {closed : List (List Lexeme)} {n : Lexeme}
      (h : ∀ l ∈ piece, l.kind ≠ .newline) (hn : n.kind = .newline) (hrest : IsCut rest closed last) :
      IsCut (piece ++ n :: rest) (piece :: closed) last

theorem exists_isCut (ls : List Lexeme) : ∃ closed last, IsCut ls closed last := by
  induction ls with
  | nil => exact ⟨[], [], .last nofun⟩
  | cons l ls ih =>
    obtain ⟨closed, last, hcut⟩ := ih
    by_cases hl : l.kind = .newline
    · have hempty : ∀ l' ∈ ([] : List Lexeme), l'.kind ≠ .newline := nofun
      exact ⟨[] :: closed, last, .next hempty hl hcut⟩
    · cases hcut with
      | last h => exact ⟨[], l :: ls, .last (List.forall_mem_cons.mpr ⟨hl, h⟩)⟩
      | next h hn hrest =>
        exact ⟨_, last, .next (List.forall_mem_cons.mpr ⟨hl, h⟩) hn hrest⟩

theorem IsCut.cutAtNewlines_eq {ls last : List Lexeme} {closed : List (List Lexeme)}
    (h : IsCut ls closed last) : cutAtNewlines ls = (closed, last) := by
  induction h with
  | last h => exact cutAtNewlines_of_forall h
  | next h hn _ ih => rw [cutAtNewlines_append h hn, ih]

/-- The words of pieces, without the pieces that say nothing. -/
def statementsOf (words : Lexeme → List Text) (pieces : List (List Lexeme)) : List (List Text) :=
  (pieces.map (·.flatMap words)).filter (· ≠ [])

/-- Lexemes that say something and do not all mark blocks, although all their words are said for
blocks. -/
structure LooksLikeLayout (words : Lexeme → List Text) (ls : List Lexeme) : Prop where
  ne_nil : ls.flatMap words ≠ []
  content : ∃ l ∈ ls, l.kind.isLayout = false
  words_eq : ∀ w ∈ ls.flatMap words, w = indentWord ∨ w = dedentWord

theorem hasContent_iff (ws : List Text) :
    hasContent ws = true ↔ ∃ w ∈ ws, w ≠ indentWord ∧ w ≠ dedentWord := by
  simp [hasContent]

section
variable {segment : Text → Except VocabularyError (List Text)} {k : Combiners}
  {words : Lexeme → List Text} (hwords : ∀ l, Cue.speakAll segment (l.cues k) = .ok (words l))
include hwords

/-- The words of a piece are those of its lexemes, in order. -/
theorem speakAll_lexemes (ls : List Lexeme) :
    Cue.speakAll segment (ls.flatMap (Lexeme.cues k)) = .ok (ls.flatMap words) := by
  induction ls with
  | nil => rfl
  | cons l ls ih => exact Cue.speakAll_append (hwords l) ih

theorem speakEach_lexemes (pieces : List (List Lexeme)) :
    speakEach segment (pieces.map fun piece => piece.flatMap (Lexeme.cues k)) =
      .ok (pieces.map (·.flatMap words)) := by
  induction pieces with
  | nil => rfl
  | cons piece pieces ih =>
    rw [List.map_cons, speakEach, speakAll_lexemes hwords, ih]
    rfl

theorem encode_of_isCut {ls last : List Lexeme} {closed : List (List Lexeme)}
    (h : IsCut ls closed last) :
    encode segment k ls = .ok (statementsOf words closed ++
      if hasContent (last.flatMap words) then [last.flatMap words] else []) := by
  have hfilter : (closed.map (·.flatMap words)).filter (!·.isEmpty) = statementsOf words closed :=
    List.filter_congr fun ws _ => by cases ws <;> rfl
  unfold encode
  rw [h.cutAtNewlines_eq]
  dsimp only
  rw [speakEach_lexemes hwords, speakAll_lexemes hwords, ← hfilter]
  rfl

theorem hasContent_of_isLayout {ls : List Lexeme} (h : ∀ l ∈ ls, l.kind.isLayout = true) :
    hasContent (ls.flatMap words) = false := by
  have hyields : Yields (Cue.speakAll segment (ls.flatMap (Lexeme.cues k))) (hasContent · = false) :=
    speakAll_layout k h
  obtain ⟨ws, hws, hcontent⟩ := hyields
  rw [speakAll_lexemes hwords] at hws
  cases hws
  exact hcontent

/-- Leaving out an open statement without content is leaving out one without other lexemes than markers
of blocks, unless it only looks like that. -/
theorem open_eq_iff (last : List Lexeme) :
    (if hasContent (last.flatMap words) then [last.flatMap words] else []) =
        statementsOf words (if ∀ l ∈ last, l.kind.isLayout = true then [] else [last]) ↔
      ¬ LooksLikeLayout words last := by
  by_cases hlayout : ∀ l ∈ last, l.kind.isLayout = true
  · have hnot : ¬ LooksLikeLayout words last := by
      rintro ⟨_, ⟨l, hl, hkind⟩, _⟩
      rw [hlayout l hl] at hkind
      cases hkind
    rw [if_pos hlayout, hasContent_of_isLayout hwords hlayout]
    exact iff_of_true rfl hnot
  · have hkind : ∃ l ∈ last, l.kind.isLayout = false := by simpa using hlayout
    rw [if_neg hlayout]
    by_cases hcontent : hasContent (last.flatMap words) = true
    · obtain ⟨w, hw, hindent, hdedent⟩ := (hasContent_iff _).mp hcontent
      have hnot : ¬ LooksLikeLayout words last := fun h => (h.words_eq w hw).elim hindent hdedent
      have hsaid : last.flatMap words ≠ [] := List.ne_nil_of_mem hw
      rw [if_pos hcontent]
      exact iff_of_true (by simp [statementsOf, hsaid]) hnot
    · have hall : ∀ w ∈ last.flatMap words, w = indentWord ∨ w = dedentWord := by
        intro w hw
        by_contra hne
        exact hcontent ((hasContent_iff _).mpr ⟨w, hw, not_or.mp hne⟩)
      rw [if_neg hcontent]
      by_cases hnil : last.flatMap words = []
      · exact iff_of_true (by simp [statementsOf, hnil]) fun h => h.ne_nil hnil
      · exact iff_of_false (by simp [statementsOf, hnil]) fun h => h ⟨hnil, hkind, hall⟩

end

/-- The words of lexemes stand in order in the statements that the newlines cut, whatever sound memo the
encoder starts with, and the open statement is kept if it says anything that is not said for blocks. So
exactly the pieces that say something are statements, but for an open one that consists of markers of
blocks, unless the open one only looks like that: it is left out as well. -/
theorem encode_keeps_iff (s : Segmenter) (k : Combiners) (hv : s.vocabulary.Answering)
    (ls : List Lexeme) :
    ∃ (words : Lexeme → List Text) (closed : List (List Lexeme)) (last : List Lexeme)
      (statements : List (List Text)),
      (∀ l, Cue.speakAll s.segment (l.cues k) = .ok (words l)) ∧
      IsCut ls closed last ∧
      (∀ memo, s.Sound memo → ((encode s.segmentMemo k ls).run.run memo).1 = .ok statements) ∧
      (statements = statementsOf words closed ++
        if ∃ w ∈ last.flatMap words, w ≠ indentWord ∧ w ≠ dedentWord then [last.flatMap words]
        else []) ∧
      (statements = statementsOf words
          (closed ++ if ∀ l ∈ last, l.kind.isLayout = true then [] else [last]) ↔
        ¬ LooksLikeLayout words last) := by
  have hspoken : ∀ l, ∃ ws, Cue.speakAll s.segment (Lexeme.cues k l) = .ok ws := fun l =>
    (Cue.speakAll_yields ((namesIn_cues k l).exists_segments hv)).imp fun _ h => h.1
  choose words hwords using hspoken
  obtain ⟨closed, last, hcut⟩ := exists_isCut ls
  have hcomputes : s.Computes (encode s.segmentMemo k ls) (encode s.segment k ls) :=
    encode_rel s.computing k fun _ _ word _ => s.segmentMemo_computes word
  refine ⟨words, closed, last, statementsOf words closed ++
    if hasContent (last.flatMap words) then [last.flatMap words] else [], hwords, hcut, ?_, ?_, ?_⟩
  · intro memo hmemo
    exact (hcomputes memo hmemo).1.trans (encode_of_isCut hwords hcut)
  · congr 1
    exact if_congr (hasContent_iff _) rfl rfl
  · have happend : statementsOf words
        (closed ++ if ∀ l ∈ last, l.kind.isLayout = true then [] else [last]) =
        statementsOf words closed ++
          statementsOf words (if ∀ l ∈ last, l.kind.isLayout = true then [] else [last]) := by
      simp [statementsOf]
    rw [happend, List.append_cancel_left_eq]
    exact open_eq_iff hwords last

/-- An open statement that begins with a marker of a block and goes on. -/
theorem encode_keeps_indent_sum :
    let s : Segmenter := ⟨(WordList.ofWords ["move", "over"]).toVocabulary, true⟩
    let last : List Lexeme := [⟨.indent, ['\t']⟩, ⟨.name, "indent".toList⟩, ⟨.operator, ['+']⟩]
    let ls := ⟨.name, "moveover".toList⟩ :: ⟨.newline, ['\n']⟩ :: last
    s.vocabulary.Answering ∧ ∃ (words : Lexeme → List Text) (statements : List (List Text)),
      ((encode s.segmentMemo {} ls).run.run ∅).1 = .ok statements ∧
        last.flatMap words = ["indent".toList, "indent".toList, "+plus".toList] ∧
        statements = statementsOf words [[⟨.name, "moveover".toList⟩], last] := by
  intro s last ls
  have hv : s.vocabulary.Answering := WordList.answering _
  obtain ⟨words, closed, last', statements, hwords, hcut, hencode, -, hiff⟩ :=
    encode_keeps_iff s {} hv ls
  obtain ⟨rfl, rfl⟩ : [[⟨.name, "moveover".toList⟩]] = closed ∧ last = last' :=
    Prod.mk.inj hcut.cutAtNewlines_eq
  have hlast : last.flatMap words = ["indent".toList, "indent".toList, "+plus".toList] := by
    have hspoken : Cue.speakAll s.segment (last.flatMap (Lexeme.cues {})) =
        .ok ["indent".toList, "indent".toList, "+plus".toList] := by
      decide +kernel
    exact Except.ok.inj ((speakAll_lexemes hwords last).symm.trans hspoken)
  have hnot : ¬ LooksLikeLayout words last := by
    intro h
    have hplus := h.words_eq "+plus".toList (by rw [hlast]; decide)
    revert hplus
    decide
  have hkept := hiff.mpr hnot
  rw [if_neg (by decide)] at hkept
  exact ⟨hv, words, statements, hencode ∅ s.sound_empty, hlast, hkept⟩

/-- A name that is spelled like the word for the beginning of a block. -/
theorem encode_indent_name :
    let s : Segmenter := ⟨WordList.empty.toVocabulary, true⟩
    let ls : List Lexeme := [⟨.name, "indent".toList⟩]
    s.vocabulary.Answering ∧ IsCut ls [] ls ∧ (∀ l ∈ ls, l.kind.isLayout = false) ∧
      Cue.speakAll s.segment (ls.flatMap (Lexeme.cues {})) = .ok ["indent".toList] ∧
      ((encode s.segmentMemo {} ls).run.run ∅).1 = .ok [] := by
  intro s ls
  refine ⟨WordList.answering _, .last (by decide), by decide, by decide +kernel, ?_⟩
  have hcomputes : s.Computes (encode s.segmentMemo {} ls) (encode s.segment {} ls) :=
    encode_rel s.computing {} fun _ _ word _ => s.segmentMemo_computes word
  have hencode : encode s.segment {} ls = .ok [] := by decide +kernel
  exact (hcomputes ∅ s.sound_empty).1.trans hencode

end Dictation.Source
