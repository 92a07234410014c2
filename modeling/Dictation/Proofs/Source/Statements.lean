import Dictation.Proofs.Source.Encoding
import Dictation.Proofs.Source.Layout
import Dictation.Proofs.Source.Names
import Dictation.Proofs.Source.Spoken
import Mathlib.Data.List.Forall2
/-!
# Every line is a statement

A vocabulary that answers lets every line of a source be spoken. No line is mute, so that there is one
statement for each, and what stands behind the last newline only closes blocks.
-/
namespace Dictation

namespace Cue

theorem speakAll_yields {segment : Text → Except VocabularyError (List Text)} {cues : List Cue}
    (hsegment : ∀ word, .name word ∈ cues → ∃ segments, segment word = .ok segments) :
    Yields (speakAll segment cues) fun words => cues ≠ [] → words ≠ [] := by
  induction cues with
  | nil => exact .pure fun h => absurd rfl h
  | cons cue rest ih =>
    have hcue : Yields (cue.speak segment) fun words => words ≠ [] := by
      cases cue with
      | fixed w => exact .pure (List.cons_ne_nil _ _)
      | name w =>
        obtain ⟨segments, hsegments⟩ := hsegment w List.mem_cons_self
        refine ⟨frame w segments, by rw [speak, hsegments]; rfl, ?_⟩
        unfold frame
        split <;> exact List.cons_ne_nil _ _
    have hrest := ih fun word hword => hsegment word (List.mem_cons_of_mem cue hword)
    exact hcue.bind fun first hfirst => hrest.bind fun others _ =>
      .pure fun _ => List.append_ne_nil_of_left_ne_nil hfirst others

theorem speakAll_fixed (segment : Text → Except VocabularyError (List Text)) (ws : List Text) :
    speakAll segment (ws.map fixed) = .ok ws := by
  induction ws with
  | nil => rfl
  | cons w ws ih =>
    rw [List.map_cons, speakAll, ih]
    rfl

theorem speakAll_append_eq {m : Type → Type} [Monad m] [LawfulMonad m] (segment : Text → m (List Text))
    (cs ds : List Cue) :
    speakAll segment (cs ++ ds) = do
      let words ← speakAll segment cs
      let others ← speakAll segment ds
      return words ++ others := by
  induction cs with
  | nil => simp [speakAll]
  | cons c cs ih => simp [speakAll, ih, ← List.append_assoc]

theorem speakAll_append {segment : Text → Except VocabularyError (List Text)} {cs ds : List Cue}
    {ws us : List Text} (hcs : speakAll segment cs = .ok ws) (hds : speakAll segment ds = .ok us) :
    speakAll segment (cs ++ ds) = .ok (ws ++ us) := by
  rw [speakAll_append_eq, hcs, hds]
  rfl

end Cue

namespace Source

variable {segment : Text → Except VocabularyError (List Text)}

theorem Lexeme.cues_ne_nil (k : Combiners) {l : Lexeme} (hkind : l.kind.isContent = true)
    (htext : l.text ≠ []) : l.cues k ≠ [] := by
  unfold Lexeme.cues
  cases hl : l.kind with
  | newline => simp [hl, Kind.isContent] at hkind
  | indent => exact List.cons_ne_nil _ _
  | dedent => exact List.cons_ne_nil _ _
  | operator => exact List.cons_ne_nil _ _
  | number =>
    dsimp only
    unfold numberCues
    split
    case h_1 ws hws => simpa using numberWords_ne_nil htext hws
    case h_2 => exact Cue.ofText_ne_nil k htext
  | name => exact identifierCues_ne_nil k htext
  | string => simp [stringCues]
  | comment => simp [commentCues]

theorem lineCues_ne_nil (k : Combiners) {t : Text} {line : Line}
    (hline : ∀ l ∈ line.lexemes, l ∈ lexemes t) : line.lexemes.flatMap (Lexeme.cues k) ≠ [] := by
  obtain ⟨l, content, hcontent⟩ := List.exists_cons_of_ne_nil line.content_ne_nil
  have hl : l ∈ line.content := hcontent ▸ List.mem_cons_self
  have hmem : l ∈ line.lexemes := by simp [Line.lexemes, Line.body, hl]
  have hkind := line.content_isContent l hl
  have htext : l.text ≠ [] := by
    intro hnil
    rcases kind_of_text_eq_nil (hline l hmem) hnil with h | h
    all_goals
      rw [h] at hkind
      cases hkind
  intro hcues
  exact Lexeme.cues_ne_nil k hkind htext (List.flatMap_eq_nil_iff.mp hcues l hmem)

theorem speakAll_layout (k : Combiners) {ls : List Lexeme} (h : ∀ l ∈ ls, l.kind.isLayout = true) :
    Yields (Cue.speakAll segment (ls.flatMap (Lexeme.cues k))) (hasContent · = false) := by
  induction ls with
  | nil => exact .pure rfl
  | cons l ls ih =>
    have hrest := ih fun l' hl' => h l' (List.mem_cons_of_mem l hl')
    have hlayout := h l List.mem_cons_self
    obtain ⟨w, hw, hcues⟩ : ∃ w, hasContent [w] = false ∧ l.cues k = [.fixed w] := by
      unfold Lexeme.cues
      cases hl : l.kind with
      | indent => exact ⟨indentWord, by decide, rfl⟩
      | dedent => exact ⟨dedentWord, by decide, rfl⟩
      | _ => simp [hl, Kind.isLayout] at hlayout
    rw [List.flatMap_cons, hcues]
    refine Yields.bind (P := (· = [w])) (.pure rfl) fun first hfirst => hrest.bind fun others ho => ?_
    refine .pure ?_
    rw [hfirst]
    simp only [hasContent, List.any_append] at hw ho ⊢
    rw [hw, ho]
    rfl

theorem cutAtNewlines_cons {l : Lexeme} (hl : l.kind ≠ .newline) (rest : List Lexeme) :
    cutAtNewlines (l :: rest) =
      match cutAtNewlines rest with
      | ([], last) => ([], l :: last)
      | (piece :: closed, last) => ((l :: piece) :: closed, last) := by
  rw [cutAtNewlines]
  obtain ⟨closed, last⟩ := cutAtNewlines rest
  cases closed <;> cases hkind : l.kind <;> first | exact absurd hkind hl | rfl

theorem cutAtNewlines_of_forall {ls : List Lexeme} (h : ∀ l ∈ ls, l.kind ≠ .newline) :
    cutAtNewlines ls = ([], ls) := by
  induction ls with
  | nil => rfl
  | cons l ls ih =>
    rw [cutAtNewlines_cons (h l List.mem_cons_self), ih fun l' hl' => h l' (List.mem_cons_of_mem l hl')]

theorem cutAtNewlines_append {ls : List Lexeme} (h : ∀ l ∈ ls, l.kind ≠ .newline) {n : Lexeme}
    (hn : n.kind = .newline) (rest : List Lexeme) :
    cutAtNewlines (ls ++ n :: rest) = (ls :: (cutAtNewlines rest).1, (cutAtNewlines rest).2) := by
  induction ls with
  | nil => simp [cutAtNewlines, hn]
  | cons l ls ih =>
    rw [List.cons_append, cutAtNewlines_cons (h l List.mem_cons_self),
      ih fun l' hl' => h l' (List.mem_cons_of_mem l hl')]

theorem cutAtNewlines_lines (lines : List Line) {last : List Lexeme}
    (h : ∀ l ∈ last, l.kind.isLayout = true) :
    cutAtNewlines (lines.flatMap Line.lexemes ++ last) = (lines.map Line.body, last) := by
  induction lines with
  | nil =>
    exact cutAtNewlines_of_forall fun l hl => kind_ne_newline_of_isLayout (h l hl)
  | cons line lines ih =>
    have hline : (line :: lines).flatMap Line.lexemes ++ last =
        line.body ++ line.newline :: (lines.flatMap Line.lexemes ++ last) := by
      simp [Line.lexemes]
    rw [hline, cutAtNewlines_append line.kind_ne_newline line.newline_kind, ih, List.map_cons]

theorem speakEach_yields {css : List (List Cue)}
    (h : ∀ cues ∈ css, Yields (Cue.speakAll segment cues) (· ≠ [])) :
    Yields (speakEach segment css) fun wss =>
      List.Forall₂ (fun cues words => Cue.speakAll segment cues = .ok words) css wss ∧
        ∀ words ∈ wss, words ≠ [] := by
  induction css with
  | nil => exact .pure ⟨.nil, fun _ h => absurd h List.not_mem_nil⟩
  | cons cues css ih =>
    obtain ⟨words, hwords, hne⟩ := h cues List.mem_cons_self
    obtain ⟨wss, hwss, hall, hmem⟩ := ih fun cues' h' => h cues' (List.mem_cons_of_mem cues h')
    exact ⟨words :: wss, by rw [speakEach, hwords, hwss]; rfl, .cons hwords hall,
      List.forall_mem_cons.mpr ⟨hne, hmem⟩⟩

/-- The cues of a newline are none, so those of a line are those in front of it. -/
theorem flatMap_cues_lexemes (k : Combiners) (line : Line) :
    line.lexemes.flatMap (Lexeme.cues k) = line.body.flatMap (Lexeme.cues k) := by
  have hnewline : line.newline.cues k = [] := by rw [Lexeme.cues, line.newline_kind]
  simp [Line.lexemes, hnewline]

/-- The statements of a source are the words of its lines, and none is without words. -/
theorem encodeSource_yields (k : Combiners) {t : Text}
    (hsegment : ∀ l ∈ lexemes t, ∀ word, .name word ∈ l.cues k → ∃ segments, segment word = .ok segments)
    {lines : List Line} {last : List Lexeme}
    (hlines : lexemes t = lines.flatMap Line.lexemes ++ last)
    (hlast : ∀ l ∈ last, l.kind.isLayout = true) :
    Yields (encodeSource segment k t) fun statements =>
      List.Forall₂ (fun line words =>
        Cue.speakAll segment (line.lexemes.flatMap (Lexeme.cues k)) = .ok words) lines statements ∧
        ∀ words ∈ statements, words ≠ [] := by
  unfold encodeSource encode
  rw [hlines, cutAtNewlines_lines lines hlast]
  have hspoken : ∀ cues ∈ (lines.map Line.body).map fun piece => piece.flatMap (Lexeme.cues k),
      Yields (Cue.speakAll segment cues) (· ≠ []) := by
    intro cues hcues
    obtain ⟨_, hbody, rfl⟩ := List.mem_map.mp hcues
    obtain ⟨line, hline, rfl⟩ := List.mem_map.mp hbody
    have hmem : ∀ l ∈ line.lexemes, l ∈ lexemes t := by
      intro l hl
      rw [hlines]
      exact List.mem_append_left _ (List.mem_flatMap.mpr ⟨line, hline, hl⟩)
    rw [← flatMap_cues_lexemes]
    have hnames : ∀ word, .name word ∈ line.lexemes.flatMap (Lexeme.cues k) →
        ∃ segments, segment word = .ok segments := by
      intro word hword
      obtain ⟨l, hl, hword⟩ := List.mem_flatMap.mp hword
      exact hsegment l (hmem l hl) word hword
    exact (Cue.speakAll_yields hnames).imp fun words hwords => ⟨hwords.1, hwords.2 (lineCues_ne_nil k hmem)⟩
  refine (speakEach_yields hspoken).bind fun statements hall => ?_
  refine (speakAll_layout k hlast).bind fun words hwords => .pure ?_
  have hfilter : statements.filter (!·.isEmpty) = statements :=
    List.filter_eq_self.mpr fun words hmem => by simpa using hall.2 words hmem
  rw [hfilter, hwords, if_neg Bool.false_ne_true, List.append_nil]
  refine ⟨?_, hall.2⟩
  have heach := hall.1
  rw [List.map_map, List.forall₂_map_left_iff] at heach
  exact heach.imp fun line words h => flatMap_cues_lexemes k line ▸ h

theorem countP_newline_lines (lines : List Line) {last : List Lexeme}
    (h : ∀ l ∈ last, l.kind.isLayout = true) :
    (lines.flatMap Line.lexemes ++ last).countP (·.kind = .newline) = lines.length := by
  have hnone : ∀ ls : List Lexeme, (∀ l ∈ ls, l.kind ≠ .newline) → ls.countP (·.kind = .newline) = 0 :=
    fun ls hls => List.countP_eq_zero.mpr fun l hl => by simpa using hls l hl
  induction lines with
  | nil => exact hnone last fun l hl => kind_ne_newline_of_isLayout (h l hl)
  | cons line lines ih =>
    rw [List.flatMap_cons, List.append_assoc, List.countP_append, ih, Line.lexemes, List.countP_append,
      hnone _ line.kind_ne_newline, List.length_cons]
    simp [line.newline_kind, Nat.add_comm]

/-- The lexemes of a source are lines, each with markers of blocks, something of content and a newline,
and markers of blocks behind them. At each place of the reading the columns of the open blocks rise
from the margin; blocks are closed only if they are open, and at the end all of them are closed. If the
vocabulary answers, each line is one statement, whatever sound memo the encoder starts with, and all
that is left out stands behind the last newline. -/
theorem encodeSource_lines (t : Text) :
    (∀ out p u, Reaches t out p u → slices t = out ++ slicesFrom p u ∧ Rising p.indents) ∧
      (∀ front, front <+: lexemes t → closes front ≤ opens front) ∧
      opens (lexemes t) = closes (lexemes t) ∧
      ∃ (lines : List Line) (last : List Lexeme),
        lexemes t = lines.flatMap Line.lexemes ++ last ∧
        (∀ l ∈ last, l.kind.isLayout = true) ∧
        ∀ (s : Segmenter) (k : Combiners), s.vocabulary.Answering → ∃ statements,
          (∀ memo, s.Sound memo →
            ((encodeSource s.segmentMemo k t).run.run memo).1 = .ok statements) ∧
          statements.length = (lexemes t).countP (·.kind = .newline) ∧
          (∀ words ∈ statements, words ≠ []) ∧
          List.Forall₂ (fun line words =>
            Cue.speakAll s.segment (line.lexemes.flatMap (Lexeme.cues k)) = .ok words)
            lines statements := by
  have hnested := nested_lexemes t
  obtain ⟨lines, last, hlines, hlast⟩ := exists_lines t
  refine ⟨fun out p u h => ⟨h.slices_eq, h.nested.2⟩, fun front hfront => hnested.closes_le hfront,
    hnested.opens_eq, lines, last, hlines, hlast, fun s k hv => ?_⟩
  obtain ⟨statements, hstatements, hall, hne⟩ :=
    encodeSource_yields k (fun l _ => (namesIn_cues k l).exists_segments hv) hlines hlast
  refine ⟨statements, fun memo hmemo => ?_, ?_, hne, hall⟩
  · exact (encodeDocument_computes s k .source t memo hmemo).1.trans hstatements
  · rw [hlines, countP_newline_lines lines hlast, hall.length_eq]

/-- A block within brackets and one that the end closes: three lines, three statements. -/
theorem encodeSource_lines_blocks :
    let v : CompiledVocabulary := ⟨["move\tM UW V", "over\tOW V ER"]⟩
    let s : Segmenter := ⟨.layered [(WordList.ofWords ["c"]).toVocabulary, v.toVocabulary], true⟩
    let t := "if a(\n    b):\n  moveover\n# c".toList
    s.vocabulary.Answering ∧ ∃ statements,
      ((encodeSource s.segmentMemo {} t).run.run ∅).1 = .ok statements ∧ statements.length = 3 := by
  intro v s t
  have hlayers : ∀ u ∈ [(WordList.ofWords ["c"]).toVocabulary, v.toVocabulary], u.Stored :=
    List.forall_mem_cons.mpr ⟨.wordList _, List.forall_mem_singleton.mpr (.compiled v)⟩
  have hv : s.vocabulary.Answering := (Vocabulary.Stored.layered _ hlayers).answering
  have hcount : (lexemes t).countP (·.kind = .newline) = 3 := by decide +kernel
  obtain ⟨_, _, _, lines, last, _, _, hencode⟩ := encodeSource_lines t
  obtain ⟨statements, hmemo, hlength, _, _⟩ := hencode s {} hv
  exact ⟨hv, statements, hmemo ∅ s.sound_empty, hlength.trans hcount⟩

end Source

end Dictation
