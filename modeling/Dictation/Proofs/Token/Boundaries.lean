import Dictation.Proofs.Source.LetterNames
import Dictation.Proofs.Source.Encoding
import Dictation.Proofs.Source.Statements
import Dictation.Proofs.Token.Grouping
/-!
# Texts fall apart between words

A stretch of one category that stands between words is a run and a token of its own, and neither the runs
nor the tokens around it know of one another: where a number would go on, the stretch ends it like the end
of the text does. So the words of a text are those of what stands in front of the stretch, of the stretch
and of what stands behind it, and no memo changes them.
-/
namespace Dictation

theorem Run.prepend_append (g : Category) (c : Char) {rs : List Run} (hrs : rs ≠ []) (rest : List Run) :
    prepend g c (rs ++ rest) = prepend g c rs ++ rest := by
  obtain ⟨r, others, rfl⟩ := List.exists_cons_of_ne_nil hrs
  simp only [prepend, List.cons_append]
  split <;> rfl

theorem Combiners.runs_append (k : Combiners) {x y : Text}
    (h : ∀ c ∈ x.getLast?, ∀ d ∈ y.head?, k.categoryOf c ≠ k.categoryOf d) :
    k.runs (x ++ y) = k.runs x ++ k.runs y := by
  induction x with
  | nil => rfl
  | cons c x ih =>
    cases x with
    | cons c' x =>
      have hmore := ih fun e he => h e (by simpa using he)
      rw [List.cons_append, runs, hmore, Run.prepend_append _ _ (runs_ne_nil (List.cons_ne_nil c' x))]
      rfl
    | nil =>
      cases y with
      | nil => simp [runs]
      | cons d y =>
        have hne : k.categoryOf c ≠ k.categoryOf d := h c rfl d rfl
        -- The first run behind `c` is of the category of `d`.
        obtain ⟨r, rest, hruns⟩ := List.exists_cons_of_ne_nil (runs_ne_nil (k := k) (List.cons_ne_nil d y))
        have hr : r.category = k.categoryOf d := by
          have hall := flatMap_runs (k := k) (d :: y)
          rw [hruns, List.flatMap_cons] at hall
          have hmem : r ∈ k.runs (d :: y) := hruns ▸ List.mem_cons_self
          obtain ⟨e, t, htext⟩ := List.exists_cons_of_ne_nil (text_ne_nil_of_mem_runs hmem)
          rw [htext, List.cons_append] at hall
          obtain rfl := (List.cons.inj hall).1
          exact ((mem_run hmem (htext ▸ List.mem_cons_self)).2).symm
        have hother : r.category ≠ k.categoryOf c := fun heq => hne (heq.symm.trans hr)
        rw [List.singleton_append, runs, hruns]
        simp [runs, Run.prepend, hother]

namespace Token

variable {r : Run} (hr : r.category.splitsWords = true)
include hr

/-- A run that stands between words ends a token as the end of the text does. -/
theorem splitsAt_append (rs rest : List Run) : splitsAt (rs ++ r :: rest) = splitsAt rs := by
  cases rs with
  | nil => exact (splitsAt_cons_iff r rest).mpr (.inl hr)
  | cons r' rs =>
    have hends : EndsWord (rs ++ r :: rest) ↔ EndsWord rs := by
      cases rs with
      | nil => simp [EndsWord, hr]
      | cons r'' rs => rfl
    rw [Bool.eq_iff_iff, List.cons_append, splitsAt_cons_iff, splitsAt_cons_iff, StandsAlone, StandsAlone,
      hends]

/-- The tokens in front of a run that stands between words are those without it, and so are those
behind. -/
theorem group_append (rs rest : List Run) : group (rs ++ r :: rest) = group rs ++ ⟨[r]⟩ :: group rest := by
  induction rs with
  | nil => exact group_cons_of_splitsAt (.inl ((splitsAt_cons_iff r rest).mpr (.inl hr)))
  | cons r' rs ih =>
    have hfirst := splitsAt_append hr (r' :: rs) rest
    have hrest := splitsAt_append hr rs rest
    rw [List.cons_append] at hfirst ⊢
    by_cases hsplits : splitsAt (r' :: rs) = true ∨ splitsAt rs = true
    · rw [group_cons_of_splitsAt hsplits, group_cons_of_splitsAt (by rwa [hfirst, hrest]), ih]
      rfl
    · obtain ⟨hr', hrs⟩ := not_or.mp hsplits
      obtain ⟨t, ts, hgroup, hcons⟩ := group_cons_of_not hr' hrs
      rw [← hfirst] at hr'
      rw [← hrest] at hrs
      obtain ⟨t', ts', hgroup', hcons'⟩ := group_cons_of_not hr' hrs
      rw [ih, hgroup, List.cons_append] at hgroup'
      obtain ⟨rfl, rfl⟩ := List.cons.inj hgroup'
      rw [hcons, hcons', List.cons_append]

end Token

/-- A stretch of one category that stands between words, with other categories on both sides. -/
structure Combiners.Divides (k : Combiners) (g : Category) (a sep b : Text) : Prop where
  splitsWords : g.splitsWords = true
  ne_nil : sep ≠ []
  category : ∀ c ∈ sep, k.categoryOf c = g
  before : ∀ c ∈ a.getLast?, k.categoryOf c ≠ g
  behind : ∀ c ∈ b.head?, k.categoryOf c ≠ g

section
variable {k : Combiners} {g : Category} {a sep b : Text}

theorem Combiners.tokens_stretch (hg : g.splitsWords = true) (hne : sep ≠ [])
    (hsep : ∀ c ∈ sep, k.categoryOf c = g) : k.tokens sep = [⟨[⟨g, sep⟩]⟩] := by
  have hsplits : Token.splitsAt [⟨g, sep⟩] = true := (Token.splitsAt_cons_iff _ _).mpr (.inl hg)
  rw [tokens, runs_same hne hsep, Token.group_cons_of_splitsAt (.inl hsplits)]
  rfl

theorem Combiners.Divides.tokens (h : k.Divides g a sep b) :
    k.tokens (a ++ sep ++ b) = k.tokens a ++ k.tokens sep ++ k.tokens b := by
  have hbehind : k.runs (sep ++ b) = ⟨g, sep⟩ :: k.runs b := by
    rw [k.runs_append, runs_same h.ne_nil h.category, List.singleton_append]
    intro c hc d hd
    rw [h.category c (List.mem_of_getLast? hc)]
    exact (h.behind d hd).symm
  have hbefore : k.runs (a ++ (sep ++ b)) = k.runs a ++ ⟨g, sep⟩ :: k.runs b := by
    rw [k.runs_append, hbehind]
    intro c hc d hd
    obtain ⟨e, rest, rfl⟩ := List.exists_cons_of_ne_nil h.ne_nil
    obtain rfl : e = d := by simpa using hd
    rw [h.category e List.mem_cons_self]
    exact h.before c hc
  rw [List.append_assoc, Combiners.tokens, hbefore, Token.group_append h.splitsWords,
    tokens_stretch h.splitsWords h.ne_nil h.category]
  simp [Combiners.tokens]

namespace Cue

/-- The words for a stretch that stands between words: white space is passed on, anything else is
named. -/
def betweenWords (g : Category) (sep : Text) : List Text :=
  if g = .separator then [sep] else Operator.words sep

theorem ofText_stretch (h : k.Divides g a sep b) : ofText k sep = (betweenWords g sep).map fixed := by
  have hsplitting : Token.isSplitting ⟨[⟨g, sep⟩]⟩ = true := by simp [Token.isSplitting, h.splitsWords]
  rw [ofText, Combiners.tokens_stretch h.splitsWords h.ne_nil h.category, List.flatMap_singleton, ofToken,
    if_pos hsplitting, List.flatMap_singleton, betweenWords]
  split <;> rfl

theorem ofText_append (h : k.Divides g a sep b) :
    ofText k (a ++ sep ++ b) = ofText k a ++ ofText k sep ++ ofText k b := by
  rw [ofText, h.tokens, List.flatMap_append, List.flatMap_append]
  rfl

end Cue

end

namespace Segmenter

def speakText (s : Segmenter) (k : Combiners) (t : Text) : Remembering (List Text) :=
  Cue.speakAll s.segmentMemo (Cue.ofText k t)

/-- The memo that is left after some texts were spoken one after the other. Texts on which the
vocabulary fails leave behind what was found on the way. -/
def memoAfter (s : Segmenter) (k : Combiners) (earlier : List Text) : Memo :=
  earlier.foldl (fun memo t => ((s.speakText k t).run.run memo).2) ∅

theorem speakText_computes (s : Segmenter) (k : Combiners) (t : Text) :
    s.Computes (s.speakText k t) (Cue.speakAll s.segment (Cue.ofText k t)) :=
  Source.speakAll_rel s.computing fun word _ => s.segmentMemo_computes word

theorem sound_memoAfter (s : Segmenter) (k : Combiners) (earlier : List Text) :
    s.Sound (s.memoAfter k earlier) := by
  have hsound : ∀ memo, s.Sound memo →
      s.Sound (earlier.foldl (fun memo t => ((s.speakText k t).run.run memo).2) memo) := by
    induction earlier with
    | nil => exact fun memo hmemo => hmemo
    | cons t earlier ih => exact fun memo hmemo => ih _ (s.speakText_computes k t memo hmemo).2
  exact hsound ∅ s.sound_empty

/-- If the vocabulary answers, the words of a text that a stretch divides are those of the text in front
of it, those of the stretch and those of the text behind it, whatever sound memo each of them is spoken
with; whatever was spoken earlier leaves such a memo. -/
theorem speakText_divided (s : Segmenter) (k : Combiners) (hv : s.vocabulary.Answering) {g : Category}
    {a sep b : Text} (h : k.Divides g a sep b) :
    (∀ earlier, s.Sound (s.memoAfter k earlier)) ∧
      ∃ first last : List Text, ∀ memo, s.Sound memo →
        ((s.speakText k a).run.run memo).1 = .ok first ∧
        ((s.speakText k sep).run.run memo).1 = .ok (Cue.betweenWords g sep) ∧
        ((s.speakText k b).run.run memo).1 = .ok last ∧
        ((s.speakText k (a ++ sep ++ b)).run.run memo).1 =
          .ok (first ++ Cue.betweenWords g sep ++ last) := by
  obtain ⟨first, hfirst, -⟩ := Cue.speakAll_yields ((Cue.namesIn_ofText k a).exists_segments hv)
  obtain ⟨last, hlast, -⟩ := Cue.speakAll_yields ((Cue.namesIn_ofText k b).exists_segments hv)
  have hsep : Cue.speakAll s.segment (Cue.ofText k sep) = .ok (Cue.betweenWords g sep) := by
    rw [Cue.ofText_stretch h]
    exact Cue.speakAll_fixed s.segment _
  have hwhole : Cue.speakAll s.segment (Cue.ofText k (a ++ sep ++ b)) =
      .ok (first ++ Cue.betweenWords g sep ++ last) := by
    rw [Cue.ofText_append h]
    exact Cue.speakAll_append (Cue.speakAll_append hfirst hsep) hlast
  refine ⟨s.sound_memoAfter k, first, last, fun memo hmemo => ⟨?_, ?_, ?_, ?_⟩⟩
  · exact (s.speakText_computes k a memo hmemo).1.trans hfirst
  · exact (s.speakText_computes k sep memo hmemo).1.trans hsep
  · exact (s.speakText_computes k b memo hmemo).1.trans hlast
  · exact (s.speakText_computes k (a ++ sep ++ b) memo hmemo).1.trans hwhole

/-- A number that ends in a point, and one that begins with it, with marks between them. -/
theorem speakText_divided_points :
    let v : CompiledVocabulary := ⟨["move\tM UW V", "over\tOW V ER"]⟩
    let s : Segmenter := ⟨v.toVocabulary, true⟩
    let a := "moveover 3.".toList
    let sep := "?!".toList
    let b := ".5 moveover".toList
    s.vocabulary.Answering ∧ Combiners.Divides {} .punctuation a sep b ∧
      ∃ first last : List Text, ∀ memo, s.Sound memo →
        ((s.speakText {} a).run.run memo).1 = .ok first ∧
        ((s.speakText {} b).run.run memo).1 = .ok last ∧
        ((s.speakText {} (a ++ sep ++ b)).run.run memo).1 =
          .ok (first ++ ["?question-mark".toList, "!exclamation-point".toList] ++ last) := by
  intro v s a sep b
  have hv : s.vocabulary.Answering := (Vocabulary.Stored.compiled v).answering
  have hdivides : Combiners.Divides {} .punctuation a sep b :=
    ⟨rfl, by decide, by decide, by decide, by decide⟩
  obtain ⟨-, first, last, hspoken⟩ := s.speakText_divided {} hv hdivides
  have hsep : Cue.betweenWords .punctuation sep =
      ["?question-mark".toList, "!exclamation-point".toList] := by
    decide +kernel
  refine ⟨hv, hdivides, first, last, fun memo hmemo => ?_⟩
  obtain ⟨ha, -, hb, hwhole⟩ := hspoken memo hmemo
  exact ⟨ha, hb, hsep ▸ hwhole⟩

end Segmenter

end Dictation
