import Dictation.Vocabulary.WordList
/-!
# Reliable vocabularies

A vocabulary is reliable about words of some kind if it answers every query for such words, and says the
same of a word whatever else it is asked for. Word lists are reliable about all words.
-/
namespace Dictation

/-- Words of some kind, of which the stretches are of the kind as well. -/
def StretchClosed (p : Text → Prop) : Prop := ∀ ⦃w u : Text⦄, p w → u <:+: w → p u

theorem stretchClosed_isInfix (word : Text) : StretchClosed (· <:+: word) := fun _ _ h hu => hu.trans h

theorem stretchClosed_not_mem (c : Char) : StretchClosed (c ∉ ·) :=
  fun _ _ h hu hc => h (hu.subset hc)

theorem StretchClosed.or {p q : Text → Prop} (hp : StretchClosed p) (hq : StretchClosed q) :
    StretchClosed fun w => p w ∨ q w :=
  fun _ _ h hu => h.imp (hp · hu) (hq · hu)

namespace Vocabulary

variable {v : Vocabulary} {p q : Text → Prop}

/-- A vocabulary that answers every query for words of some kind, be it rightly or not. -/
def AnswersOn (v : Vocabulary) (p : Text → Prop) : Prop :=
  ∀ query : List Text, (∀ w ∈ query, p w) → ∃ a, v.haveWords query = .ok a

/-- A vocabulary that answers every query without a tab. No compiled vocabulary answers others. -/
def Answering (v : Vocabulary) : Prop := v.AnswersOn ('\t' ∉ ·)

/-- A vocabulary that answers every query for words of some kind, and the same for a word wherever it is
asked for. -/
structure Reliable (v : Vocabulary) (p : Text → Prop) : Prop where
  answers : v.AnswersOn p
  consistent {query : List Text} {a : Answers} {w : Text} : (∀ w ∈ query, p w) →
    v.haveWords query = .ok a → w ∈ query → v.contains w = .ok (a.knows w.lower)

theorem AnswersOn.mono (h : v.AnswersOn q) (hpq : ∀ w, p w → q w) : v.AnswersOn p :=
  fun query hquery => h query fun w hw => hpq w (hquery w hw)

theorem Reliable.mono (h : v.Reliable q) (hpq : ∀ w, p w → q w) : v.Reliable p where
  answers := h.answers.mono hpq
  consistent hquery := h.consistent fun w hw => hpq w (hquery w hw)

theorem Reliable.onStretches (h : v.Reliable ('\t' ∉ ·)) {word : Text} (hword : '\t' ∉ word) :
    v.Reliable (· <:+: word) :=
  h.mono fun _ hw => stretchClosed_not_mem '\t' hword hw

end Vocabulary

theorem Sized.of_inj {w w' : Text} : Sized.of w = Sized.of w' ↔ w = w' := by
  constructor
  · intro h
    exact congrArg Sized.word h
  · intro h
    rw [h]

namespace Answers

@[simp] theorem of_empty (w : Text) : empty.of w = [] := rfl

private theorem lookup_putEntry (key key' : Sized) (prons : List Text)
    (es : List (Sized × List Text)) :
    (putEntry key prons es).lookup key' = if key = key' then some prons else es.lookup key' := by
  induction es with
  | nil =>
    by_cases h : key = key'
    · subst h
      simp [putEntry]
    · have hbeq : (key' == key) = false := beq_eq_false_iff_ne.mpr (Ne.symm h)
      simp [putEntry, List.lookup_cons, hbeq, h]
  | cons e rest ih =>
    obtain ⟨w, ps⟩ := e
    by_cases hw : w = key
    · subst hw
      by_cases h : w = key'
      · subst h
        simp [putEntry]
      · have hbeq : (key' == w) = false := beq_eq_false_iff_ne.mpr (Ne.symm h)
        simp [putEntry, List.lookup_cons, hbeq, h]
    · rw [putEntry, if_neg hw]
      by_cases hkey : key' = w
      · subst hkey
        have hne : key ≠ key' := fun h => hw h.symm
        simp [hne]
      · have hbeq : (key' == w) = false := beq_eq_false_iff_ne.mpr hkey
        rw [List.lookup_cons, List.lookup_cons, hbeq, ih]

theorem of_put (a : Answers) (w w' : Text) (prons : List Text) :
    (a.put w prons).of w' = if w = w' then prons else a.of w' := by
  simp only [of, put, lookup_putEntry, Sized.of_inj]
  by_cases h : w = w'
  · rw [if_pos h, if_pos h]
    rfl
  · rw [if_neg h, if_neg h]

end Answers

theorem lowerChar_ne_nil (c : Char) : lowerChar c ≠ [] := by
  unfold lowerChar
  split
  · exact List.cons_ne_nil _ _
  · split
    · exact List.cons_ne_nil _ _
    · exact List.cons_ne_nil _ _

theorem Text.lower_ne_nil {w : Text} (h : w ≠ []) : w.lower ≠ [] := by
  cases w with
  | nil => exact absurd rfl h
  | cons c rest =>
    unfold lower
    split
    · exact h
    · split
      · simp only [lowerAfter]
        split
        · split <;> exact List.cons_ne_nil _ _
        · exact List.append_ne_nil_of_left_ne_nil (lowerChar_ne_nil c) _
      · rw [List.flatMap_cons]
        exact List.append_ne_nil_of_left_ne_nil (lowerChar_ne_nil c) _

namespace Answers

theorem of_foldl_put (f : Text → List Text) (ws : List Text) (found : Answers) (w : Text) :
    (ws.foldl (fun found w => found.put w (f w)) found).of w = if w ∈ ws then f w else found.of w := by
  induction ws generalizing found with
  | nil => simp
  | cons v rest ih =>
    rw [List.foldl_cons, ih, of_put]
    by_cases hrest : w ∈ rest
    · simp [hrest]
    · by_cases hv : v = w
      · subst hv
        simp [hrest]
      · have hne : ¬ w = v := fun h => hv h.symm
        simp [hrest, hv, hne]

/-- The answers to a query, with the pronunciations of a word supplied by `f`. -/
def toQuery (f : Text → List Text) (query : List Text) : Answers :=
  ((query.filter (!·.isEmpty)).map Text.lower).foldl (fun found w => found.put w (f w)) .empty

theorem of_toQuery (f : Text → List Text) (query : List Text) (w : Text) (h : w ∈ query) :
    (toQuery f query).of w.lower = if w = [] then [] else f w.lower := by
  rw [toQuery, of_foldl_put]
  by_cases hnil : w = []
  · subst hnil
    have hnot : Text.lower [] ∉ (query.filter (!·.isEmpty)).map Text.lower := by
      intro hmem
      obtain ⟨v, hv, hlower⟩ := List.mem_map.mp hmem
      have hne : v ≠ [] := by
        have := (List.mem_filter.mp hv).2
        simpa [List.isEmpty_iff] using this
      exact Text.lower_ne_nil hne hlower
    rw [if_neg hnot]
    rfl
  · have hmem : w.lower ∈ (query.filter (!·.isEmpty)).map Text.lower :=
      List.mem_map_of_mem (List.mem_filter.mpr ⟨h, by simp [hnil]⟩)
    rw [if_pos hmem, if_neg hnil]

end Answers

namespace WordList

theorem of_haveWords (l : WordList) (query : List Text) (w : Text) (h : w ∈ query) :
    (l.haveWords query).of w.lower = if w = [] then [] else l.answers.of w.lower :=
  Answers.of_toQuery l.answers.of query w h

theorem reliable (l : WordList) (p : Text → Prop) : l.toVocabulary.Reliable p where
  answers query _ := ⟨_, rfl⟩
  consistent := by
    intro query a w _ ha hw
    cases ha
    change Except.ok ((l.haveWords [w]).knows w.lower) = _
    simp only [Answers.knows, of_haveWords l query w hw, of_haveWords l [w] w List.mem_cons_self]

theorem answering (l : WordList) : l.toVocabulary.Answering := (l.reliable _).answers

end WordList

end Dictation
