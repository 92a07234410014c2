import Dictation.Proofs.Text.LetterCase
import Dictation.Proofs.Vocabulary.Reliable
import Dictation.Vocabulary.Compiled
import Dictation.Vocabulary.Layered
import Dictation.Vocabulary.WordList
/-!
# Stored vocabularies

Word lists, compiled vocabularies and any layers of them answer every query without a tab, and in what they
answer the case of the words makes no difference.
-/
namespace Dictation

namespace Text

theorem lower_eq_nil_iff {w : Text} : w.lower = [] ↔ w = [] :=
  ⟨fun h => by_contra fun hne => lower_ne_nil hne h, fun h => by rw [h]; rfl⟩

end Text

theorem Answers.toQuery_congr (f : Text → List Text) {query query' : List Text}
    (h : query.map Text.lower = query'.map Text.lower) : toQuery f query = toQuery f query' := by
  have hkept : ∀ q : List Text, (q.filter (!·.isEmpty)).map Text.lower =
      (q.map Text.lower).filter (!·.isEmpty) := by
    intro q
    rw [List.filter_map]
    refine congrArg _ (List.filter_congr fun w _ => ?_)
    rw [Function.comp_apply, Bool.eq_iff_iff]
    simp [Text.lower_eq_nil_iff]
  rw [toQuery, toQuery, hkept, hkept, h]

namespace Vocabulary

/-- The vocabularies that are held in stores, one inside the other to any depth. -/
inductive Stored : Vocabulary → Prop where
  | wordList (l : WordList) : Stored l.toVocabulary
  | compiled (v : CompiledVocabulary) : Stored v.toVocabulary
  | layered (layers : List Vocabulary) : (∀ v ∈ layers, Stored v) → Stored (Vocabulary.layered layers)

/-- Compiled vocabularies refuse nothing but words with a tab in lower case. -/
theorem haveWords_compiled_lower (v : CompiledVocabulary) {query : List Text} (h : ∀ w ∈ query, '\t' ∉ w.lower) :
    v.haveWords query = .ok (.toQuery v.pronunciations query) := by
  have hkept : ∀ w ∈ query.filter (!·.isEmpty), '\t' ∉ w.lower := fun w hw => h w (List.mem_filter.mp hw).1
  rw [CompiledVocabulary.haveWords, Answers.toQuery]
  generalize query.filter (!·.isEmpty) = ws at hkept
  generalize Answers.empty = found
  induction ws generalizing found with
  | nil => rfl
  | cons w ws ih =>
    rw [List.foldlM_cons, if_neg (hkept w List.mem_cons_self)]
    exact ih (fun u hu => hkept u (List.mem_cons_of_mem w hu)) _

theorem haveWords_compiled (v : CompiledVocabulary) {query : List Text} (h : ∀ w ∈ query, '\t' ∉ w) :
    v.haveWords query = .ok (.toQuery v.pronunciations query) :=
  haveWords_compiled_lower v fun w hw htab => h w hw (Text.tab_of_mem_lower htab)

theorem foldlM_ok {ε α β : Type} {f : β → α → Except ε β} {xs : List α}
    (h : ∀ x ∈ xs, ∀ b, ∃ c, f b x = .ok c) (b : β) : ∃ c, xs.foldlM f b = .ok c := by
  induction xs generalizing b with
  | nil => exact ⟨b, rfl⟩
  | cons x xs ih =>
    obtain ⟨c, hc⟩ := h x List.mem_cons_self b
    rw [List.foldlM_cons, hc]
    exact ih (fun y hy => h y (List.mem_cons_of_mem x hy)) c

theorem Stored.answering {v : Vocabulary} (hv : Stored v) : v.Answering := by
  intro query h
  induction hv with
  | wordList l => exact ⟨_, rfl⟩
  | compiled v => exact ⟨_, haveWords_compiled v h⟩
  | layered layers _ ih =>
    refine foldlM_ok (fun v hv found => ?_) Answers.empty
    obtain ⟨a, ha⟩ := ih v hv
    rw [ha]
    exact ⟨_, rfl⟩

/-- A vocabulary whose answers depend on the words in lower case only. -/
def CaseBlind (v : Vocabulary) : Prop :=
  ∀ {query query' : List Text} {a a' : Answers}, query.map Text.lower = query'.map Text.lower →
    v.haveWords query = .ok a → v.haveWords query' = .ok a' → ∀ w, a.of w = a'.of w

theorem CaseBlind.contains_lower {v : Vocabulary} (hcase : v.CaseBlind) {p : Text → Prop} (hv : v.AnswersOn p)
    {w : Text} (hw : p w ∧ p w.lower) : v.contains w.lower = v.contains w := by
  obtain ⟨a, ha⟩ := hv [w] (List.forall_mem_singleton.mpr hw.1)
  obtain ⟨a', ha'⟩ := hv [w.lower] (List.forall_mem_singleton.mpr hw.2)
  have hsame : [w].map Text.lower = [w.lower].map Text.lower := by
    rw [List.map_singleton, List.map_singleton, Text.lower_lower]
  rw [contains, contains, ha, ha', Text.lower_lower]
  change Except.ok (a'.knows w.lower) = Except.ok (a.knows w.lower)
  rw [Answers.knows, Answers.knows, hcase hsame ha ha']

theorem eq_of_haveWords_compiled {v : CompiledVocabulary} {query : List Text} {a : Answers}
    (h : v.haveWords query = .ok a) : a = .toQuery v.pronunciations query := by
  rw [CompiledVocabulary.haveWords] at h
  rw [Answers.toQuery]
  generalize query.filter (!·.isEmpty) = ws at h
  generalize Answers.empty = found at h
  induction ws generalizing found with
  | nil =>
    cases h
    rfl
  | cons w ws ih =>
    rw [List.foldlM_cons] at h
    split at h
    · cases h
    · exact ih _ h

section
variable {query query' : List Text} {a a' : Answers}

theorem haveWords_layered_congr {layers : List Vocabulary}
    (h : ∀ v ∈ layers, ∀ a a', v.haveWords query = .ok a → v.haveWords query' = .ok a' → a = a')
    (ha : (layered layers).haveWords query = .ok a) (ha' : (layered layers).haveWords query' = .ok a') :
    a = a' := by
  change layers.foldlM _ Answers.empty = _ at ha ha'
  generalize Answers.empty = found at ha ha'
  induction layers generalizing found with
  | nil =>
    cases ha
    cases ha'
    rfl
  | cons v layers ih =>
    rw [List.foldlM_cons] at ha ha'
    cases hfirst : v.haveWords query with
    | error e =>
      rw [hfirst] at ha
      cases ha
    | ok b =>
      cases hfirst' : v.haveWords query' with
      | error e =>
        rw [hfirst'] at ha'
        cases ha'
      | ok b' =>
        obtain rfl := h v List.mem_cons_self b b' hfirst hfirst'
        rw [hfirst] at ha
        rw [hfirst'] at ha'
        exact ih (fun v' hv' => h v' (List.mem_cons_of_mem v hv')) _ ha ha'

theorem Stored.haveWords_congr {v : Vocabulary} (hv : Stored v)
    (hquery : query.map Text.lower = query'.map Text.lower) (ha : v.haveWords query = .ok a)
    (ha' : v.haveWords query' = .ok a') : a = a' := by
  induction hv generalizing a a' with
  | wordList l =>
    cases ha
    cases ha'
    exact Answers.toQuery_congr l.answers.of hquery
  | compiled v =>
    rw [eq_of_haveWords_compiled ha, eq_of_haveWords_compiled ha', Answers.toQuery_congr _ hquery]
  | layered layers _ ih => exact haveWords_layered_congr (fun v hv a a' => ih v hv) ha ha'

end

theorem Stored.caseBlind {v : Vocabulary} (hv : Stored v) : v.CaseBlind :=
  fun hquery ha ha' w => by rw [hv.haveWords_congr hquery ha ha']

end Vocabulary

end Dictation
