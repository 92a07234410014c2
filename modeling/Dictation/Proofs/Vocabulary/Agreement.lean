import Dictation.Proofs.Vocabulary.CompiledFile
import Dictation.Proofs.Vocabulary.Listing
import Dictation.Proofs.Vocabulary.Stores
/-!
# Word lists and compiled vocabularies of a listing

A listing may be read into a word list or compiled into a file and read from there. The word list trims
the words of the entries and the compiled vocabulary does not, so the two say the same just if no word
has white space at an end.
-/
namespace Dictation

namespace Text

theorem dropPrefix?_eq_some_iff {p t rest : Text} : dropPrefix? p t = some rest ↔ t = p ++ rest := by
  induction p generalizing t with
  | nil => exact ⟨fun h => by cases h; rfl, fun h => by rw [h]; rfl⟩
  | cons c p ih =>
    cases t with
    | nil => simp [dropPrefix?]
    | cons d t =>
      rw [dropPrefix?]
      by_cases h : c = d
      · subst h
        rw [if_pos rfl, ih, List.cons_append, List.cons.injEq]
        exact ⟨fun h => ⟨rfl, h⟩, And.right⟩
      · rw [if_neg h, List.cons_append, List.cons.injEq]
        exact ⟨nofun, fun heq => absurd heq.1.symm h⟩

end Text

namespace CompiledVocabulary

theorem mem_pronunciations {v : CompiledVocabulary} {word p : Text} :
    p ∈ v.pronunciations word ↔ key word p ∈ v.keys := by
  have hkey : word ++ ['\t'] ++ p = key word p := List.append_assoc word ['\t'] p
  simp only [pronunciations, List.mem_filterMap, Text.dropPrefix?_eq_some_iff, hkey]
  exact ⟨fun ⟨_, hmem, heq⟩ => heq ▸ hmem, fun hmem => ⟨_, hmem, rfl⟩⟩

/-- The first tab of a key ends the word. -/
theorem key_inj {w w' p p' : Text} (hw : '\t' ∉ w) (hw' : '\t' ∉ w') :
    key w p = key w' p' ↔ w = w' ∧ p = p' := by
  refine ⟨fun h => ?_, fun ⟨hword, hpron⟩ => by rw [hword, hpron]⟩
  induction w generalizing w' with
  | nil =>
    cases w' with
    | nil => exact ⟨rfl, (List.cons.inj h).2⟩
    | cons c w' => exact absurd (List.cons.inj h).1 fun heq => hw' (heq ▸ List.mem_cons_self)
  | cons c w ih =>
    cases w' with
    | nil => exact absurd (List.cons.inj h).1 fun heq => hw (heq ▸ List.mem_cons_self)
    | cons d w' =>
      obtain ⟨hhead, htail⟩ := List.cons.inj h
      obtain ⟨hword, hpron⟩ := ih (fun hmem => hw (List.mem_cons_of_mem c hmem))
        (fun hmem => hw' (List.mem_cons_of_mem d hmem)) htail
      exact ⟨by rw [hhead, hword], hpron⟩

end CompiledVocabulary

namespace WordList

theorem of_push (l : WordList) (e : Entry) (w : Text) : (l.push e).answers.of w =
    if e.word = w then l.answers.of w ++ [e.pronunciation] else l.answers.of w := by
  rw [push, Answers.append, Answers.of_put]
  split
  case isTrue h => rw [h]
  case isFalse => rfl

private theorem mem_foldl_push {es : List Entry} {l : WordList} {w p : Text} :
    p ∈ (es.foldl push l).answers.of w ↔
      p ∈ l.answers.of w ∨ ∃ e ∈ es, e.word = w ∧ e.pronunciation = p := by
  induction es generalizing l with
  | nil => simp
  | cons e es ih =>
    have hpush : p ∈ (l.push e).answers.of w ↔
        p ∈ l.answers.of w ∨ e.word = w ∧ e.pronunciation = p := by
      rw [of_push]
      by_cases h : e.word = w
      · rw [if_pos h, List.mem_append, List.mem_singleton, eq_comm (a := p)]
        exact or_congr_right ⟨fun hp => ⟨h, hp⟩, And.right⟩
      · rw [if_neg h]
        exact ⟨.inl, fun hor => hor.resolve_right fun hand => h hand.1⟩
    rw [List.foldl_cons, ih, hpush, or_assoc, List.exists_mem_cons_iff]

theorem mem_add {es : List Entry} {w p : Text} : p ∈ (empty.add es).answers.of w ↔
    ∃ e ∈ es, e.word.trim.lower ≠ [] ∧ e.word.trim.lower = w ∧ e.pronunciation.trim.upper = p := by
  rw [add, mem_foldl_push]
  constructor
  · rintro (hnone | ⟨e', he', hword, hpron⟩)
    · cases hnone
    · obtain ⟨e, he, hnormal⟩ := List.mem_filterMap.mp he'
      unfold normal? at hnormal
      dsimp only at hnormal
      split at hnormal
      · cases hnormal
      case isFalse hne =>
        cases hnormal
        exact ⟨e, he, by simpa using hne, hword, hpron⟩
  · rintro ⟨e, he, hne, hword, hpron⟩
    refine .inr ⟨⟨e.word.trim.lower, e.pronunciation.trim.upper⟩, List.mem_filterMap.mpr ⟨e, he, ?_⟩,
      hword, hpron⟩
    rw [normal?]
    exact if_neg (by simpa using hne)

end WordList

/-- Whether two vocabularies answer a query and give each word the same pronunciations. -/
structure Vocabulary.Alike (v v' : Vocabulary) (query : List Text) : Prop where
  answers : ∃ a a', v.haveWords query = .ok a ∧ v'.haveWords query = .ok a' ∧
    ∀ w ∈ query, ∀ p, p ∈ a.of w.lower ↔ p ∈ a'.of w.lower
  contains : ∀ w ∈ query, v.contains w = v'.contains w

theorem isEmpty_congr {α : Type} {xs ys : List α} (h : ∀ a, a ∈ xs ↔ a ∈ ys) : xs.isEmpty = ys.isEmpty := by
  rw [Bool.eq_iff_iff, List.isEmpty_iff, List.isEmpty_iff, List.eq_nil_iff_forall_not_mem,
    List.eq_nil_iff_forall_not_mem]
  exact forall_congr' fun a => not_congr (h a)

/-- A word list and a compiled vocabulary answer alike just if they hold the same of each word. -/
theorem alike_iff {l : WordList} {v : CompiledVocabulary} {query : List Text}
    (htab : ∀ w ∈ query, '\t' ∉ w) : l.toVocabulary.Alike v.toVocabulary query ↔
      ∀ w ∈ query, w ≠ [] → ∀ p, p ∈ l.answers.of w.lower ↔ p ∈ v.pronunciations w.lower := by
  have hcompiled := Vocabulary.haveWords_compiled v htab
  constructor
  · intro h w hw hne p
    obtain ⟨a, a', ha, ha', hsame⟩ := h.answers
    obtain rfl := Except.ok.inj ha
    obtain rfl := Except.ok.inj (hcompiled.symm.trans ha')
    have hword := hsame w hw p
    rwa [l.of_haveWords query w hw, Answers.of_toQuery _ query w hw, if_neg hne, if_neg hne] at hword
  · intro h
    have hsame : ∀ qs : List Text, (∀ w ∈ qs, w ∈ query) → ∀ w ∈ qs, ∀ p,
        p ∈ (l.haveWords qs).of w.lower ↔ p ∈ (Answers.toQuery v.pronunciations qs).of w.lower := by
      intro qs hqs w hw p
      rw [l.of_haveWords qs w hw, Answers.of_toQuery _ qs w hw]
      by_cases hne : w = []
      · rw [if_pos hne, if_pos hne]
      · rw [if_neg hne, if_neg hne]
        exact h w (hqs w hw) hne p
    refine ⟨⟨_, _, rfl, hcompiled, hsame query fun _ hw => hw⟩, fun w hw => ?_⟩
    have hone : ∀ u ∈ [w], u ∈ query := fun u hu => List.mem_singleton.mp hu ▸ hw
    have hasked : v.toVocabulary.haveWords [w] = .ok (.toQuery v.pronunciations [w]) :=
      Vocabulary.haveWords_compiled v fun u hu => htab u (hone u hu)
    rw [Vocabulary.contains, Vocabulary.contains, hasked]
    change Except.ok ((l.haveWords [w]).knows w.lower) = Except.ok _
    unfold Answers.knows
    rw [isEmpty_congr (hsame [w] hone w List.mem_cons_self)]

section
variable {t : Text} {w p : Text}

theorem mem_wordList : p ∈ (WordList.empty.add (Entry.ofListing t)).answers.of w ↔
    ∃ e ∈ Entry.ofListing t, e.word.trim ≠ [] ∧ e.word.trim = w ∧ e.pronunciation = p := by
  rw [WordList.mem_add]
  refine exists_congr fun e => and_congr_right fun he => ?_
  have hlisted := Entry.isListed_of_mem he
  rw [hlisted.word_trim_lower, hlisted.pronunciation_trim, hlisted.pronunciation_upper]

theorem mem_compiled (hw : '\t' ∉ w) :
    p ∈ (CompiledVocabulary.build (Entry.ofListing t)).pronunciations w ↔
      ∃ e ∈ Entry.ofListing t, e.word = w ∧ e.pronunciation = p := by
  rw [CompiledVocabulary.mem_pronunciations, CompiledVocabulary.mem_build]
  refine exists_congr fun e => and_congr_right fun he => ?_
  have hlisted := Entry.isListed_of_mem he
  rw [hlisted.word_lower, CompiledVocabulary.key_inj hlisted.tab_not_mem hw]
  exact ⟨And.right, fun h => ⟨hlisted.word_ne_nil, h⟩⟩

end

/-- The word list of a listing and its compiled vocabulary, read back from its file, answer every query
without tabs alike just if the words of the entries are trimmed. -/
theorem compiled_alike_iff (t : Text) : ∃ v,
    CompiledVocabulary.ofBytes? (CompiledVocabulary.build (Entry.ofListing t)).toBytes = some v ∧
      ((∀ query : List Text, (∀ w ∈ query, '\t' ∉ w) →
        (WordList.empty.add (Entry.ofListing t)).toVocabulary.Alike v.toVocabulary query) ↔
          ∀ e ∈ Entry.ofListing t, e.word.trim = e.word) := by
  refine ⟨_, CompiledVocabulary.ofBytes?_toBytes (CompiledVocabulary.isAscending_build _), ?_⟩
  constructor
  · -- A word that is not trimmed is in the compiled vocabulary only.
    intro h e he
    have hlisted := Entry.isListed_of_mem he
    have htab : ∀ w ∈ [e.word], '\t' ∉ w := fun w hw => List.mem_singleton.mp hw ▸ hlisted.tab_not_mem
    have hsame := (alike_iff htab).mp (h [e.word] htab) e.word List.mem_cons_self hlisted.word_ne_nil
      e.pronunciation
    rw [hlisted.word_lower, mem_wordList, mem_compiled hlisted.tab_not_mem] at hsame
    obtain ⟨e', _, _, hword, _⟩ := hsame.mpr ⟨e, he, rfl, rfl⟩
    rw [← hword, Text.trim_trim]
  · intro htrimmed query htab
    refine (alike_iff htab).mpr fun w hw _ p => ?_
    have hlower : '\t' ∉ w.lower := fun hmem => htab w hw (Text.tab_of_mem_lower hmem)
    rw [mem_wordList, mem_compiled hlower]
    refine exists_congr fun e => and_congr_right fun he => ?_
    rw [htrimmed e he]
    exact ⟨And.right, fun h => ⟨(Entry.isListed_of_mem he).word_ne_nil, h⟩⟩

/-- A blank before the number of an alternate pronunciation stays in the compiled vocabulary, which so
has no pronunciation of the word. -/
theorem compiled_read_unknown :
    let es := Entry.ofListing "read (2)\tR EH D"
    let pronunciations (v : Vocabulary) := (v.haveWords ["read"]).map (·.of "read")
    pronunciations (WordList.empty.add es).toVocabulary = .ok ["R EH D".toList] ∧
      ∃ v, CompiledVocabulary.ofBytes? (CompiledVocabulary.build es).toBytes = some v ∧
        pronunciations v.toVocabulary = .ok [] := by
  refine ⟨by decide +kernel, _,
    CompiledVocabulary.ofBytes?_toBytes (CompiledVocabulary.isAscending_build _), ?_⟩
  decide +kernel

end Dictation
