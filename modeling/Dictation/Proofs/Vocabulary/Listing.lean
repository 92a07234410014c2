import Dictation.Proofs.Text.LetterCase
import Dictation.Proofs.Vocabulary.Reliable
import Dictation.Vocabulary.Entry
import Mathlib.Data.List.TakeWhile
/-!
# Entries of a listing

The word of an entry is in lower case and has no tab, and its pronunciation is trimmed and in upper
case. The word need not be trimmed: what stands before the number of an alternate pronunciation is
kept up to the parenthesis.
-/
namespace Dictation

namespace Text

theorem mem_of_mem_trim {t : Text} {a : Char} (h : a ∈ t.trim) : a ∈ t := by
  have hend : a ∈ t.trimStart := by
    have hdrop : a ∈ t.trimStart.reverse.dropWhile Unicode.isBlank := List.mem_reverse.mp h
    exact List.mem_reverse.mp ((List.dropWhile_sublist _).subset hdrop)
  exact (List.dropWhile_sublist _).subset hend

theorem mem_of_splitFirst? {sep : Char} {t before after : Text} (h : splitFirst? sep t = some (before, after)) :
    (∀ a ∈ before, a ∈ t) ∧ ∀ a ∈ after, a ∈ t := by
  unfold splitFirst? at h
  split at h
  · cases h
  · rename_i c rest hdrop
    cases h
    refine ⟨fun a ha => (List.takeWhile_sublist _).subset ha, fun a ha => ?_⟩
    refine (List.dropWhile_sublist (· ≠ sep)).subset ?_
    rw [hdrop]
    exact List.mem_cons_of_mem c ha

theorem mem_of_splitLast? {sep : Char} {t before after : Text} (h : splitLast? sep t = some (before, after)) :
    ∀ a ∈ before, a ∈ t := by
  obtain ⟨⟨last, first⟩, hsplit, heq⟩ := Option.map_eq_some_iff.mp h
  cases heq
  exact fun a ha => List.mem_reverse.mp ((mem_of_splitFirst? hsplit).2 a (List.mem_reverse.mp ha))

end Text

namespace Entry

theorem tab_not_mem_splitLine (line : Text) : '\t' ∉ (splitLine line).1 := by
  unfold splitLine
  split
  case h_1 fields hfields =>
    unfold Text.splitFirst? at hfields
    split at hfields
    · cases hfields
    · cases hfields
      intro htab
      simpa using List.mem_takeWhile_imp htab
  case h_2 hnone =>
    unfold Text.splitFirst? at hnone
    split at hnone
    case h_2 => cases hnone
    case h_1 hdrop =>
      intro htab
      have hne := List.dropWhile_eq_nil_iff.mp hdrop '\t' ((List.takeWhile_sublist _).subset htab)
      simp at hne

theorem mem_of_mem_wordOf {field : Text} {a : Char} (h : a ∈ wordOf field) : a ∈ field := by
  refine Text.mem_of_mem_trim ?_
  unfold wordOf at h
  dsimp only at h
  split at h
  · split at h
    case h_1 hsplit => exact Text.mem_of_splitLast? hsplit a h
    case h_2 => exact h
  · exact h

structure IsListed (e : Entry) : Prop where
  word_ne_nil : e.word ≠ []
  word_low : ∀ a ∈ e.word, IsLow a
  tab_not_mem : '\t' ∉ e.word
  pronunciation_trim : e.pronunciation.trim = e.pronunciation
  pronunciation_upper : e.pronunciation.upper = e.pronunciation

theorem isListed_of_mem {t : Text} {e : Entry} (h : e ∈ ofListing t) : e.IsListed := by
  obtain ⟨line, _, hline⟩ := List.mem_filterMap.mp h
  unfold ofLine? at hline
  dsimp only at hline
  split at hline
  · cases hline
  · split at hline
    · cases hline
    case isFalse hne =>
      cases hline
      refine ⟨Text.lower_ne_nil (by simpa using hne), fun a ha => (Text.mem_lower ha).1, fun htab => ?_,
        Text.trim_upper (Text.trim_trim _), Text.upper_upper _⟩
      exact tab_not_mem_splitLine _ (mem_of_mem_wordOf (Text.tab_of_mem_lower htab))

namespace IsListed

variable {e : Entry} (h : e.IsListed)
include h

theorem word_lower : e.word.lower = e.word := Text.lower_of_isLow h.word_low

theorem word_trim_lower : e.word.trim.lower = e.word.trim :=
  Text.lower_of_isLow fun a ha => h.word_low a (Text.mem_of_mem_trim ha)

end IsListed

end Entry

end Dictation
