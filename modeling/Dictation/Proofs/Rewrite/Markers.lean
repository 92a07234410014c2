import Dictation.Proofs.Rewrite.IdleRules
/-!
# Words behind a marker

A marker is followed by one word or by all words up to the next character that belongs to none. The
words are remembered, and the rule writes them in another case.
-/
namespace Dictation

open Node Text

/-- The words that rules and triggers begin with. -/
def triggerWords : List Text := [
  "spell", "new", "tab", "back", "backspace", "full",
  "zero", "one", "two", "three", "four", "five", "six", "seven", "eight", "nine",
  "cap", "camel", "all", "lowercase", "dunder", "correct", "verbatim"].map String.toList

/-- A word of characters of words, without white space. -/
structure IsWord (x : Text) : Prop where
  ne_nil : x ≠ []
  chars : ∀ a ∈ x, isWordChar a = true
  blank : ∀ a ∈ x, Unicode.isBlank a = false

theorem IsWord.head {x : Text} (h : IsWord x) (t : Text) :
    ∀ a ∈ (x ++ t).head?, isWordChar a = true ∧ Unicode.isBlank a = false := by
  obtain ⟨b, y, rfl⟩ := List.exists_cons_of_ne_nil h.ne_nil
  intro a ha
  cases ha
  exact ⟨h.chars b List.mem_cons_self, h.blank b List.mem_cons_self⟩

structure Marker (s : String) : Prop where
  plain : (sequence (literal s)).plain = true
  reads : (sequence (literal s)).leftovers s.toList = some [[]]
  first : ∃ a ∈ s.toList.head?, isWordChar a = true
  unmarkedWord : (markedWord s).unmarked = true
  unmarkedWords : (markedWords s).unmarked = true

def markers : List String := ["cap camel", "camel", "all caps", "cap", "lowercase", "dunder"]

theorem markers_sound : ∀ s ∈ markers, Marker s := by
  have h : ∀ s ∈ markers, (sequence (literal s)).plain = true ∧
      (sequence (literal s)).leftovers s.toList = some [[]] ∧ s.toList.head?.any isWordChar = true ∧
      (markedWord s).unmarked = true ∧ (markedWords s).unmarked = true := by decide
  intro s hs
  obtain ⟨hplain, hreads, hfirst, hword, hwords⟩ := h s hs
  exact ⟨hplain, hreads, by simpa [Option.any_eq_true] using hfirst, hword, hwords⟩

theorem captures_blank {x t : Text} (hx : IsWord x) (b : Option Char) :
    someBlanks.Captures b [' '] [] (x ++ t) :=
  .of_takes (takes_space fun a ha => (hx.head t a ha).2) b

theorem takes_word {x t : Text} (hx : IsWord x) (ht : ∀ a ∈ t.head?, isWordChar a = false) :
    wordChars.Takes x t :=
  Takes.many hx.ne_nil hx.chars ht

section
variable {s : String} (hs : Marker s) {b : Option Char} (hb : ∀ a ∈ b, isWordChar a = false)
include hs hb

theorem captures_marker {t : Text} : (sequence (bound :: literal s)).Captures b s.toList [] t := by
  obtain ⟨a, ha, hword⟩ := hs.first
  have hstart : bound.Captures b [] [] (s.toList ++ t) := by
    refine .assertion (boundary_before hb ⟨a, ?_, hword⟩)
    rw [Option.mem_def] at ha ⊢
    rw [List.head?_append, ha, Option.some_or]
  exact .sequence_cons hstart (.of_takes (.of_leftovers hs.plain hs.reads t) _)

theorem markedWord_matchAt? {x t : Text} (hx : IsWord x) (ht : ∀ a ∈ t.head?, isWordChar a = false) :
    (markedWord s).matchAt? b ((s.toList ++ ([' '] ++ x)) ++ t) = some ⟨s.toList ++ ([' '] ++ x), [(1, x)]⟩ := by
  have htail : (sequence [someBlanks, group 1 wordChars]).Captures (lastOf b s.toList) ([' '] ++ x)
      [(1, x)] t := .seq (captures_blank hx _) (.group (.of_takes (takes_word hx ht) _) 1)
  have hall : (markedWord s).Captures b (s.toList ++ ([' '] ++ x)) [(1, x)] t :=
    .sequence_append (captures_marker hs hb) htail
  exact hall.matchAt? hs.unmarkedWord

theorem markedWords_matchAt? {x : Text} {xs : List Text} (hxs : ∀ y ∈ x :: xs, IsWord y) {t : Text}
    (ht : ∀ a ∈ t.head?, isWordChar a = false) (hdead : (seq someBlanks wordChars).Dead t) :
    (markedWords s).matchAt? b ((s.toList ++ ([' '] ++ join [' '] (x :: xs))) ++ t) =
      some ⟨s.toList ++ ([' '] ++ join [' '] (x :: xs)), [(1, join [' '] (x :: xs))]⟩ := by
  have hx := hxs x List.mem_cons_self
  have hnext : ∀ ys : List Text, ∀ a ∈ (ys.flatMap (' ' :: ·) ++ t).head?, isWordChar a = false := by
    intro ys a ha
    cases ys with
    | nil => exact ht a ha
    | cons y ys =>
      cases ha
      decide
  have hmore : (star none true (seq someBlanks wordChars)).Takes (xs.flatMap (' ' :: ·)) t := by
    refine takes_star (by rfl) hdead (fun y => List.cons_ne_nil ' ' y) fun y ys hys => ?_
    have hy := hxs y (List.mem_cons_of_mem x (hys.subset List.mem_cons_self))
    exact .seq (takes_space fun a ha => (hy.head _ a ha).2) (takes_word hy (hnext ys))
  have hwords : (seq wordChars (star none true (seq someBlanks wordChars))).Takes (join [' '] (x :: xs)) t := by
    rw [join_eq_flatMap]
    exact .seq (takes_word hx (hnext xs)) hmore
  have htail : (sequence [someBlanks, group 1 (seq wordChars (star none true
      (seq someBlanks wordChars)))]).Captures (lastOf b s.toList) ([' '] ++ join [' '] (x :: xs))
      [(1, join [' '] (x :: xs))] t := by
    refine .seq ?_ (.group (.of_takes hwords _) 1)
    rw [join_eq_flatMap, List.append_assoc]
    exact captures_blank hx _
  have hall : (markedWords s).Captures b (s.toList ++ ([' '] ++ join [' '] (x :: xs)))
      [(1, join [' '] (x :: xs))] t := .sequence_append (captures_marker hs hb) htail
  exact hall.matchAt? hs.unmarkedWords

end

namespace RuleTable

def capCamelRow : Pattern × Action :=
  (⟨markedWords "cap camel", [some "next".toList]⟩, .function "cap_camel" .capCamel)

def camelRow : Pattern × Action :=
  (⟨markedWords "camel", [some "next".toList]⟩, .function "camel" .camel)

def allCapsRow : Pattern × Action :=
  (⟨markedWords "all caps", [some "next".toList]⟩, .function "all_caps" .allCaps)

def capsRow : Pattern × Action := (⟨markedWord "cap", [some "word".toList]⟩, .function "caps" .caps)

end RuleTable

end Dictation
