import Dictation.Proofs.Segmentation.Memo
import Dictation.Proofs.Source.Encoding
import Dictation.Proofs.Source.Names
import Dictation.Proofs.Vocabulary.Stores
/-!
# How encoding fails

An encoder asks its vocabulary about names and stretches of names only, so it never asks about a tab.
It fails only with an error that the vocabulary gave to such a query, and stored vocabularies give
none. A number that cannot be spelled is no failure: it is told before it is spelled.
-/
namespace Dictation

theorem numberWords_of_isSpellable {t : Text} (h : isSpellable t = true) :
    ∃ ws, numberWords t = .ok ws := by
  have hall : ∀ c ∈ t, (numeralWords? c).isSome = true :=
    List.all_eq_true.mp (Bool.and_eq_true_iff.mp h).2
  clear h
  induction t with
  | nil => exact ⟨[], rfl⟩
  | cons c t ih =>
    obtain ⟨ws, hws⟩ := Option.isSome_iff_exists.mp (hall c List.mem_cons_self)
    obtain ⟨more, hmore⟩ := ih fun a ha => hall a (List.mem_cons_of_mem c ha)
    refine ⟨ws ++ more, ?_⟩
    rw [numberWords, hws, hmore]

namespace Cue

/-- The cues of a token, where failing to spell a number is an error. -/
def readToken (t : Token) : Except UnmappedNumeral (List Cue) :=
  if !t.isSplitting && (startsWithDigit t && isSpellable t.text) then
    (numberWords t.text).map (·.map fixed)
  else .ok (ofToken t)

/-- The cues of a text, where failing to spell a number is an error. -/
def readText (k : Combiners) (x : Text) : Except UnmappedNumeral (List Cue) :=
  ((k.tokens x).mapM readToken).map List.flatten

theorem readToken_ok (t : Token) : readToken t = .ok (ofToken t) := by
  unfold readToken
  split
  case isTrue h =>
    obtain ⟨hsplitting, hnumber⟩ := Bool.and_eq_true_iff.mp h
    obtain ⟨ws, hws⟩ := numberWords_of_isSpellable (Bool.and_eq_true_iff.mp hnumber).2
    rw [ofToken, if_neg (by simpa using hsplitting), hnumber, hws]
    rfl
  case isFalse => rfl

theorem readText_ok (k : Combiners) (x : Text) : readText k x = .ok (ofText k x) := by
  have hread : readToken = fun t => pure (ofToken t) := funext readToken_ok
  rw [readText, hread, List.mapM_pure]
  rfl

end Cue

namespace Segmenter

variable {α : Type}

/-- A computation with a memo that learns of its vocabulary only what it answers to queries without
tabs, and fails only where the vocabulary does. Stored vocabularies do not. -/
structure AsksNoTab (run : Segmenter → Remembering α) : Prop where
  same {s s' : Segmenter} : s.Agree s' (fun w => '\t' ∉ w) → ∀ memo : Memo,
    (run s).run.run memo = (run s').run.run memo
  fails {s : Segmenter} {memo : Memo} {e : VocabularyError} : ((run s).run.run memo).1 = .error e →
    Fails s.vocabulary (fun w => '\t' ∉ w) e
  stored {s : Segmenter} : s.vocabulary.Stored → ∀ memo : Memo, ∃ a, ((run s).run.run memo).1 = .ok a

theorem AsksNoTab.of_alike {run : Segmenter → Remembering α}
    (h : ∀ s s' : Segmenter, s.Agree s' (fun w => '\t' ∉ w) →
      (alike (Fails s.vocabulary fun w => '\t' ∉ w)).rel (run s) (run s')) : AsksNoTab run where
  same hagree memo := (h _ _ hagree memo).1
  fails := (h _ _ (.refl _ _) _).2 _
  stored := by
    intro s hs memo
    cases hresult : ((run s).run.run memo).1 with
    | ok a => exact ⟨a, rfl⟩
    | error e =>
      obtain ⟨query, hquery, herror⟩ := (h s s (.refl _ _) memo).2 e hresult
      obtain ⟨a, ha⟩ := hs.answering query hquery
      rw [herror] at ha
      cases ha

/-- The stretches of a word without tabs have no tabs. -/
theorem segmentMemo_alike_of_no_tab {s s' : Segmenter} (hagree : s.Agree s' fun w => '\t' ∉ w)
    {word : Text} (hword : '\t' ∉ word) :
    (alike (Fails s.vocabulary fun w => '\t' ∉ w)).rel (s.segmentMemo word) (s'.segmentMemo word) := by
  have hstretch : ∀ w : Text, w <:+: word → '\t' ∉ w := fun _ hw => stretchClosed_not_mem '\t' hword hw
  refine segmentMemo_alike (hagree.mono hstretch) fun e he => ?_
  obtain ⟨query, hquery, herror⟩ := he
  exact ⟨query, fun w hw => hstretch w (hquery w hw), herror⟩

end Segmenter

namespace Source

open Segmenter Cue

theorem encode_asksNoTab (k : Combiners) (ls : List Lexeme) :
    AsksNoTab fun s => encode s.segmentMemo k ls :=
  .of_alike fun _ _ hagree => encode_rel _ k fun l _ _ hword =>
    segmentMemo_alike_of_no_tab hagree ((namesIn_cues k l).tab_not_mem hword)

theorem encodeLines_asksNoTab (k : Combiners) (t : Text) :
    AsksNoTab fun s => encodeLines s.segmentMemo k t :=
  .of_alike fun _ _ hagree => encodeLines_rel _ k fun _ _ _ hword =>
    segmentMemo_alike_of_no_tab hagree ((namesIn_ofText k _).tab_not_mem hword)

/-- Encoding lexemes or a document fails only through the vocabulary, and never on a stored one: no
query has a tab, and no number fails to be spelled. -/
theorem encoding_fails_through_vocabulary (k : Combiners) :
    (∀ ls, AsksNoTab fun s => encode s.segmentMemo k ls) ∧
      (∀ kind t, AsksNoTab fun s => encodeDocument s.segmentMemo k kind t) ∧
      ∀ x, readText k x = .ok (ofText k x) := by
  refine ⟨encode_asksNoTab k, fun kind t => ?_, readText_ok k⟩
  cases kind with
  | source => exact encode_asksNoTab k (lexemes t)
  | text => exact encodeLines_asksNoTab k t

end Source

end Dictation
