import Dictation.Proofs.Segmentation.Answering
import Dictation.Proofs.Source.LetterNames
import Dictation.Source.Document
/-!
# What names consist of

However a text is cut, the names among its cues consist of letters, marks and digits: everything else
is spoken as it stands. So no vocabulary is ever consulted about white space or control characters, and
one that answers all other queries gives every name its segments.
-/
namespace Dictation

theorem Piece.mem_splitAfter {pending : Text} {rs : List Run} {w : Text}
    (hw : .word w ∈ splitAfter pending rs) {a : Char} (ha : a ∈ w) :
    a ∈ pending ∨ ∃ r ∈ rs, a ∈ r.text := by
  have hfinish : ∀ t : Text, .word w ∈ finish t → w = t := by
    intro t ht
    unfold finish at ht
    split at ht
    · cases ht
    · simpa using ht
  induction rs generalizing pending with
  | nil => exact .inl (hfinish pending hw ▸ ha)
  | cons r rest ih =>
    have hlater : ∀ t : Text, (∀ b ∈ t, b ∈ r.text) → .word w ∈ splitAfter t rest →
        ∃ r' ∈ r :: rest, a ∈ r'.text := by
      intro t ht hmem
      rcases ih hmem with h | ⟨r', hr', h⟩
      · exact ⟨r, List.mem_cons_self, ht a h⟩
      · exact ⟨r', List.mem_cons_of_mem r hr', h⟩
    unfold splitAfter at hw
    split at hw
    · -- Digits end the pending word and are no word themselves.
      rcases List.mem_append.mp hw with hw | hw
      · exact .inl (hfinish pending hw ▸ ha)
      · exact .inr (hlater [] nofun (by simpa using hw))
    · split at hw
      · rcases List.mem_append.mp hw with hw | hw
        · exact .inl (hfinish pending hw ▸ ha)
        · rcases List.mem_cons.mp hw with hw | hw
          · cases hw
            exact .inr ⟨r, List.mem_cons_self, List.dropLast_subset r.text ha⟩
          · exact .inr (hlater _ (fun b hb => List.mem_of_mem_drop hb) hw)
      · rcases List.mem_append.mp hw with hw | hw
        · exact .inl (hfinish pending hw ▸ ha)
        · exact .inr (hlater r.text (fun b hb => hb) hw)
    · rcases ih hw with h | ⟨r', hr', h⟩
      · exact (List.mem_append.mp h).imp_right fun h => ⟨r, List.mem_cons_self, h⟩
      · exact .inr ⟨r', List.mem_cons_of_mem r hr', h⟩

namespace Cue

/-- Whether the names among some cues consist of certain characters. -/
def NamesIn (p : Char → Prop) (cues : List Cue) : Prop := ∀ w, .name w ∈ cues → ∀ a ∈ w, p a

namespace NamesIn

variable {p : Char → Prop} {cues : List Cue}

theorem fixed (ws : List Text) : NamesIn p (ws.map Cue.fixed) := by
  intro w hw
  simp at hw

theorem append {more : List Cue} (h : NamesIn p cues) (hmore : NamesIn p more) :
    NamesIn p (cues ++ more) := fun w hw => (List.mem_append.mp hw).elim (h w) (hmore w)

theorem flatMap {α : Type} {f : α → List Cue} {xs : List α} (h : ∀ x ∈ xs, NamesIn p (f x)) :
    NamesIn p (xs.flatMap f) := by
  intro w hw
  obtain ⟨x, hx, hw⟩ := List.mem_flatMap.mp hw
  exact h x hx w hw

theorem filter (h : NamesIn p cues) (q : Cue → Bool) : NamesIn p (cues.filter q) := fun w hw =>
  h w (List.mem_filter.mp hw).1

theorem ofName {rs : List Run} (h : ∀ r ∈ rs, ∀ a ∈ r.text, p a) : NamesIn p (Cue.ofName rs) := by
  refine (fixed _).append (.flatMap fun piece hpiece w hw a ha => ?_)
  cases piece with
  | digits ds => exact fixed _ w hw a ha
  | word u =>
    obtain rfl : w = u := by simpa [ofPiece] using hw
    obtain hnil | ⟨r, hr, ha⟩ := Piece.mem_splitAfter hpiece ha
    · cases hnil
    · exact h r hr a ha

theorem ofRunsAfter {name rs : List Run} (hname : ∀ r ∈ name, ∀ a ∈ r.text, p a)
    (h : ∀ r ∈ rs, r.category.isNamePart = true → ∀ a ∈ r.text, p a) :
    NamesIn p (Cue.ofRunsAfter name rs) := by
  induction rs generalizing name with
  | nil => exact ofName hname
  | cons r rest ih =>
    have hrest := fun r' hr' => h r' (List.mem_cons_of_mem r hr')
    unfold Cue.ofRunsAfter
    split
    case isTrue hpart =>
      refine ih (fun r' hr' => ?_) hrest
      rcases List.mem_append.mp hr' with hr' | hr'
      · exact hname r' hr'
      · exact List.mem_singleton.mp hr' ▸ h r List.mem_cons_self hpart
    case isFalse => exact ((ofName hname).append (fixed _)).append (ih (fun _ hr => absurd hr List.not_mem_nil) hrest)

theorem ofToken {t : Token} (h : ∀ r ∈ t.runs, r.category.isNamePart = true → ∀ a ∈ r.text, p a) :
    NamesIn p (Cue.ofToken t) := by
  unfold Cue.ofToken
  split
  · refine .flatMap fun r _ => ?_
    split
    · exact fixed [r.text]
    · exact fixed _
  · split
    · exact fixed _
    · exact ofRunsAfter (fun _ hr => absurd hr List.not_mem_nil) h

end NamesIn

theorem namesIn_ofText (k : Combiners) (x : Text) :
    NamesIn (fun a => (k.categoryOf a).isNamePart = true) (ofText k x) := by
  refine .flatMap fun t ht => .ofToken fun r hr hpart a ha => ?_
  rw [(Combiners.mem_run ((Token.runs_of_mem_group ht).2 r hr) ha).2]
  exact hpart

end Cue

namespace Source

open Cue

variable (k : Combiners)

theorem namesIn_joinCues {p : Char → Prop} {between : List Cue} (hbetween : NamesIn p between)
    {css : List (List Cue)} (h : ∀ cues ∈ css, NamesIn p cues) : NamesIn p (joinCues between css) := by
  induction css with
  | nil => exact .fixed []
  | cons cues css ih =>
    have hcues := h cues List.mem_cons_self
    have hrest := ih fun cues' hmem => h cues' (List.mem_cons_of_mem cues hmem)
    cases css with
    | nil => exact hcues
    | cons next css => exact (hcues.append hbetween).append hrest

theorem namesIn_fragmentCues (x : Text) :
    NamesIn (fun a => (k.categoryOf a).isNamePart = true) (fragmentCues k x) := by
  refine namesIn_joinCues (.fixed [under, under]) fun cues hcues => ?_
  obtain ⟨part, _, rfl⟩ := List.mem_map.mp hcues
  refine namesIn_joinCues (.fixed [under]) fun cues hcues => ?_
  obtain ⟨field, _, rfl⟩ := List.mem_map.mp hcues
  exact namesIn_ofText k field

theorem namesIn_identifierCues (name : Text) :
    NamesIn (fun a => (k.categoryOf a).isNamePart = true) (identifierCues k name) := by
  unfold identifierCues
  split
  · exact (NamesIn.fixed [dunder]).append (namesIn_fragmentCues k _)
  · exact namesIn_fragmentCues k name

theorem namesIn_proseCues (x : Text) :
    NamesIn (fun a => (k.categoryOf a).isNamePart = true) (proseCues k x) := by
  refine .flatMap fun piece _ => ?_
  unfold pieceCues
  split
  · simpa using NamesIn.fixed ((piece.filter (· = '\n')).map fun _ => newLine)
  · split
    · exact .fixed [piece.lower]
    · exact (namesIn_ofText k piece).filter _

theorem namesIn_cues (l : Lexeme) :
    NamesIn (fun a => (k.categoryOf a).isNamePart = true) (l.cues k) := by
  unfold Lexeme.cues
  cases l.kind with
  | newline => exact .fixed []
  | indent => exact .fixed [indentWord]
  | dedent => exact .fixed [dedentWord]
  | operator => exact .fixed [operatorWord l.text]
  | number =>
    dsimp only
    unfold numberCues
    split
    · exact .fixed _
    · exact namesIn_ofText k l.text
  | name => exact namesIn_identifierCues k l.text
  | string =>
    have hletters := NamesIn.fixed (p := fun a => (k.categoryOf a).isNamePart = true)
      ((stringParts l.text).letters.map lowerChar)
    rw [List.map_map] at hletters
    exact ((hletters.append (.fixed [_])).append (namesIn_proseCues k _)).append (.fixed [_])
  | comment => exact ((NamesIn.fixed [_]).append (namesIn_proseCues k _)).append (.fixed [_])

end Source

theorem Combiners.isNamePart_tab (k : Combiners) : (k.categoryOf '\t').isNamePart = false := by
  have hcontrol : Unicode.isControl '\t' = true := by decide
  unfold categoryOf
  split
  · rfl
  · simp [hcontrol, Category.isNamePart]

namespace Cue.NamesIn

variable {k : Combiners} {cues : List Cue} (h : NamesIn (fun a => (k.categoryOf a).isNamePart = true) cues)
include h

theorem tab_not_mem {word : Text} (hword : .name word ∈ cues) : '\t' ∉ word := by
  intro htab
  have hpart : (k.categoryOf '\t').isNamePart = true := h word hword '\t' htab
  rw [k.isNamePart_tab] at hpart
  cases hpart

variable {s : Segmenter} (hv : s.vocabulary.Answering)
include hv

theorem exists_segments (word : Text) (hword : .name word ∈ cues) :
    ∃ segments, s.segment word = .ok segments :=
  (Segmenter.segment_yields_of_answering hv (h.tab_not_mem hword)).imp fun _ hsegments => hsegments.1

theorem parted (word : Text) (hword : .name word ∈ cues) (segments : List Text)
    (hsegments : s.segment word = .ok segments) : Segmenter.Parted word segments :=
  Segmenter.parted_of_segment hv (h.tab_not_mem hword) hsegments

end Cue.NamesIn

end Dictation
