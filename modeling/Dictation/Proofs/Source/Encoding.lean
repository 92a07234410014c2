import Dictation.Proofs.Segmentation.Memo
import Dictation.Source.Document
/-!
# Encoding in related monads

Encoding leaves the vocabulary to the function that gives names their segments. If two such functions
are related on the names that occur, then so are the encodings. In particular an encoder with a sound
memo gives what it gives without one.
-/
namespace Dictation.Source

theorem mem_of_mem_cutAtNewlines {ls : List Lexeme} {l : Lexeme}
    (h : (∃ piece ∈ (cutAtNewlines ls).1, l ∈ piece) ∨ l ∈ (cutAtNewlines ls).2) : l ∈ ls := by
  induction ls with
  | nil => simp [cutAtNewlines] at h
  | cons first rest ih =>
    rw [cutAtNewlines] at h
    split at h
    case h_1 closed last _ hcut =>
      rw [hcut] at ih
      refine List.mem_cons_of_mem _ (ih (h.imp_left fun ⟨piece, hpiece, hl⟩ => ?_))
      rcases List.mem_cons.mp hpiece with rfl | hpiece
      · cases hl
      · exact ⟨piece, hpiece, hl⟩
    case h_2 last hcut _ =>
      rw [hcut] at ih
      obtain ⟨_, hpiece, _⟩ | hl := h
      · cases hpiece
      · exact (List.mem_cons.mp hl).elim (· ▸ List.mem_cons_self) fun hl =>
          List.mem_cons_of_mem _ (ih (.inr hl))
    case h_3 piece closed last hcut _ =>
      rw [hcut] at ih
      obtain ⟨piece', hpiece, hl⟩ | hl := h
      · rcases List.mem_cons.mp hpiece with rfl | hpiece
        · exact (List.mem_cons.mp hl).elim (· ▸ List.mem_cons_self) fun hl =>
            List.mem_cons_of_mem _ (ih (.inl ⟨piece, List.mem_cons_self, hl⟩))
        · exact List.mem_cons_of_mem _ (ih (.inl ⟨piece', List.mem_cons_of_mem _ hpiece, hl⟩))
      · exact List.mem_cons_of_mem _ (ih (.inr hl))

section
variable {m n : Type → Type} [Monad m] [Monad n] (R : Simulation m n)
  {seg : Text → m (List Text)} {seg' : Text → n (List Text)}

theorem speakAll_rel {cues : List Cue}
    (hseg : ∀ word, .name word ∈ cues → R.rel (seg word) (seg' word)) :
    R.rel (Cue.speakAll seg cues) (Cue.speakAll seg' cues) := by
  induction cues with
  | nil => exact R.rel_pure _
  | cons cue rest ih =>
    have hrest := ih fun word hword => hseg word (List.mem_cons_of_mem cue hword)
    have hcue : R.rel (cue.speak seg) (cue.speak seg') := by
      cases cue with
      | fixed w => exact R.rel_pure _
      | name w => exact R.rel_bind (hseg w List.mem_cons_self) fun segments => R.rel_pure _
    exact R.rel_bind hcue fun first => R.rel_bind hrest fun others => R.rel_pure _

theorem speakEach_rel {css : List (List Cue)}
    (hseg : ∀ cues ∈ css, ∀ word, .name word ∈ cues → R.rel (seg word) (seg' word)) :
    R.rel (speakEach seg css) (speakEach seg' css) := by
  induction css with
  | nil => exact R.rel_pure _
  | cons cues css ih =>
    have hrest := ih fun cues' hcues => hseg cues' (List.mem_cons_of_mem cues hcues)
    exact R.rel_bind (speakAll_rel R (hseg cues List.mem_cons_self)) fun words =>
      R.rel_bind hrest fun others => R.rel_pure _

theorem encode_rel (k : Combiners) {ls : List Lexeme}
    (hseg : ∀ l ∈ ls, ∀ word, .name word ∈ l.cues k → R.rel (seg word) (seg' word)) :
    R.rel (encode seg k ls) (encode seg' k ls) := by
  refine R.rel_bind (speakEach_rel R fun cues hcues word hword => ?_) fun statements =>
    R.rel_bind (speakAll_rel R fun word hword => ?_) fun words => R.rel_pure _
  · obtain ⟨piece, hpiece, rfl⟩ := List.mem_map.mp hcues
    obtain ⟨l, hl, hword⟩ := List.mem_flatMap.mp hword
    exact hseg l (mem_of_mem_cutAtNewlines (.inl ⟨piece, hpiece, hl⟩)) word hword
  · obtain ⟨l, hl, hword⟩ := List.mem_flatMap.mp hword
    exact hseg l (mem_of_mem_cutAtNewlines (.inr hl)) word hword

theorem encodeLines_rel (k : Combiners) {t : Text}
    (hseg : ∀ line ∈ t.lines, ∀ word, .name word ∈ Cue.ofLine k line → R.rel (seg word) (seg' word)) :
    R.rel (encodeLines seg k t) (encodeLines seg' k t) := by
  refine R.rel_bind (speakEach_rel R fun cues hcues word hword => ?_) fun statements => R.rel_pure _
  obtain ⟨line, hline, rfl⟩ := List.mem_map.mp hcues
  exact hseg line hline word hword

theorem encodeDocument_rel (hseg : ∀ word, R.rel (seg word) (seg' word)) (k : Combiners)
    (kind : DocumentKind) (t : Text) :
    R.rel (encodeDocument seg k kind t) (encodeDocument seg' k kind t) := by
  cases kind with
  | source => exact encode_rel R k fun _ _ word _ => hseg word
  | text => exact encodeLines_rel R k fun _ _ word _ => hseg word

end

/-- What an encoder with a sound memo gives is what it gives without one. -/
theorem encodeDocument_computes (s : Segmenter) (k : Combiners) (kind : DocumentKind) (t : Text) :
    s.Computes (encodeDocument s.segmentMemo k kind t) (encodeDocument s.segment k kind t) :=
  encodeDocument_rel s.computing s.segmentMemo_computes k kind t

end Dictation.Source
