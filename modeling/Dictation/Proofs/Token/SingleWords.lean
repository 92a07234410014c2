import Dictation.Proofs.Operator.Recovery
import Dictation.Proofs.Token.Boundaries
import Dictation.Proofs.Token.Origins
import Dictation.Proofs.Unicode.Folding
/-!
# Words without white space

A word of a text has no white space unless it is a stretch of white space that is passed on, or else the name
of one of four operators: `://`, which is spoken as three words in one, and three control characters that are
white space and are said before their names. All other words are free of it, whatever they come from.
-/
namespace Dictation

open Unicode

theorem isBlank_of_isNameChar {c : Char} (h : Name.isNameChar c = true) : isBlank c = false := by
  by_contra hblank
  have hnot := of_isBlank (p := (Name.isNameChar · = false)) (by simpa using hblank) (by decide)
  rw [h] at hnot
  cases hnot

theorem Combiners.isNamePart_of_isBlank (k : Combiners) {c : Char} (h : isBlank c = true) :
    (k.categoryOf c).isNamePart = false := by
  unfold categoryOf
  split
  · rfl
  split
  · rfl
  rfl

theorem Combiners.isBlank_of_isNamePart {k : Combiners} {c : Char}
    (h : (k.categoryOf c).isNamePart = true) : isBlank c = false := by
  by_contra hblank
  rw [k.isNamePart_of_isBlank (by simpa using hblank)] at h
  cases h

theorem isSolid_lower {t : Text} (h : isSolid t = true) : isSolid t.lower = true := by
  refine isSolid_of_isBlank (Text.lower_ne_nil (ne_nil_of_isSolid h)) fun a ha => ?_
  by_contra hblank
  have hblank' : isBlank a = true := by simpa using hblank
  rw [isBlank_of_isSolid h ((Text.mem_lower ha).2 hblank')] at hblank'
  cases hblank'

theorem isSolid_spokenName? {c : Char} {name : Text} (h : spokenName? c = some name) : isSolid name = true := by
  unfold spokenName? at h
  split at h
  case h_2 => cases h
  case h_1 =>
    rw [Option.ite_none_right_eq_some, Option.some.injEq] at h
    obtain ⟨⟨hne, hall⟩, rfl⟩ := h
    exact isSolid_of_isBlank hne fun a ha => isBlank_of_isNameChar (List.all_eq_true.mp hall a ha)

theorem isBlank_of_mem_hexDigits {count n : Nat} {c : Char} (h : c ∈ Name.hexDigits count n) :
    isBlank c = false := by
  induction count generalizing n with
  | zero => cases h
  | succ count ih =>
    rcases List.mem_append.mp h with h | h
    · exact ih h
    · have hall : ∀ m < 16, isBlank (Name.hexDigit m) = false := by decide
      rw [List.mem_singleton.mp h]
      exact hall _ (Nat.mod_lt n (by decide))

theorem isBlank_of_mem_fallbackName {c a : Char} (h : a ∈ Operator.fallbackName c) : isBlank a = false := by
  unfold Operator.fallbackName at h
  cases hname : spokenName? c with
  | some name =>
    rw [hname] at h
    exact isBlank_of_isSolid (isSolid_spokenName? hname) h
  | none =>
    rw [hname] at h
    rcases List.mem_cons.mp h with rfl | h
    · decide
    · unfold Name.hexCode at h
      split at h
      · exact isBlank_of_mem_hexDigits h
      · split at h <;> exact isBlank_of_mem_hexDigits h

theorem isSolid_numeralWords? {c : Char} {ws : List Text} (h : numeralWords? c = some ws) {w : Text}
    (hw : w ∈ ws) : isSolid w = true := by
  have hall : ∀ w ∈ ws, isSolid w = true := by
    unfold numeralWords? at h
    split at h <;> cases h <;> decide
  exact hall w hw

theorem isSolid_digitWord {c : Char} (h : isBlank c = false) : isSolid (digitWord c) = true := by
  unfold digitWord
  split
  case h_1 hdigit _ =>
    have hall : ∀ d ∈ asciiDigits, ∀ ws, numeralWords? d = some ws → isSolid ws.flatten = true := by decide
    exact hall c (mem_asciiDigits hdigit) _ ‹_›
  case h_2 =>
    cases hname : spokenName? c with
    | some name => exact isSolid_spokenName? hname
    | none => exact isSolid_of_isBlank (List.cons_ne_nil c []) fun a ha => List.mem_singleton.mp ha ▸ h

theorem isSolid_marker {c : Casing} {w : Text} (h : w ∈ c.markers) : isSolid w = true := by
  have hall : ∀ w ∈ c.markers, isSolid w = true := by cases c <;> decide
  exact hall w h

theorem isSolid_of_mem_segments {n x : Text} {segments : List Text} (hn : isSolid n = true)
    (hsegments : Segmenter.Parted n segments) (hx : x ∈ segments) : isSolid x = true := by
  obtain ⟨stretches, hpartition⟩ := hsegments.partition
  have hne : x ≠ [] := fun hnil => hsegments.solid (ne_nil_of_isSolid hn) (hnil ▸ hx)
  rw [← hpartition.segments_eq] at hx
  obtain ⟨stretch, hstretch, hx⟩ := List.mem_flatMap.mp hx
  have htext : ∀ a ∈ stretch.text, isBlank a = false := fun a ha =>
    isBlank_of_isSolid hn (hpartition.text_eq ▸ List.mem_flatMap.mpr ⟨stretch, hstretch, ha⟩)
  cases stretch with
  | kept t =>
    obtain rfl := List.mem_singleton.mp hx
    exact isSolid_of_isBlank hne htext
  | spelled ds =>
    obtain ⟨d, hd, rfl⟩ := List.mem_map.mp hx
    exact isSolid_digitWord (htext d hd)

theorem isSolid_of_mem_frame {n w : Text} {segments : List Text} (hn : isSolid n = true)
    (hsegments : Segmenter.Parted n segments) (hw : w ∈ Cue.frame n segments) : isSolid w = true := by
  unfold Cue.frame at hw
  split at hw
  · rcases List.mem_append.mp hw with hw | hw
    · rcases List.mem_cons.mp hw with rfl | hw
      · decide
      · obtain ⟨x, hx, rfl⟩ := List.mem_map.mp hw
        exact isSolid_lower (isSolid_of_mem_segments hn hsegments hx)
    · rw [List.mem_singleton.mp hw]
      decide
  · rw [List.mem_singleton.mp hw]
    exact isSolid_lower hn

namespace Operator

/-- The operators that are spoken with white space. -/
def blankSpoken : List Text := ["://", ['\x0b'], ['\x0c'], ['\u0085']]

theorem blank_cases {c : Char} (h : isBlank c = true) :
    ({} : Combiners).categoryOf c = .separator ∨ spoken? [c] ≠ none ∨ [c] ∈ blankSpoken :=
  of_isBlank (p := fun c => ({} : Combiners).categoryOf c = .separator ∨ spoken? [c] ≠ none ∨ [c] ∈ blankSpoken)
    h (by decide)

theorem isSolid_word {op : Text} (hop : op ∈ compounds ∨ ∃ c, op = [c])
    (hcategory : ∀ c ∈ op, ({} : Combiners).categoryOf c ≠ .separator) (hnot : op ∉ blankSpoken) :
    isSolid (word op) = true := by
  unfold word
  cases hspoken : spoken? op with
  | some spoken =>
    have hall : ∀ e ∈ spelledTable.1, isSolid e.2 = true ∨ e.1 ∈ blankSpoken := by decide
    exact (hall _ (mem_table_of_spoken? hspoken)).resolve_right hnot
  | none =>
    obtain ⟨c, rfl⟩ := hop.resolve_left fun hcompound => spoken?_of_mem_compounds hcompound hspoken
    have hc : isBlank c = false := by
      by_contra hblank
      rcases blank_cases (by simpa using hblank) with hseparator | hlisted | hblank
      · exact hcategory c List.mem_cons_self hseparator
      · exact hlisted hspoken
      · exact hnot hblank
    rw [Option.getD_none, List.flatMap_singleton]
    refine isSolid_of_isBlank (List.cons_ne_nil _ _) fun a ha => ?_
    rcases List.mem_cons.mp ha with rfl | ha
    · exact hc
    · exact isBlank_of_mem_fallbackName ha

theorem blankSpoken_sound : ∀ op ∈ blankSpoken, op ≠ [] ∧ (∃ a ∈ word op, isBlank a = true) ∧
    (∃ a ∈ word op, ({} : Combiners).categoryOf a ≠ .separator) ∧
    ∀ c ∈ op, (({} : Combiners).categoryOf c).splitsWords = true ∧
      ({} : Combiners).categoryOf c ≠ .separator := by
  decide

theorem word_ne_nil {op : Text} (hop : op ≠ []) : word op ≠ [] := by
  unfold word
  cases hspoken : spoken? op with
  | some spoken =>
    have hall : ∀ e ∈ spelledTable.1, e.2 ≠ [] := by decide
    exact hall _ (mem_table_of_spoken? hspoken)
  | none =>
    obtain ⟨c, rest, rfl⟩ := List.exists_cons_of_ne_nil hop
    exact List.cons_ne_nil _ _

end Operator

namespace Cue

variable {t : Text}

theorem mem_run_of_mem_split {k : Combiners} {r : Run} (hr : r ∈ k.runs t) {op : Text}
    (hop : op ∈ Operator.split r.text) {c : Char} (hc : c ∈ op) : c ∈ t ∧ k.categoryOf c = r.category := by
  have hflatten := (Operator.longestMatch_split r.text).flatten_eq
  exact Combiners.mem_run hr (hflatten ▸ List.mem_flatten.mpr ⟨op, hop, hc⟩)

theorem isNamePart_of_mem_runs {k : Combiners} {n : Text}
    (h : ∀ a ∈ n, ∃ r ∈ k.runs t, r.category.isNamePart = true ∧ a ∈ r.text) :
    ∀ a ∈ n, (k.categoryOf a).isNamePart = true := by
  intro a ha
  obtain ⟨r, hr, hpart, ha⟩ := h a ha
  rw [(Combiners.mem_run hr ha).2, hpart]

/-- Whatever a cue comes from, it says words without white space, unless it passes white space on or names one
of the operators that are spoken with white space. -/
theorem Origin.isSolid {segment : Text → Except VocabularyError (List Text)} {cue : Cue}
    (hsegment : ∀ n, cue = .name n → ∀ segments, segment n = .ok segments → Segmenter.Parted n segments)
    (h : Origin (({} : Combiners).runs t) cue) {w : Text} (hw : cue.Says segment w) :
    Dictation.isSolid w = true ∨ w ≠ [] ∧ (⟨.separator, w⟩ ∈ ({} : Combiners).runs t ∨
      ∃ r ∈ ({} : Combiners).runs t, ∃ op ∈ Operator.blankSpoken, op ∈ Operator.split r.text) := by
  cases h with
  | @blank r hr hcategory =>
    cases hw
    refine .inr ⟨text_ne_nil_of_mem_runs hr, .inl ?_⟩
    rw [← hcategory]
    exact hr
  | @operator r op hr hpart hcategory hop =>
    cases hw
    have hkind := (Operator.longestMatch_split r.text).compound_or_character hop
    by_cases hblank : op ∈ Operator.blankSpoken
    · exact .inr ⟨Operator.word_ne_nil (Operator.blankSpoken_sound op hblank).1, .inr ⟨r, hr, op, hblank, hop⟩⟩
    · refine .inl (Operator.isSolid_word hkind (fun c hc => ?_) hblank)
      rw [(mem_run_of_mem_split hr hop hc).2]
      exact hcategory
  | numeral hc hmem =>
    cases hw
    exact .inl (isSolid_numeralWords? hc hmem)
  | marker hmem =>
    cases hw
    exact .inl (isSolid_marker hmem)
  | @digit r c hr hcategory hc =>
    cases hw
    refine .inl (isSolid_digitWord (Combiners.isBlank_of_isNamePart (k := {}) ?_))
    rw [(Combiners.mem_run hr hc).2, hcategory]
    rfl
  | @name n hne hmem =>
    cases hw with
    | name hsegments hw =>
      refine .inl (isSolid_of_mem_frame (isSolid_of_isBlank hne fun a ha => ?_) (hsegment n rfl _ hsegments) hw)
      exact Combiners.isBlank_of_isNamePart (isNamePart_of_mem_runs hmem a ha)

end Cue

namespace Segmenter

/-- If the vocabulary answers, a text has words, and none of them is empty. A word with white space is always a
stretch of white space in the text just if no run of the text holds an operator that is spoken with white space. -/
theorem speakText_solid_iff (s : Segmenter) (hv : s.vocabulary.Answering) (earlier : List Text) (t : Text) :
    ∃ words, ((s.speakText {} t).run.run (s.memoAfter {} earlier)).1 = .ok words ∧ (∀ w ∈ words, w ≠ []) ∧
      ((∀ w ∈ words, (∃ a ∈ w, isBlank a = true) → ⟨.separator, w⟩ ∈ ({} : Combiners).runs t) ↔
        ∀ r ∈ ({} : Combiners).runs t, ∀ op ∈ Operator.blankSpoken, op ∉ Operator.split r.text) := by
  have hnames := Cue.namesIn_ofText {} t
  obtain ⟨words, hwords, hiff⟩ := Cue.mem_speakAll (hnames.exists_segments hv)
  have hcases : ∀ w ∈ words, isSolid w = true ∨ w ≠ [] ∧ (⟨.separator, w⟩ ∈ ({} : Combiners).runs t ∨
      ∃ r ∈ ({} : Combiners).runs t, ∃ op ∈ Operator.blankSpoken, op ∈ Operator.split r.text) := by
    intro w hw
    obtain ⟨cue, hcue, hsaid⟩ := (hiff w).mp hw
    exact (Cue.origin_ofText hcue).isSolid (fun n hn => hnames.parted hv n (hn ▸ hcue)) hsaid
  refine ⟨words, ?_, fun w hw => ?_, ⟨fun h r hr op hblank hop => ?_, fun h w hw hblank => ?_⟩⟩
  · exact (s.speakText_computes {} t _ (s.sound_memoAfter {} earlier)).1.trans hwords
  · exact (hcases w hw).elim ne_nil_of_isSolid And.left
  · -- The name of such an operator is among the words, and is no stretch of white space.
    obtain ⟨hne, hword, ⟨a, ha, hother⟩, hchars⟩ := Operator.blankSpoken_sound op hblank
    obtain ⟨c, rest, rfl⟩ := List.exists_cons_of_ne_nil hne
    obtain ⟨hsplits, hcategory⟩ := hchars c List.mem_cons_self
    rw [(Cue.mem_run_of_mem_split hr hop List.mem_cons_self).2] at hsplits hcategory
    have hmem := (hiff _).mpr ⟨_, Cue.operator_mem_ofText hr hsplits hcategory hop, .fixed _⟩
    exact hother (Combiners.mem_run (h _ hmem hword) ha).2
  · rcases hcases w hw with hsolid | ⟨_, hseparator | ⟨r, hr, op, hspoken, hop⟩⟩
    · obtain ⟨a, ha, hblank⟩ := hblank
      rw [isBlank_of_isSolid hsolid ha] at hblank
      cases hblank
    · exact hseparator
    · exact absurd hop (h r hr op hspoken)

/-- A tab has a listed name, and a blank is passed on. -/
theorem speakText_solid_assignment :
    let s : Segmenter := ⟨(WordList.ofWords ["total", "price"]).toVocabulary, true⟩
    let t := "\tx += 1".toList
    s.vocabulary.Answering ∧ ∃ words, ((s.speakText {} t).run.run (s.memoAfter {} ["sum"])).1 = .ok words ∧
      (∀ w ∈ words, w ≠ []) ∧
      ∀ w ∈ words, (∃ a ∈ w, isBlank a = true) → ⟨.separator, w⟩ ∈ ({} : Combiners).runs t := by
  intro s t
  have hv : s.vocabulary.Answering := WordList.answering _
  have hnone : ∀ r ∈ ({} : Combiners).runs t, ∀ op ∈ Operator.blankSpoken, op ∉ Operator.split r.text := by
    decide +kernel
  obtain ⟨words, hwords, hne, hsolid⟩ := s.speakText_solid_iff hv ["sum"] t
  exact ⟨hv, words, hwords, hne, hsolid.mpr hnone⟩

/-- This operator is spoken as one word with two blanks, where the text has none. -/
theorem speakText_colon_slash_slash :
    let s : Segmenter := ⟨(WordList.ofWords []).toVocabulary, true⟩
    let w := ":colon /slash /slash".toList
    s.vocabulary.Answering ∧ ((s.speakText {} "://").run.run (s.memoAfter {} [])).1 = .ok [w] ∧
      (∃ a ∈ w, isBlank a = true) ∧ ⟨.separator, w⟩ ∉ ({} : Combiners).runs "://" := by
  intro s w
  have hspoken : Cue.speakAll s.segment (Cue.ofText {} "://") = .ok [w] := by
    have hcues : Cue.ofText {} "://" = [w].map .fixed := by decide +kernel
    rw [hcues]
    exact Cue.speakAll_fixed s.segment [w]
  exact ⟨WordList.answering _,
    (s.speakText_computes {} _ _ (s.sound_memoAfter {} [])).1.trans hspoken, by decide, by decide +kernel⟩

end Segmenter

end Dictation
