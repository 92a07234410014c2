import Dictation.Proofs.Source.Names
import Dictation.Proofs.Token.Grouping
/-!
# Where words come from

Every cue of a text has one of six origins: white space that is passed on, an operator that is named, a
character of a number, a marker of a name's casing, a digit within a name, and a word of a name. The words
of a text are those that its cues say.
-/
namespace Dictation

namespace Piece

variable {pending : Text} {rs : List Run}

theorem mem_finish {t : Text} {piece : Piece} (h : piece ∈ finish t) : t ≠ [] ∧ piece = word t := by
  unfold finish at h
  split at h
  case isTrue => cases h
  case isFalse hne => exact ⟨by simpa using hne, List.mem_singleton.mp h⟩

theorem sound_of_mem_splitAfter {piece : Piece} (h : piece ∈ splitAfter pending rs) :
    (∃ w, w ≠ [] ∧ piece = word w) ∨ ∃ r ∈ rs, r.category = .digit ∧ piece = digits r.text := by
  have hpending : ∀ {t : Text}, piece ∈ finish t → ∃ w, w ≠ [] ∧ piece = word w := fun ht =>
    ⟨_, mem_finish ht⟩
  induction rs generalizing pending with
  | nil => exact .inl (hpending h)
  | cons r rest ih =>
    have hlater : ∀ {t : Text}, piece ∈ splitAfter t rest → (∃ w, w ≠ [] ∧ piece = word w) ∨
        ∃ r' ∈ r :: rest, r'.category = .digit ∧ piece = digits r'.text := fun ht =>
      (ih ht).imp_right fun ⟨r', hr', hdigits⟩ => ⟨r', List.mem_cons_of_mem r hr', hdigits⟩
    unfold splitAfter at h
    split at h
    case h_1 hdigit =>
      rcases List.mem_append.mp h with h | h
      · exact .inl (hpending h)
      rcases List.mem_cons.mp h with rfl | h
      · exact .inr ⟨r, List.mem_cons_self, hdigit, rfl⟩
      · exact hlater h
    case h_2 =>
      split at h
      case isTrue hlong =>
        rcases List.mem_append.mp h with h | h
        · exact .inl (hpending h)
        rcases List.mem_cons.mp h with rfl | h
        · have hlength : 1 < r.text.length := by simpa using (Bool.and_eq_true _ _ |>.mp hlong).2
          refine .inl ⟨r.text.dropLast, ?_, rfl⟩
          rw [← List.length_pos_iff, List.length_dropLast]
          omega
        · exact hlater h
      case isFalse =>
        rcases List.mem_append.mp h with h | h
        · exact .inl (hpending h)
        · exact hlater h
    case h_3 => exact hlater h

end Piece

theorem exists_of_mem_numberWords {t : Text} {ws : List Text} (h : numberWords t = .ok ws) {w : Text}
    (hw : w ∈ ws) : ∃ c ∈ t, ∃ us, numeralWords? c = some us ∧ w ∈ us := by
  induction t generalizing ws with
  | nil =>
    cases h
    cases hw
  | cons c rest ih =>
    unfold numberWords at h
    split at h
    case h_1 => cases h
    case h_2 us hc =>
      split at h
      case h_1 more hmore =>
        cases h
        rcases List.mem_append.mp hw with hw | hw
        · exact ⟨c, List.mem_cons_self, us, hc, hw⟩
        · obtain ⟨c', hc', hus⟩ := ih hmore hw
          exact ⟨c', List.mem_cons_of_mem c hc', hus⟩
      case h_2 => cases h

namespace Cue

/-- What a cue of some runs comes from. -/
inductive Origin (rs : List Run) : Cue → Prop where
  /-- White space, which is passed on. -/
  | blank {r : Run} (hr : r ∈ rs) (hcategory : r.category = .separator) : Origin rs (fixed r.text)
  /-- An operator in a run of anything else that belongs to no name. -/
  | operator {r : Run} {op : Text} (hr : r ∈ rs) (hpart : r.category.isNamePart = false)
      (hcategory : r.category ≠ .separator) (hop : op ∈ Operator.split r.text) :
      Origin rs (fixed (Operator.word op))
  /-- A character of a number. -/
  | numeral {c : Char} {ws : List Text} {w : Text} (hc : numeralWords? c = some ws) (hw : w ∈ ws) :
      Origin rs (fixed w)
  /-- The casing of a name. -/
  | marker {c : Casing} {w : Text} (hw : w ∈ c.markers) : Origin rs (fixed w)
  /-- A digit within a name. -/
  | digit {r : Run} {c : Char} (hr : r ∈ rs) (hcategory : r.category = .digit) (hc : c ∈ r.text) :
      Origin rs (fixed (digitWord c))
  /-- A word of a name. -/
  | name {w : Text} (hne : w ≠ []) (h : ∀ a ∈ w, ∃ r ∈ rs, r.category.isNamePart = true ∧ a ∈ r.text) :
      Origin rs (name w)

section
variable {all : List Run} {cue : Cue}

theorem origin_markers {ws : List Text} {w : Text} (h : w ∈ markers ws) : Origin all (fixed w) := by
  unfold markers at h
  split at h
  · split at h
    · exact .marker (c := .cap) h
    · cases h
  · exact .marker h

theorem origin_ofName {rs : List Run} (hrs : ∀ r ∈ rs, r ∈ all ∧ r.category.isNamePart = true)
    (h : cue ∈ ofName rs) : Origin all cue := by
  rcases List.mem_append.mp h with h | h
  · obtain ⟨w, hw, rfl⟩ := List.mem_map.mp h
    exact origin_markers hw
  · obtain ⟨piece, hpiece, h⟩ := List.mem_flatMap.mp h
    rcases Piece.sound_of_mem_splitAfter hpiece with ⟨w, hne, rfl⟩ | ⟨r, hr, hdigit, rfl⟩
    · obtain rfl := List.mem_singleton.mp h
      refine .name hne fun a ha => ?_
      obtain hnil | ⟨r, hr, ha⟩ := Piece.mem_splitAfter hpiece ha
      · cases hnil
      · exact ⟨r, (hrs r hr).1, (hrs r hr).2, ha⟩
    · obtain ⟨w, hw, rfl⟩ := List.mem_map.mp h
      obtain ⟨c, hc, rfl⟩ := List.mem_map.mp hw
      exact .digit (hrs r hr).1 hdigit hc

theorem origin_operator {r : Run} (hr : r ∈ all) (hpart : r.category.isNamePart = false)
    (hcategory : r.category ≠ .separator) (h : cue ∈ (Operator.words r.text).map fixed) :
    Origin all cue := by
  obtain ⟨w, hw, rfl⟩ := List.mem_map.mp h
  obtain ⟨op, hop, rfl⟩ := List.mem_map.mp hw
  exact .operator hr hpart hcategory hop

theorem origin_ofRunsAfter {name rs : List Run}
    (hname : ∀ r ∈ name, r ∈ all ∧ r.category.isNamePart = true)
    (hrs : ∀ r ∈ rs, r ∈ all ∧ r.category ≠ .separator) (h : cue ∈ ofRunsAfter name rs) :
    Origin all cue := by
  induction rs generalizing name with
  | nil => exact origin_ofName hname h
  | cons r rest ih =>
    obtain ⟨hr, hrest⟩ := List.forall_mem_cons.mp hrs
    unfold ofRunsAfter at h
    split at h
    case isTrue hpart =>
      refine ih (fun r' hr' => ?_) hrest h
      rcases List.mem_append.mp hr' with hr' | hr'
      · exact hname r' hr'
      · exact List.mem_singleton.mp hr' ▸ ⟨hr.1, hpart⟩
    case isFalse hpart =>
      rcases List.mem_append.mp h with h | h
      · rcases List.mem_append.mp h with h | h
        · exact origin_ofName hname h
        · exact origin_operator hr.1 (by simpa using hpart) hr.2 h
      · exact ih (fun _ hr' => absurd hr' List.not_mem_nil) hrest h

end

theorem isNamePart_of_isSplitting {t : Token} (h : t.isSplitting = true) {r : Run} (hr : r ∈ t.runs) :
    r.category.isNamePart = false := by
  unfold Token.isSplitting at h
  split at h
  case h_1 r' hruns =>
    rw [hruns] at hr
    rw [List.mem_singleton.mp hr]
    cases hcategory : r'.category <;> simp [hcategory, Category.splitsWords, Category.isNamePart] at h ⊢
  case h_2 => cases h

theorem origin_ofText {k : Combiners} {t : Text} {cue : Cue} (h : cue ∈ ofText k t) :
    Origin (k.runs t) cue := by
  obtain ⟨token, htoken, h⟩ := List.mem_flatMap.mp h
  have hruns := (Token.runs_of_mem_group htoken).2
  unfold ofToken at h
  split at h
  case isTrue hsplitting =>
    obtain ⟨r, hr, h⟩ := List.mem_flatMap.mp h
    split at h
    case isTrue hseparator =>
      rw [List.mem_singleton.mp h]
      exact .blank (hruns r hr) hseparator
    case isFalse hother =>
      exact origin_operator (hruns r hr) (isNamePart_of_isSplitting hsplitting hr) hother h
  case isFalse hjoined =>
    split at h
    case h_1 ws _ hws =>
      obtain ⟨w, hw, rfl⟩ := List.mem_map.mp h
      obtain ⟨c, _, us, hus, hw⟩ := exists_of_mem_numberWords hws hw
      exact .numeral hus hw
    case h_2 =>
      refine origin_ofRunsAfter (fun _ hr => absurd hr List.not_mem_nil) (fun r hr => ⟨hruns r hr, fun hseparator => hjoined ?_⟩) h
      have honly := (Token.grouping_group (k.isChain_runs t)).only token htoken r hr (by rw [hseparator]; rfl)
      simp [Token.isSplitting, honly, hseparator, Category.splitsWords]

theorem operator_mem_ofText {k : Combiners} {t : Text} {r : Run} (hr : r ∈ k.runs t)
    (hsplits : r.category.splitsWords = true) (hcategory : r.category ≠ .separator) {op : Text}
    (hop : op ∈ Operator.split r.text) : fixed (Operator.word op) ∈ ofText k t := by
  have hgrouping := Token.grouping_group (k.isChain_runs t)
  rw [← hgrouping.runs] at hr
  obtain ⟨token, htoken, hr⟩ := List.mem_flatMap.mp hr
  have honly := hgrouping.only token htoken r hr hsplits
  have hsplitting : token.isSplitting = true := by simp [Token.isSplitting, honly, hsplits]
  refine List.mem_flatMap.mpr ⟨token, htoken, ?_⟩
  rw [ofToken, if_pos hsplitting]
  refine List.mem_flatMap.mpr ⟨r, hr, ?_⟩
  rw [if_neg hcategory]
  exact List.mem_map_of_mem (List.mem_map_of_mem hop)

/-- The words that a cue says. A name says those of its frame. -/
inductive Says (segment : Text → Except VocabularyError (List Text)) : Cue → Text → Prop where
  | fixed (w : Text) : Says segment (fixed w) w
  | name {n w : Text} {segments : List Text} (h : segment n = .ok segments) (hw : w ∈ frame n segments) :
      Says segment (name n) w

theorem mem_speakAll {segment : Text → Except VocabularyError (List Text)} {cues : List Cue}
    (hsegment : ∀ n, .name n ∈ cues → ∃ segments, segment n = .ok segments) :
    Yields (speakAll segment cues) fun words => ∀ w, w ∈ words ↔ ∃ cue ∈ cues, cue.Says segment w := by
  induction cues with
  | nil => exact .pure fun w => by simp
  | cons cue rest ih =>
    have hcue : Yields (cue.speak segment) fun words => ∀ w, w ∈ words ↔ cue.Says segment w := by
      cases cue with
      | fixed u =>
        refine .pure fun w => List.mem_singleton.trans ⟨?_, ?_⟩
        · rintro rfl
          exact .fixed w
        · rintro ⟨_⟩
          rfl
      | name n =>
        obtain ⟨segments, hsegments⟩ := hsegment n List.mem_cons_self
        refine ⟨frame n segments, by rw [speak, hsegments]; rfl, fun w => ⟨.name hsegments, ?_⟩⟩
        rintro (_ | ⟨hother, hw⟩)
        cases hsegments.symm.trans hother
        exact hw
    have hrest := ih fun n hn => hsegment n (List.mem_cons_of_mem cue hn)
    refine hcue.bind fun first hfirst => hrest.bind fun others hothers => .pure fun w => ?_
    rw [List.mem_append, hfirst, hothers, List.exists_mem_cons_iff]

end Cue

end Dictation
