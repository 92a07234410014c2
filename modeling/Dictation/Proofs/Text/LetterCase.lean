import Dictation.Proofs.Text.Alphabet
import Dictation.Proofs.Text.Words
import Dictation.Proofs.Unicode.CaseTable
import Dictation.Text.Case
/-!
# What a change of case leaves alone

A text in lower case stays the same in lower case, and a text in upper case in upper case. No change
of case makes white space of another character.
-/
namespace Dictation

open Unicode

theorem toNat_ofNat_or (n : Nat) : (Char.ofNat n).toNat = n ∨ Char.ofNat n = '\x00' := by
  by_cases h : n.isValidChar
  · refine .inl ?_
    rw [Char.ofNat, dif_pos h]
    rfl
  · exact .inr (dif_neg h)

/-- A character that lower case leaves as it is, wherever it stands. -/
structure IsLow (c : Char) : Prop where
  lowerChar : lowerChar c = [c]
  ne_sigma : c ≠ 'Σ'

theorem isLow_iff {c : Char} : IsLow c ↔ lowerChar c = [c] ∧ c ≠ 'Σ' :=
  ⟨fun h => ⟨h.lowerChar, h.ne_sigma⟩, fun h => ⟨h.1, h.2⟩⟩

instance (c : Char) : Decidable (IsLow c) := decidable_of_iff' _ isLow_iff

theorem isLow_of_moved {c : Char} (h : Shift.moved? lowerShifts c.toNat = none) (hc : c ≠ '\u0130') :
    IsLow c where
  lowerChar := by rw [Dictation.lowerChar, h, if_neg hc]
  ne_sigma := by
    rintro rfl
    revert h
    decide

theorem lowerChar_sound {c d : Char} (h : d ∈ lowerChar c) : IsLow d ∧ (isBlank d = true → d = c) := by
  unfold Dictation.lowerChar at h
  split at h
  case h_1 m hm =>
    obtain rfl := List.mem_singleton.mp h
    obtain ⟨hmoved, hdotted, hblank⟩ := lowerShifts_settled (Shift.of_moved? hm).2
    obtain hnat | hzero := toNat_ofNat_or m
    · rw [← hnat] at hmoved hblank
      refine ⟨isLow_of_moved hmoved fun heq => hdotted ?_, fun hb => absurd hb (by simp [isBlank, hblank])⟩
      rw [← hnat, heq]
      rfl
    · rw [hzero]
      exact ⟨by decide, fun hb => absurd hb (by decide)⟩
  case h_2 hm =>
    split at h
    case isTrue hc =>
      have hall : ∀ d ∈ ['i', '\u0307'], IsLow d ∧ isBlank d = false := by decide
      obtain ⟨hlow, hblank⟩ := hall d h
      exact ⟨hlow, fun hb => by simp [hblank] at hb⟩
    case isFalse hc =>
      obtain rfl := List.mem_singleton.mp h
      exact ⟨isLow_of_moved hm hc, fun _ => rfl⟩

theorem eq_hyphen_of_mem_lowerChar {c : Char} (h : '-' ∈ lowerChar c) : c = '-' := by
  unfold Dictation.lowerChar at h
  split at h
  case h_1 m hm =>
    have hbit : (allBits (lowerShifts.map Shift.images)).testBit '-'.toNat = false := by decide +kernel
    have hsame := List.mem_singleton.mp h
    have himage := (Shift.of_moved? hm).2
    obtain hnat | hzero := toNat_ofNat_or m
    · rw [← hnat, ← hsame, ← testBit_allBits, hbit] at himage
      cases himage
    · rw [hzero] at hsame
      exact absurd hsame (by decide)
  case h_2 =>
    split at h
    · exact absurd h (by decide)
    · exact (List.mem_singleton.mp h).symm

theorem upperChar_cases (c : Char) : upperChar c = [c] ∨ upperChar c ≠ [] ∧ ∀ d ∈ upperChar c,
    ∃ m ∈ (upperShifts.map Shift.images ++ upperExpansions.map Prod.snd).flatten, d = Char.ofNat m := by
  have hexpansions : ∀ e ∈ upperExpansions, e.2 ≠ [] := by decide
  simp only [List.flatten_append, List.mem_append]
  unfold upperChar
  split
  case h_1 m hm =>
    refine .inr ⟨List.cons_ne_nil _ _, fun d hd => ⟨m, .inl (Shift.of_moved? hm).2, ?_⟩⟩
    exact List.mem_singleton.mp hd
  case h_2 =>
    split
    case h_1 ns hns =>
      obtain ⟨_, _, htable, _⟩ := List.lookup_eq_some_iff.mp hns
      have hmem : (c.toNat, ns) ∈ upperExpansions := htable ▸ List.mem_append_right _ List.mem_cons_self
      refine .inr ⟨by simpa using hexpansions _ hmem, fun d hd => ?_⟩
      obtain ⟨n, hn, rfl⟩ := List.mem_map.mp hd
      exact ⟨n, .inr (List.mem_flatten_of_mem (List.mem_map_of_mem hmem) hn), rfl⟩
    case h_2 => exact .inl rfl

theorem upperChar_ne_nil (c : Char) : upperChar c ≠ [] := by
  obtain h | h := upperChar_cases c
  · rw [h]
    exact List.cons_ne_nil _ _
  · exact h.1

theorem upperChar_sound {c d : Char} (h : d ∈ upperChar c) :
    upperChar d = [d] ∧ (isBlank d = true → d = c) := by
  obtain hsame | ⟨_, hlisted⟩ := upperChar_cases c
  · rw [hsame] at h
    obtain rfl := List.mem_singleton.mp h
    exact ⟨hsame, fun _ => rfl⟩
  · obtain ⟨m, hm, rfl⟩ := hlisted d h
    obtain ⟨hmoved, hexpanded, hblank⟩ := upperShifts_settled hm
    obtain hnat | hzero := toNat_ofNat_or m
    · rw [← hnat] at hmoved hexpanded hblank
      refine ⟨?_, fun hb => absurd hb (by simp [isBlank, hblank])⟩
      rw [upperChar, hmoved, hexpanded]
    · rw [hzero]
      exact ⟨by decide, fun hb => absurd hb (by decide)⟩

namespace Text

theorem isLow_of_isPlain {c : Char} (h : isPlain c = true) : IsLow c := by
  have hall : ∀ c ∈ (List.range' 0 0x80).map Char.ofNat, isPlain c = true → IsLow c := by decide +kernel
  refine hall c (mem_charRange ⟨Nat.zero_le _, ?_⟩) h
  simpa using (Bool.and_eq_true_iff.mp h).1

theorem lower_of_isLow {t : Text} (h : ∀ a ∈ t, IsLow a) : t.lower = t := by
  have hsigma : t.contains 'Σ' = false := by
    simpa using fun hmem => (h 'Σ' hmem).ne_sigma rfl
  have hsame : t.flatMap lowerChar = t.flatMap fun a => [a] :=
    List.flatMap_congr fun a ha => (h a ha).lowerChar
  unfold lower
  rw [hsigma, if_neg Bool.false_ne_true, hsame, List.flatMap_singleton', ite_self]

private theorem mem_lowerAfter {before t : Text} {a : Char} (h : a ∈ lowerAfter before t) :
    a ∈ ['ς', 'σ'] ∨ ∃ c ∈ t, a ∈ lowerChar c := by
  induction t generalizing before with
  | nil => cases h
  | cons c t ih =>
    rw [lowerAfter] at h
    rcases List.mem_append.mp h with h | h
    · split at h
      case isTrue =>
        refine .inl ?_
        split at h <;> simp_all
      case isFalse => exact .inr ⟨c, List.mem_cons_self, h⟩
    · exact (ih h).imp_right fun ⟨d, hd, ha⟩ => ⟨d, List.mem_cons_of_mem c hd, ha⟩

/-- Lower case consists of small sigmas and of the lower case of single characters. -/
theorem mem_lower_cases {t : Text} {a : Char} (h : a ∈ t.lower) :
    a ∈ ['ς', 'σ'] ∨ ∃ c ∈ t, a ∈ lowerChar c := by
  unfold lower at h
  split at h
  case isTrue hplain =>
    refine .inr ⟨a, h, ?_⟩
    rw [(isLow_of_isPlain (List.all_eq_true.mp hplain a h)).lowerChar]
    exact List.mem_singleton_self a
  case isFalse =>
    split at h
    · exact mem_lowerAfter h
    · exact .inr (List.mem_flatMap.mp h)

theorem mem_lower {t : Text} {a : Char} (h : a ∈ t.lower) : IsLow a ∧ (isBlank a = true → a ∈ t) := by
  have hsigmas : ∀ a ∈ ['ς', 'σ'], IsLow a ∧ isBlank a = false := by decide
  rcases mem_lower_cases h with hsigma | ⟨c, hc, ha⟩
  · obtain ⟨hlow, hblank⟩ := hsigmas a hsigma
    exact ⟨hlow, fun hb => by simp [hblank] at hb⟩
  · exact ⟨(lowerChar_sound ha).1, fun hb => (lowerChar_sound ha).2 hb ▸ hc⟩

theorem hyphen_of_mem_lower {t : Text} (h : '-' ∈ t.lower) : '-' ∈ t := by
  rcases mem_lower_cases h with hsigma | ⟨c, hc, ha⟩
  · exact absurd hsigma (by decide)
  · exact eq_hyphen_of_mem_lowerChar ha ▸ hc

theorem lower_lower (t : Text) : t.lower.lower = t.lower := lower_of_isLow fun _ ha => (mem_lower ha).1

theorem tab_of_mem_lower {t : Text} (h : '	' ∈ t.lower) : '	' ∈ t := (mem_lower h).2 (by decide)

theorem upper_upper (t : Text) : t.upper.upper = t.upper := by
  have hsame : t.upper.flatMap upperChar = t.upper.flatMap fun a => [a] := by
    refine List.flatMap_congr fun a ha => ?_
    obtain ⟨c, _, hc⟩ := List.mem_flatMap.mp ha
    exact (upperChar_sound hc).1
  rw [upper, hsame, List.flatMap_singleton']

theorem IsTrimmed.upper {t : Text} (h : t.IsTrimmed) : t.upper.IsTrimmed := by
  have hsolid : ∀ {c d : Char}, isBlank c = false → d ∈ upperChar c → isBlank d = false := by
    intro c d hc hd
    by_contra hb
    rw [(upperChar_sound hd).2 (by simpa using hb)] at hb
    exact hb hc
  refine ⟨?_, fun a ha => ?_, fun a ha => ?_⟩
  · obtain ⟨c, t, rfl⟩ := List.exists_cons_of_ne_nil h.ne_nil
    exact List.append_ne_nil_of_left_ne_nil (upperChar_ne_nil c) _
  · obtain ⟨c, t, rfl⟩ := List.exists_cons_of_ne_nil h.ne_nil
    rw [Text.upper, List.flatMap_cons, List.head?_append, List.head?_eq_some_head (upperChar_ne_nil c),
      Option.some_or] at ha
    cases ha
    exact hsolid (h.head c rfl) (List.head_mem _)
  · have hlast := h.last _ (List.getLast?_eq_some_getLast h.ne_nil)
    rw [← List.dropLast_append_getLast h.ne_nil, Text.upper, List.flatMap_append, List.flatMap_singleton,
      List.getLast?_append, List.getLast?_eq_some_getLast (upperChar_ne_nil _), Option.some_or] at ha
    cases ha
    exact hsolid hlast (List.getLast_mem _)

theorem trim_upper {t : Text} (h : t.trim = t) : t.upper.trim = t.upper := by
  by_cases hnil : t = []
  · rw [hnil]
    rfl
  · have htrimmed := isTrimmed_trim (h.symm ▸ hnil)
    rw [h] at htrimmed
    exact htrimmed.upper.trim

end Text

end Dictation
