import Dictation.Pattern.CharSet
import Dictation.Proofs.Text.LetterCase
/-!
# What folding sends to one character

Characters that fold to the same one are counterparts. White space has no counterparts, and most letters
have just the one in the other case.
-/
namespace Dictation.Unicode

theorem Shift.mem_preimages {shifts : List Shift} {n m : Nat} (h : moved? shifts n = some m) :
    n ∈ preimages shifts m := by
  induction shifts with
  | nil => cases h
  | cons s rest ih =>
    unfold moved? at h
    split at h
    · cases h
    · split at h
      · split at h
        case isTrue hstep =>
          cases h
          refine List.mem_filterMap.mpr ⟨s, List.mem_cons_self, ?_⟩
          have hdistance : s.image + (n - s.first) - s.image = n - s.first := by omega
          simp only [hdistance, hstep]
          simp
          omega
        case isFalse => cases h
      · have hmem := ih h
        unfold preimages at hmem ⊢
        rw [List.filterMap_cons]
        split
        · exact hmem
        · exact List.mem_cons_of_mem _ hmem

theorem Shift.exists_of_mem_preimages {shifts : List Shift} {n m : Nat} (h : n ∈ preimages shifts m) :
    ∃ s ∈ shifts, s.first ≤ n ∧ n ≤ s.last := by
  obtain ⟨s, hs, hsource⟩ := List.mem_filterMap.mp h
  simp only [Option.ite_none_right_eq_some, Bool.and_eq_true, decide_eq_true_eq, beq_iff_eq] at hsource
  obtain ⟨⟨⟨_, hlast⟩, _⟩, heq⟩ := hsource
  cases heq
  exact ⟨s, hs, by omega, hlast⟩

end Dictation.Unicode

namespace Dictation

open Unicode

theorem foldChar_eq {c d : Char} (h : foldChar c = d) :
    c = d ∨ c.toNat ∈ Shift.preimages foldShifts d.toNat ∨ d = '\x00' := by
  unfold foldChar at h
  split at h
  case h_1 n hn =>
    subst h
    obtain hnat | hzero := toNat_ofNat_or n
    · rw [hnat]
      exact .inr (.inl (Shift.mem_preimages hn))
    · exact .inr (.inr hzero)
  case h_2 => exact .inl h

/-- Whether no folding is about a character, and none sends another character to it. -/
def isUnfolded (d : Char) : Bool :=
  d ≠ '\x00' && (Shift.preimages foldShifts d.toNat).isEmpty &&
    foldShifts.all fun s => d.toNat < s.first || s.last < d.toNat

theorem eq_of_mem_counterparts {c d : Char} (hd : isUnfolded d = true) (h : d ∈ counterparts c) : c = d := by
  simp only [isUnfolded, Bool.and_eq_true, Bool.or_eq_true, decide_eq_true_eq, List.isEmpty_iff,
    List.all_eq_true] at hd
  obtain ⟨⟨hzero, hnone⟩, hsource⟩ := hd
  rcases List.mem_cons.mp h with hfold | hback
  · rcases foldChar_eq hfold.symm with hsame | hmem | hnull
    · exact hsame
    · rw [hnone] at hmem
      cases hmem
    · exact absurd hnull hzero
  · obtain ⟨n, hn, rfl⟩ := List.mem_map.mp hback
    obtain hnat | hnull := toNat_ofNat_or n
    · obtain ⟨s, hs, hfirst, hlast⟩ := Shift.exists_of_mem_preimages hn
      rw [hnat] at hsource
      rcases hsource s hs with hbelow | habove
      · exact absurd hfirst (Nat.not_le_of_lt hbelow)
      · exact absurd hlast (Nat.not_le_of_lt habove)
    · exact absurd hnull hzero

theorem of_isBlank {p : Char → Prop} {c : Char} (h : isBlank c = true)
    (hall : ∀ n ∈ (blankSpans.map Span.points).flatten, p (Char.ofNat n)) : p c := by
  have hpoint := hall c.toNat (Span.mem_points h)
  rwa [Char.ofNat_toNat] at hpoint

theorem isUnfolded_of_isBlank {d : Char} (h : isBlank d = true) : isUnfolded d = true :=
  of_isBlank (p := (isUnfolded · = true)) h (by decide +kernel)

/-- In a pattern, a letter other than these two reads no more than its two cases. -/
theorem toLower_of_counterpart {c : Char} (hc : c ∈ ' ' :: smallLetters) (hk : c ≠ 'k') (hs : c ≠ 's')
    {a : Char} (h : (CharSet.counterpart c).contains a = true) : a.toLower = c := by
  have hall : ∀ c ∈ ' ' :: smallLetters, c ≠ 'k' → c ≠ 's' →
      c ≠ '\x00' ∧ c.toLower = c ∧ foldChar c = c ∧
        ∀ n ∈ Shift.preimages foldShifts c.toNat, (Char.ofNat n).toLower = c := by
    decide +kernel
  obtain ⟨hzero, hlow, hfold, hback⟩ := hall c hc hk hs
  simp only [CharSet.contains, Bool.or_eq_true, decide_eq_true_eq] at h
  rcases h with rfl | h
  · exact hlow
  · rw [hfold] at h
    rcases foldChar_eq h with rfl | hmem | hnull
    · exact hlow
    · have hlower := hback _ hmem
      rwa [Char.ofNat_toNat] at hlower
    · exact absurd hnull hzero

end Dictation
