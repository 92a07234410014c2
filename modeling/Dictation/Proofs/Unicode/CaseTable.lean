import Dictation.Unicode.CaseTable
import Dictation.Unicode.Listed
import Mathlib.Data.Nat.Bitwise
/-!
# What the case tables give

No case table moves a letter that it gives, and none gives white space. The tables are too long to be
compared entry by entry, so their code points are gathered as the bits of one number.
-/
namespace Dictation.Unicode

def bits (ns : List Nat) : Nat := ns.foldr (fun n m => 2 ^ n ||| m) 0

/-- The number whose bits are those of all lists. -/
def allBits (nss : List (List Nat)) : Nat := nss.foldr (fun ns m => bits ns ||| m) 0

theorem testBit_bits {n : Nat} {ns : List Nat} : (bits ns).testBit n = true ↔ n ∈ ns := by
  induction ns with
  | nil => simp [bits]
  | cons m ns ih =>
    change (2 ^ m ||| bits ns).testBit n = true ↔ _
    rw [Nat.testBit_or, Bool.or_eq_true, ih, Nat.testBit_two_pow, decide_eq_true_eq, List.mem_cons,
      eq_comm]

theorem testBit_allBits {n : Nat} {nss : List (List Nat)} :
    (allBits nss).testBit n = true ↔ n ∈ nss.flatten := by
  induction nss with
  | nil => simp [allBits]
  | cons ns nss ih =>
    change (bits ns ||| allBits nss).testBit n = true ↔ _
    rw [Nat.testBit_or, Bool.or_eq_true, ih, testBit_bits, List.flatten_cons, List.mem_append]

theorem disjoint_of_allBits {nss mss : List (List Nat)} (h : allBits nss &&& allBits mss = 0) {n : Nat}
    (hn : n ∈ nss.flatten) : n ∉ mss.flatten := by
  intro hm
  have hbit := Nat.testBit_and (allBits nss) (allBits mss) n
  rw [h, Nat.zero_testBit, testBit_allBits.mpr hn, testBit_allBits.mpr hm] at hbit
  cases hbit

/-- Every `step`-th number from `first` to `last`. -/
def progression (first last step : Nat) : List Nat :=
  (List.range ((last - first) / step + 1)).map (first + · * step)

theorem mem_progression {first last step n : Nat} (hfirst : first ≤ n) (hlast : n ≤ last)
    (hstep : (n - first) % step = 0) : n ∈ progression first last step := by
  refine List.mem_map.mpr ⟨(n - first) / step, List.mem_range.mpr ?_, ?_⟩
  · exact Nat.lt_succ_of_le (Nat.div_le_div_right (Nat.sub_le_sub_right hlast first))
  · rw [Nat.div_mul_cancel (Nat.dvd_of_mod_eq_zero hstep), Nat.add_sub_cancel' hfirst]

def Span.points (s : Span) : List Nat := progression s.first s.last s.step

def Shift.sources (s : Shift) : List Nat := progression s.first s.last s.step

def Shift.images (s : Shift) : List Nat := progression s.image (s.image + (s.last - s.first)) s.step

theorem Span.mem_points {spans : List Span} {n : Nat} (h : Span.mem spans n = true) :
    n ∈ (spans.map points).flatten := by
  induction spans with
  | nil => cases h
  | cons s rest ih =>
    rw [List.map_cons, List.flatten_cons, List.mem_append]
    unfold mem at h
    split at h
    · cases h
    · split at h
      · exact .inl (mem_progression (by omega) ‹_› (beq_iff_eq.mp h))
      · exact .inr (ih h)

theorem Shift.of_moved? {shifts : List Shift} {n m : Nat} (h : moved? shifts n = some m) :
    n ∈ (shifts.map sources).flatten ∧ m ∈ (shifts.map images).flatten := by
  induction shifts with
  | nil => cases h
  | cons s rest ih =>
    simp only [List.map_cons, List.flatten_cons, List.mem_append]
    unfold moved? at h
    split at h
    · cases h
    · split at h
      · split at h
        case isTrue hstep =>
          cases h
          have hmod := beq_iff_eq.mp hstep
          refine ⟨.inl (mem_progression (by omega) ‹_› hmod), .inl ?_⟩
          exact mem_progression (by omega) (by omega) (by rwa [Nat.add_sub_cancel_left])
        case isFalse => cases h
      · exact (ih h).imp .inr .inr

theorem lowerShifts_settled {m : Nat} (h : m ∈ (lowerShifts.map Shift.images).flatten) :
    Shift.moved? lowerShifts m = none ∧ m ≠ 0x130 ∧ Span.mem blankSpans m = false := by
  have hbits : allBits (lowerShifts.map Shift.images) &&&
      allBits ([0x130] :: lowerShifts.map Shift.sources ++ blankSpans.map Span.points) = 0 := by
    decide +kernel
  have hapart := disjoint_of_allBits hbits h
  simp only [List.cons_append, List.nil_append, List.flatten_cons, List.flatten_append, List.mem_cons,
    List.mem_append, not_or] at hapart
  refine ⟨Option.eq_none_iff_forall_ne_some.mpr fun m' hm' => hapart.2.1 (Shift.of_moved? hm').1,
    hapart.1, Bool.eq_false_iff.mpr fun hblank => hapart.2.2 (Span.mem_points hblank)⟩

theorem upperShifts_settled {m : Nat}
    (h : m ∈ (upperShifts.map Shift.images ++ upperExpansions.map Prod.snd).flatten) :
    Shift.moved? upperShifts m = none ∧ upperExpansions.lookup m = none ∧
      Span.mem blankSpans m = false := by
  have hbits : allBits (upperShifts.map Shift.images ++ upperExpansions.map Prod.snd) &&&
      allBits (upperExpansions.map Prod.fst :: upperShifts.map Shift.sources ++
        blankSpans.map Span.points) = 0 := by
    decide +kernel
  have hapart := disjoint_of_allBits hbits h
  simp only [List.cons_append, List.flatten_cons, List.flatten_append, List.mem_append, not_or]
    at hapart
  refine ⟨Option.eq_none_iff_forall_ne_some.mpr fun m' hm' => hapart.2.1 (Shift.of_moved? hm').1,
    ?_, Bool.eq_false_iff.mpr fun hblank => hapart.2.2 (Span.mem_points hblank)⟩
  refine List.lookup_eq_none_iff.mpr fun e he => ?_
  refine bne_iff_ne.mpr ?_
  rintro rfl
  exact hapart.1 (List.mem_map_of_mem he)

end Dictation.Unicode
