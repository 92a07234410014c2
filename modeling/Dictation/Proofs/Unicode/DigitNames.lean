import Dictation.Category
import Dictation.Proofs.Text.Alphabet
import Dictation.Proofs.Text.Utf8
import Dictation.Proofs.Unicode.CaseTable
import Dictation.Source.Prose
import Mathlib.Data.List.Nodup
/-!
# The names of digits

No digit is named as a newline is. A name begins with the stem of its block, so almost all blocks with digits are
told apart by their stems. The tables are long, so the digits are gathered as the bits of one number, and the
stems are compared byte by byte.
-/
namespace Dictation.Unicode

namespace Name

/-- The blocks, each with the code point where the next one begins. -/
def stretches : List Block → List (Block × Nat)
  | [] => []
  | [b] => [(b, 0x110000)]
  | b :: next :: bs => (b, next.first) :: stretches (next :: bs)

theorem fst_mem_of_mem_stretches {bs : List Block} {r : Block × Nat} (h : r ∈ stretches bs) : r.1 ∈ bs := by
  fun_induction stretches bs with
  | case1 => cases h
  | case2 b =>
    rw [List.mem_singleton.mp h]
    exact List.mem_singleton_self b
  | case3 b next bs ih =>
    rcases List.mem_cons.mp h with rfl | h
    · exact List.mem_cons_self
    · exact List.mem_cons_of_mem b (ih h)

theorem exists_mem_stretches {bs : List Block} {n : Nat} (hn : n < 0x110000) {b : Block}
    (h : (bs.takeWhile (·.first ≤ n)).getLast? = some b) :
    ∃ next, (b, next) ∈ stretches bs ∧ b.first ≤ n ∧ n < next := by
  fun_induction stretches bs with
  | case1 => cases h
  | case2 a =>
    by_cases ha : a.first ≤ n
    · simp only [List.takeWhile_cons, ha, decide_true, if_true, List.takeWhile_nil,
        List.getLast?_singleton, Option.some.injEq] at h
      subst h
      exact ⟨_, List.mem_singleton_self _, ha, hn⟩
    · simp [ha] at h
  | case3 a next bs ih =>
    by_cases ha : a.first ≤ n
    · by_cases hnext : next.first ≤ n
      · simp only [List.takeWhile_cons, ha, hnext, decide_true, if_true, List.getLast?_cons_cons] at h ih
        obtain ⟨stop, hmem, hstop⟩ := ih h
        exact ⟨stop, List.mem_cons_of_mem _ hmem, hstop⟩
      · simp only [List.takeWhile_cons, ha, hnext, decide_true, decide_false, if_true, Bool.false_eq_true,
          if_false, List.getLast?_singleton, Option.some.injEq] at h
        subst h
        exact ⟨_, List.mem_cons_self, ha, Nat.lt_of_not_le hnext⟩
    · simp [ha] at h

theorem isChain_of_stretches {bs : List Block} (h : ∀ r ∈ stretches bs, r.1.first < r.2) :
    (bs.map (·.first)).IsChain (· < ·) := by
  fun_induction stretches bs with
  | case1 => exact .nil
  | case2 b => exact .singleton _
  | case3 b next bs ih =>
    obtain ⟨hfirst, hrest⟩ := List.forall_mem_cons.mp h
    exact .cons_cons hfirst (ih hrest)

theorem eq_of_first_eq {b b' : Block} (hb : b ∈ blocks) (hb' : b' ∈ blocks) (h : b.first = b'.first) :
    b = b' := by
  have hchain : (blocks.map (·.first)).IsChain (· < ·) := isChain_of_stretches (by decide +kernel)
  exact List.inj_on_of_nodup_map (hchain.pairwise.imp Nat.ne_of_lt) hb hb' h

/-- The code points of digits as the bits of one number. -/
def digitBits : Nat := allBits ((GeneralCategory.decimalNumber.spans ++ GeneralCategory.otherNumber.spans).map Span.points)

/-- Whether a stretch of blocks holds a digit. -/
def holdsDigit (r : Block × Nat) : Bool := digitBits >>> r.1.first % 2 ^ (r.2 - r.1.first) != 0

theorem holdsDigit_of_testBit {r : Block × Nat} {n : Nat} (hn : digitBits.testBit n = true) (hfirst : r.1.first ≤ n)
    (hlast : n < r.2) : holdsDigit r = true := by
  rw [holdsDigit, bne_iff_ne]
  intro hzero
  have hbit : (digitBits >>> r.1.first % 2 ^ (r.2 - r.1.first)).testBit (n - r.1.first) = true := by
    rw [Nat.testBit_mod_two_pow, Nat.testBit_shiftRight, Nat.add_sub_cancel' hfirst, hn, Bool.and_true,
      decide_eq_true_eq]
    omega
  rw [hzero, Nat.zero_testBit] at hbit
  cases hbit

def stemBytes (stem : String) : Bytes := stem.toByteArray.data.toList

theorem stemBytes_eq (stem : String) : stemBytes stem = Bytes.ofText stem.toList := by
  have hbytes : stem.toByteArray = stem.toList.utf8Encode := by
    rw [← String.toByteArray_ofList, String.ofList_toList]
  rw [stemBytes, hbytes, List.utf8Encode, List.data_toByteArray]
  rfl

theorem isPrefixOf_stemBytes {stem : String} {x w : Text} (h : stem.toList ++ x = w) :
    (stemBytes stem).isPrefixOf (Bytes.ofText w) = true := by
  rw [List.isPrefixOf_iff_prefix, stemBytes_eq, ← h, Bytes.ofText, Bytes.ofText, List.flatMap_append]
  exact List.prefix_append _ _

/-- The blocks of names that begin in various ways and hold digits. -/
def mixedBlocks : List Block :=
  [europeanBlocks[7], punctuationBlocks[2], punctuationBlocks[21], technicalBlocks[36]]

theorem mixedBlocks_subset : mixedBlocks ⊆ blocks := by
  have hmem : ∀ {bs : List Block} {i : Nat} (hi : i < bs.length), (∀ b ∈ bs, b ∈ blocks) → bs[i] ∈ blocks :=
    fun hi hbs => hbs _ (List.getElem_mem hi)
  have hblocks : ∀ bs ∈ [europeanBlocks, punctuationBlocks, technicalBlocks], ∀ b ∈ bs, b ∈ blocks := by
    intro bs hbs b hb
    exact List.mem_flatten_of_mem (by simp only [List.mem_cons, List.not_mem_nil, or_false] at hbs ⊢; tauto) hb
  simp only [mixedBlocks, List.cons_subset, List.nil_subset, and_true]
  refine ⟨hmem _ (hblocks _ ?_), hmem _ (hblocks _ ?_), hmem _ (hblocks _ ?_), hmem _ (hblocks _ ?_)⟩ <;> simp

theorem stretches_sound : ∀ r ∈ stretches blocks, holdsDigit r = true → r.1.first ∈ mixedBlocks.map (·.first) ∨
    (stemBytes r.1.stem).isPrefixOf (Bytes.ofText Source.newLine) = false := by
  decide +kernel

theorem words_mixedBlocks : ∀ b ∈ mixedBlocks, Source.newLine ∉ Text.words b.endings.toList := by
  simp only [mixedBlocks, List.forall_mem_cons, List.not_mem_nil, false_implies, implies_true, and_true]
  -- The strings are taken apart before they are evaluated.
  refine ⟨?_, ?_, ?_, ?_⟩
  all_goals
    simp only [europeanBlocks, punctuationBlocks, technicalBlocks, List.getElem_cons_succ, List.getElem_cons_zero]
    rw [String.toList_ofList]
    decide +kernel

theorem numbered_sound : ∀ r ∈ numbered,
    (stemBytes r.stem).isPrefixOf (Bytes.ofText Source.newLine) = false := by
  decide +kernel

theorem hangulSyllable?_ne_newLine (n : Nat) : hangulSyllable? n ≠ some Source.newLine := by
  intro h
  unfold hangulSyllable? at h
  split at h
  · cases h
  obtain ⟨initial, _, h⟩ := Option.bind_eq_some_iff.mp h
  obtain ⟨medial, _, h⟩ := Option.bind_eq_some_iff.mp h
  obtain ⟨final, _, h⟩ := Option.bind_eq_some_iff.mp h
  have hname : ("hangul-syllable-" ++ initial ++ medial ++ final).toList = Source.newLine := Option.some.inj h
  rw [String.toList_append, String.toList_append, String.toList_append, List.append_assoc, List.append_assoc]
    at hname
  exact absurd (isPrefixOf_stemBytes hname) (by decide +kernel)

theorem listed?_ne_newLine {n : Nat} (hn : n < 0x110000) (hdigit : digitBits.testBit n = true) :
    listed? n ≠ some Source.newLine := by
  intro h
  unfold listed? at h
  split at h
  case h_1 name hname =>
    obtain ⟨r, hr, hname⟩ := List.exists_of_findSome?_eq_some hname
    cases h
    unfold Numbered.name? at hname
    rw [Option.ite_none_right_eq_some, Option.some.injEq] at hname
    have hstem := isPrefixOf_stemBytes hname.2
    rw [numbered_sound r hr] at hstem
    cases hstem
  split at h
  case h_1 name hname => exact hangulSyllable?_ne_newLine n (hname.trans h)
  split at h
  case h_2 => cases h
  case h_1 b hb =>
    obtain ⟨next, hmem, hfirst, hlast⟩ := exists_mem_stretches hn hb
    unfold Block.name? at h
    rw [if_neg (Nat.not_lt.mpr hfirst)] at h
    obtain ⟨x, hx, hname⟩ := Option.map_eq_some_iff.mp h
    rcases stretches_sound _ hmem (holdsDigit_of_testBit hdigit hfirst hlast) with hmixed | hstem
    · obtain ⟨b', hb', hsame⟩ := List.mem_map.mp hmixed
      obtain rfl := eq_of_first_eq (mixedBlocks_subset hb') (fst_mem_of_mem_stretches hmem) hsame
      have hempty : ∀ b ∈ mixedBlocks, b.stem = "" := by
        simp [mixedBlocks, europeanBlocks, punctuationBlocks, technicalBlocks]
      rw [hempty b' hb', String.toList_empty, List.nil_append] at hname
      exact words_mixedBlocks b' hb' (hname ▸ List.mem_of_getElem? hx)
    · rw [isPrefixOf_stemBytes hname] at hstem
      cases hstem

end Name

theorem toNat_lt (c : Char) : c.toNat < 0x110000 := by
  rcases c.valid with h | h
  · exact Nat.lt_trans h (by decide)
  · exact h.2

theorem testBit_digitBits {g : GeneralCategory} {c : Char}
    (hg : g ∈ [GeneralCategory.decimalNumber, GeneralCategory.otherNumber]) (h : g.contains c = true) :
    Name.digitBits.testBit c.toNat = true := by
  have hspan : Span.mem g.spans c.toNat = true := by
    simp only [List.mem_cons, List.not_mem_nil, or_false] at hg
    rcases hg with rfl | rfl <;> exact h
  have hpoints := Span.mem_points hspan
  rw [Name.digitBits, testBit_allBits, List.map_append, List.flatten_append, List.mem_append]
  simp only [List.mem_cons, List.not_mem_nil, or_false] at hg
  rcases hg with rfl | rfl
  · exact .inl hpoints
  · exact .inr hpoints

theorem spokenName?_ne_newLine {g : GeneralCategory} {c : Char}
    (hg : g ∈ [GeneralCategory.decimalNumber, GeneralCategory.otherNumber]) (h : g.contains c = true) :
    spokenName? c ≠ some Source.newLine := by
  intro hname
  unfold spokenName? at hname
  split at hname
  case h_2 => cases hname
  case h_1 name hlisted =>
    rw [Option.ite_none_right_eq_some] at hname
    exact Name.listed?_ne_newLine (toNat_lt c) (testBit_digitBits hg h) (hlisted.trans hname.2)

end Dictation.Unicode

namespace Dictation

open Unicode

theorem exists_contains_of_digit {k : Combiners} {c : Char} (h : k.categoryOf c = .digit) :
    ∃ g ∈ [GeneralCategory.decimalNumber, GeneralCategory.otherNumber], g.contains c = true := by
  unfold Combiners.categoryOf at h
  split at h
  · cases h
  split at h
  · cases h
  split at h
  · cases h
  split at h
  · cases h
  case isFalse hletter =>
    split at h
    case isTrue hnumeric =>
      simp only [isAlphabetic, Bool.or_eq_true, not_or] at hletter
      simp only [isNumeric, isIn, GeneralCategory.numbers, List.any_cons, List.any_nil, Bool.or_false,
        Bool.or_eq_true] at hnumeric
      simp only [List.mem_cons, List.not_mem_nil, or_false, exists_eq_or_imp, exists_eq_left]
      tauto
    case isFalse =>
      repeat' split at h
      all_goals cases h

theorem digitWord_ne_newLine {k : Combiners} {c : Char} (h : k.categoryOf c = .digit) :
    digitWord c ≠ Source.newLine := by
  unfold digitWord
  split
  case h_1 ws hdigit hws =>
    have hall : ∀ d ∈ asciiDigits, ∀ ws, numeralWords? d = some ws → ws.flatten ≠ Source.newLine := by decide
    exact hall c (mem_asciiDigits hdigit) ws hws
  case h_2 =>
    obtain ⟨g, hg, hcontains⟩ := exists_contains_of_digit h
    cases hname : spokenName? c with
    | some name =>
      rintro rfl
      exact spokenName?_ne_newLine hg hcontains hname
    | none =>
      intro hsame
      exact absurd (congrArg List.length hsame) (show 1 ≠ Source.newLine.length by decide)

end Dictation
