import Dictation.Proofs.Text.Order
import Dictation.Text.Utf8
import Mathlib.Data.List.Basic
/-!
# Texts and their bytes

The bytes of a text stand for that text, and none of them is 0xFF. So texts that are written with that
byte behind each of them are found again. Texts are ordered as their bytes are, and a text can be cut at
the byte where a part of it ends.
-/
namespace Dictation.Bytes

theorem text?_ofText (t : Text) : text? (ofText t) = some t := by
  have hbytes : (⟨(ofText t).toArray⟩ : ByteArray) = (String.ofList t).toByteArray := by
    rw [String.toByteArray_ofList]
    exact ByteArray.ext List.data_toByteArray.symm
  have hread : String.fromUTF8? (String.ofList t).toByteArray = some (String.ofList t) :=
    dif_pos (String.ofList t).isValidUTF8
  rw [text?, hbytes, hread, Option.map_some, String.toList_ofList]

theorem ne_of_mem_ofText {t : Text} {b : UInt8} (h : b ∈ ofText t) : b ≠ 0xFF := by
  obtain ⟨c, _, hb⟩ := List.mem_flatMap.mp h
  unfold String.utf8EncodeChar at hb
  dsimp only at hb
  have hne : ∀ n : Nat, n < 255 → UInt8.ofNat n ≠ 0xFF := by
    intro n hn heq
    have hnat := congrArg UInt8.toNat heq
    rw [UInt8.toNat_ofNat', Nat.mod_eq_of_lt (Nat.lt_succ_of_lt hn)] at hnat
    exact Nat.ne_of_lt hn hnat
  split at hb
  · simp only [List.mem_singleton] at hb
    exact hb ▸ hne _ (by omega)
  · split at hb
    · simp only [List.mem_cons, List.not_mem_nil, or_false] at hb
      rcases hb with rfl | rfl <;> exact hne _ (by omega)
    · split at hb
      · simp only [List.mem_cons, List.not_mem_nil, or_false] at hb
        rcases hb with rfl | rfl | rfl <;> exact hne _ (by omega)
      · simp only [List.mem_cons, List.not_mem_nil, or_false] at hb
        rcases hb with rfl | rfl | rfl | rfl <;> exact hne _ (by omega)

theorem fields_append {sep : UInt8} {bs : Bytes} (h : ∀ b ∈ bs, b ≠ sep) (rest : Bytes) :
    fields sep (bs ++ sep :: rest) = bs :: fields sep rest := by
  induction bs with
  | nil =>
    rw [List.nil_append]
    exact if_pos rfl
  | cons b bs ih =>
    rw [List.cons_append, fields, if_neg (h b List.mem_cons_self),
      ih fun b' hb' => h b' (List.mem_cons_of_mem b hb')]

theorem fields_flatMap {sep : UInt8} {bss : List Bytes} (h : ∀ bs ∈ bss, ∀ b ∈ bs, b ≠ sep) :
    fields sep (bss.flatMap (· ++ [sep])) = bss ++ [[]] := by
  induction bss with
  | nil => rfl
  | cons bs bss ih =>
    rw [List.flatMap_cons, List.append_assoc, List.singleton_append,
      fields_append (h bs List.mem_cons_self), ih fun bs' hbs' => h bs' (List.mem_cons_of_mem bs hbs')]
    rfl

theorem ofNat_lt_ofNat {m n : Nat} (hm : m < 256) (hn : n < 256) : UInt8.ofNat m < UInt8.ofNat n ↔ m < n := by
  rw [UInt8.lt_iff_toNat_lt, UInt8.toNat_ofNat', UInt8.toNat_ofNat', Nat.mod_eq_of_lt hm, Nat.mod_eq_of_lt hn]

theorem ofNat_inj {m n : Nat} (hm : m < 256) (hn : n < 256) : UInt8.ofNat m = UInt8.ofNat n ↔ m = n := by
  rw [← UInt8.toNat_inj, UInt8.toNat_ofNat', UInt8.toNat_ofNat', Nat.mod_eq_of_lt hm, Nat.mod_eq_of_lt hn]

theorem append_lt_append {xs ys : Bytes} (hlength : xs.length = ys.length) (h : xs < ys) (u v : Bytes) :
    xs ++ u < ys ++ v := by
  induction xs generalizing ys with
  | nil =>
    rw [List.eq_nil_of_length_eq_zero hlength.symm] at h
    exact absurd h (List.lt_irrefl [])
  | cons x xs ih =>
    cases ys with
    | nil => cases hlength
    | cons y ys =>
      rw [List.cons_append, List.cons_append, List.cons_lt_cons_iff]
      exact (List.cons_lt_cons_iff.mp h).imp_right
        fun ⟨hxy, hrest⟩ => ⟨hxy, ih (Nat.succ.inj hlength) hrest⟩

theorem cons_lt_cons {m n : Nat} (hm : m < 256) (hn : n < 256) (h : m < n) (u v : Bytes) :
    UInt8.ofNat m :: u < UInt8.ofNat n :: v :=
  List.cons_lt_cons_iff.mpr (.inl ((ofNat_lt_ofNat hm hn).mpr h))

theorem utf8EncodeChar_append_lt {c d : Char} (h : c.toNat < d.toNat) (u v : Bytes) :
    String.utf8EncodeChar c ++ u < String.utf8EncodeChar d ++ v := by
  have hmax : d.val.toNat < 0x110000 := by
    rcases d.valid with h | h <;> omega
  have hlt : c.val.toNat < d.val.toNat := h
  unfold String.utf8EncodeChar
  dsimp only
  generalize c.val.toNat = m at *
  generalize d.val.toNat = n at *
  -- Characters of as many bytes differ in one of them, and the first byte tells how many there are.
  have hsame : ∀ xs ys : Bytes, xs.length = ys.length → xs < ys → xs ++ u < ys ++ v :=
    fun xs ys hlength hxy => append_lt_append hlength hxy u v
  by_cases hm1 : m ≤ 0x7f
  · rw [if_pos hm1]
    split
    · refine hsame _ _ (by simp) ?_
      simp (disch := omega) only [List.cons_lt_cons_iff, ofNat_lt_ofNat, ofNat_inj]
      omega
    split
    · exact cons_lt_cons (by omega) (by omega) (by omega) _ _
    split
    · exact cons_lt_cons (by omega) (by omega) (by omega) _ _
    · exact cons_lt_cons (by omega) (by omega) (by omega) _ _
  rw [if_neg hm1, if_neg (show ¬n ≤ 0x7f by omega)]
  by_cases hm2 : m ≤ 0x7ff
  · rw [if_pos hm2]
    split
    · refine hsame _ _ (by simp) ?_
      simp (disch := omega) only [List.cons_lt_cons_iff, ofNat_lt_ofNat, ofNat_inj]
      omega
    split
    · exact cons_lt_cons (by omega) (by omega) (by omega) _ _
    · exact cons_lt_cons (by omega) (by omega) (by omega) _ _
  rw [if_neg hm2, if_neg (show ¬n ≤ 0x7ff by omega)]
  by_cases hm3 : m ≤ 0xffff
  · rw [if_pos hm3]
    split
    · refine hsame _ _ (by simp) ?_
      simp (disch := omega) only [List.cons_lt_cons_iff, ofNat_lt_ofNat, ofNat_inj]
      omega
    · exact cons_lt_cons (by omega) (by omega) (by omega) _ _
  rw [if_neg hm3, if_neg (show ¬n ≤ 0xffff by omega)]
  have hdiv : ∀ k, k / 4096 = k / 64 / 64 ∧ k / 262144 = k / 64 / 64 / 64 := by omega
  have htop : ∀ k < 0x110000, k / 64 / 64 / 64 % 8 = k / 64 / 64 / 64 := by omega
  refine hsame _ _ (by simp) ?_
  simp (disch := omega) only [List.cons_lt_cons_iff, ofNat_lt_ofNat, ofNat_inj]
  simp only [hdiv, htop m (Nat.lt_trans hlt hmax), htop n hmax]
  omega

/-- The order of texts is that of their bytes. -/
theorem ofText_lt_ofText {a b : Text} (h : a.Before b) : ofText a < ofText b := by
  obtain ⟨hle, hne⟩ := h
  induction a generalizing b with
  | nil =>
    obtain ⟨d, b, rfl⟩ := List.exists_cons_of_ne_nil hne.symm
    obtain ⟨x, u, hx⟩ := List.exists_cons_of_ne_nil (String.utf8EncodeChar_ne_nil (c := d))
    unfold ofText
    rw [List.flatMap_cons, hx]
    exact List.nil_lt_cons _ _
  | cons c a ih =>
    cases b with
    | nil => cases hle
    | cons d b =>
      rw [Text.isLexicographic_le.cons_cons] at hle
      by_cases hcd : c = d
      · subst hcd
        rw [if_pos rfl] at hle
        have hrest := ih hle fun heq => hne (heq ▸ rfl)
        exact List.append_left_lt hrest
      · rw [if_neg hcd, decide_eq_true_eq] at hle
        exact utf8EncodeChar_append_lt hle _ _

end Dictation.Bytes

namespace Dictation.Text

theorem byteSize_append (a b : Text) : (a ++ b).byteSize = a.byteSize + b.byteSize := by
  induction a with
  | nil => simp [byteSize]
  | cons c a ih => rw [List.cons_append, byteSize_cons, byteSize_cons, ih, Nat.add_assoc]

theorem splitAtByte?_append (a b : Text) : (a ++ b).splitAtByte? a.byteSize = some (a, b) := by
  induction a with
  | nil => cases b <;> rfl
  | cons c a ih =>
    obtain ⟨m, hm⟩ := Nat.exists_eq_succ_of_ne_zero (Nat.ne_of_gt c.utf8Size_pos)
    have hsize : byteSize (c :: a) = m + byteSize a + 1 := by
      rw [byteSize_cons]
      omega
    have hrest : m + byteSize a + 1 - c.utf8Size = byteSize a := by omega
    rw [hsize, List.cons_append, splitAtByte?, if_pos (by omega), hrest, ih]
    rfl

end Dictation.Text
