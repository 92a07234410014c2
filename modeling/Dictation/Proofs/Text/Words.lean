import Dictation.Proofs.Rewrite.Keyword
import Dictation.Proofs.Text.Fields
import Mathlib.Data.List.TakeWhile
/-!
# Words of a text, and trimming

Words with blanks between them are the words of the text that they make up. What is left of a text
without the characters of a kind at both of its ends is told by the text and not by how the ends are
taken off.
-/
namespace Dictation.Text

theorem isSolid_tail {c d : Char} {x : Text} (h : isSolid (c :: d :: x) = true) :
    isSolid (d :: x) = true := by
  simp only [isSolid, List.all_cons, Bool.and_eq_true] at h ⊢
  exact ⟨rfl, h.2.2⟩

theorem words_cons {c : Char} (hc : Unicode.isBlank c = false) (t : Text) :
    words (c :: t) = match t, words t with
      | d :: _, w :: ws => if Unicode.isBlank d then [c] :: w :: ws else (c :: w) :: ws
      | _, _ => [[c]] := by
  conv => lhs; unfold words
  rw [if_neg (by simp [hc])]
  rfl

theorem words_blank {b : Char} (hb : Unicode.isBlank b = true) (t : Text) :
    words (b :: t) = words t := by
  conv => lhs; unfold words
  rw [if_pos hb]

theorem words_solid {x : Text} (hx : isSolid x = true) : words x = [x] := by
  induction x with
  | nil => cases hx
  | cons c x ih =>
    rw [words_cons (isBlank_of_isSolid hx List.mem_cons_self)]
    cases x with
    | nil => rfl
    | cons d x =>
      have hd := isBlank_of_isSolid hx (List.mem_cons_of_mem c List.mem_cons_self)
      rw [ih (isSolid_tail hx)]
      simp [hd]

theorem words_append {x : Text} (hx : isSolid x = true) {b : Char} (hb : Unicode.isBlank b = true)
    (t : Text) : words (x ++ b :: t) = x :: words t := by
  induction x with
  | nil => cases hx
  | cons c x ih =>
    rw [List.cons_append, words_cons (isBlank_of_isSolid hx List.mem_cons_self)]
    cases x with
    | nil =>
      rw [List.nil_append, words_blank hb]
      cases words t with
      | nil => rfl
      | cons w ws => simp [hb]
    | cons d x =>
      have hd := isBlank_of_isSolid hx (List.mem_cons_of_mem c List.mem_cons_self)
      rw [ih (isSolid_tail hx)]
      simp [hd]

theorem words_join {xs : List Text} (hxs : ∀ x ∈ xs, isSolid x = true) :
    words (join [' '] xs) = xs := by
  induction xs with
  | nil => rfl
  | cons x xs ih =>
    have hx := hxs x List.mem_cons_self
    have hmore := ih fun y hy => hxs y (List.mem_cons_of_mem x hy)
    cases xs with
    | nil => exact words_solid hx
    | cons y xs =>
      rw [join_cons (List.cons_ne_nil y xs), List.append_assoc, List.singleton_append,
        words_append hx (by decide), hmore]

theorem join_eq_flatMap (x : Text) (xs : List Text) :
    join [' '] (x :: xs) = x ++ xs.flatMap (' ' :: ·) := by
  induction xs generalizing x with
  | nil => exact (List.append_nil x).symm
  | cons y xs ih =>
    rw [join_cons (List.cons_ne_nil y xs), ih, List.flatMap_cons, List.append_assoc]
    rfl

theorem mem_join {c : Char} {xs : List Text} {a : Char} (h : a ∈ join [c] xs) : a = c ∨ ∃ x ∈ xs, a ∈ x := by
  induction xs with
  | nil => cases h
  | cons x xs ih =>
    cases xs with
    | nil => exact .inr ⟨x, List.mem_cons_self, h⟩
    | cons y xs =>
      rw [join_cons (List.cons_ne_nil y xs)] at h
      rcases List.mem_append.mp h with h | h
      · rcases List.mem_append.mp h with h | h
        · exact .inr ⟨x, List.mem_cons_self, h⟩
        · exact .inl (List.mem_singleton.mp h)
      · exact (ih h).imp_right fun ⟨z, hz, ha⟩ => ⟨z, List.mem_cons_of_mem x hz, ha⟩

theorem mem_join_of_mem {sep : Text} {xs : List Text} {x : Text} {a : Char} (hx : x ∈ xs) (ha : a ∈ x) :
    a ∈ join sep xs := by
  induction xs with
  | nil => cases hx
  | cons y xs ih =>
    cases xs with
    | nil =>
      rw [List.mem_singleton.mp hx] at ha
      exact ha
    | cons z xs =>
      rw [join_cons (List.cons_ne_nil z xs)]
      rcases List.mem_cons.mp hx with rfl | hx
      · exact List.mem_append_left _ (List.mem_append_left _ ha)
      · exact List.mem_append_right _ (ih hx)

theorem join_map_join {sep : Text} {tss : List (List Text)} (h : ∀ ts ∈ tss, ts ≠ []) :
    join sep (tss.map (join sep)) = join sep tss.flatten := by
  induction tss with
  | nil => rfl
  | cons ts tss ih =>
    have hmore := ih fun us hus => h us (List.mem_cons_of_mem ts hus)
    cases tss with
    | nil => simp [join]
    | cons us tss =>
      have hne : (us :: tss).flatten ≠ [] := by
        simp [h us (List.mem_cons_of_mem ts List.mem_cons_self)]
      rw [List.map_cons, join_cons (by simp), hmore,
        show (ts :: us :: tss).flatten = ts ++ (us :: tss).flatten from rfl,
        join_append (h ts List.mem_cons_self) hne]

theorem getLast?_join {xs : List Text} (hxs : ∀ x ∈ xs, isSolid x = true) :
    ∀ a ∈ (join [' '] xs).getLast?, Unicode.isBlank a = false := by
  induction xs with
  | nil => exact fun a ha => by cases ha
  | cons x xs ih =>
    have hx := hxs x List.mem_cons_self
    have hmore := ih fun y hy => hxs y (List.mem_cons_of_mem x hy)
    cases xs with
    | nil => exact fun a ha => isBlank_of_isSolid hx (List.mem_of_getLast? ha)
    | cons y xs =>
      obtain ⟨c, t, ht⟩ : ∃ c t, join [' '] (y :: xs) = c :: t := by
        refine List.exists_cons_of_ne_nil ?_
        rw [join_eq_flatMap]
        exact List.append_ne_nil_of_left_ne_nil
          (ne_nil_of_isSolid (hxs y (List.mem_cons_of_mem x List.mem_cons_self))) _
      rw [ht] at hmore
      rw [join_cons (List.cons_ne_nil y xs), ht, List.getLast?_append,
        List.getLast?_eq_some_getLast (List.cons_ne_nil c t), Option.some_or]
      rwa [List.getLast?_eq_some_getLast (List.cons_ne_nil c t)] at hmore

/-- A text with something other than white space at both ends. -/
structure IsTrimmed (t : Text) : Prop where
  ne_nil : t ≠ []
  head : ∀ a ∈ t.head?, Unicode.isBlank a = false
  last : ∀ a ∈ t.getLast?, Unicode.isBlank a = false

theorem dropWhile_of_head {p : Char → Bool} {t : Text} (h : ∀ a ∈ t.head?, p a = false) :
    t.dropWhile p = t := by
  cases t with
  | nil => rfl
  | cons c t => rw [List.dropWhile_cons_of_neg (by simp [h c rfl])]

theorem IsTrimmed.trim {t : Text} (h : t.IsTrimmed) : t.trim = t := by
  rw [Text.trim, trimStart, dropWhile_of_head h.head, trimEnd,
    dropWhile_of_head (by simpa using h.last), List.reverse_reverse]

theorem IsTrimmed.trimOf {t : Text} (h : t.IsTrimmed) {c : Char} (hc : Unicode.isBlank c = true) :
    t.trimOf c = t := by
  have hne : ∀ a, Unicode.isBlank a = false → (a == c) = false := by
    intro a ha
    refine beq_eq_false_iff_ne.mpr ?_
    rintro rfl
    rw [hc] at ha
    cases ha
  rw [Text.trimOf, dropWhile_of_head fun a ha => hne a (h.head a ha),
    dropWhile_of_head fun a ha => hne a (h.last a (by simpa using ha)), List.reverse_reverse]

theorem head_dropWhile {p : Char → Bool} {t : Text} : ∀ a ∈ (t.dropWhile p).head?, p a = false := by
  intro a ha
  have hnot := List.head?_dropWhile_not p t
  rw [Option.mem_def.mp ha] at hnot
  exact hnot

theorem isTrimmed_trim {t : Text} (h : t.trim ≠ []) : t.trim.IsTrimmed where
  ne_nil := h
  head := by
    intro a ha
    have hprefix : t.trim <+: t.trimStart := by
      have hsuffix : t.trimStart.reverse.dropWhile Unicode.isBlank <:+ t.trimStart.reverse :=
        List.dropWhile_suffix _
      have hreverse := List.reverse_prefix.mpr hsuffix
      rwa [List.reverse_reverse] at hreverse
    obtain ⟨rest, hrest⟩ := hprefix
    refine head_dropWhile (t := t) a ?_
    change a ∈ t.trimStart.head?
    rw [← hrest, List.head?_append, Option.mem_def.mp ha]
    rfl
  last := by
    intro a ha
    refine head_dropWhile (t := t.trimStart.reverse) a ?_
    rwa [Text.trim, trimEnd, List.getLast?_reverse] at ha

theorem trim_trim (t : Text) : t.trim.trim = t.trim := by
  by_cases h : t.trim = []
  · rw [h]
    rfl
  · exact (isTrimmed_trim h).trim

theorem isTrimmed_of_isSolid {t : Text} (h : isSolid t = true) : t.IsTrimmed where
  ne_nil := ne_nil_of_isSolid h
  head _ ha := isBlank_of_isSolid h (List.mem_of_head? ha)
  last _ ha := isBlank_of_isSolid h (List.mem_of_getLast? ha)

theorem isTrimmed_join {xs : List Text} (hne : xs ≠ []) (hxs : ∀ x ∈ xs, isSolid x = true) :
    (join [' '] xs).IsTrimmed := by
  obtain ⟨x, xs, rfl⟩ := List.exists_cons_of_ne_nil hne
  have hx := hxs x List.mem_cons_self
  have hnil := ne_nil_of_isSolid hx
  refine ⟨?_, ?_, getLast?_join hxs⟩
  · rw [join_eq_flatMap]
    exact List.append_ne_nil_of_left_ne_nil hnil _
  · rw [join_eq_flatMap, List.head?_append, List.head?_eq_some_head hnil, Option.some_or]
    exact fun a ha => by cases ha; exact isBlank_of_isSolid hx (List.head_mem hnil)

/-- Whether `u` is what is left of `t` without the characters of a kind at both of its ends. -/
def Strips (p : Char → Bool) (t u : Text) : Prop :=
  ∃ front back, t = front ++ u ++ back ∧ (∀ c ∈ front, p c = true) ∧ (∀ c ∈ back, p c = true) ∧
    (∀ c ∈ u.head?, p c = false) ∧ ∀ c ∈ u.getLast?, p c = false

theorem strips_dropWhile (p : Char → Bool) (t : Text) :
    Strips p t ((t.dropWhile p).reverse.dropWhile p).reverse := by
  let inner := t.dropWhile p
  have hend : (inner.reverse.dropWhile p).reverse ++ (inner.reverse.takeWhile p).reverse = inner := by
    rw [← List.reverse_append, List.takeWhile_append_dropWhile, List.reverse_reverse]
  refine ⟨t.takeWhile p, (inner.reverse.takeWhile p).reverse, ?_, ?_, ?_, ?_, ?_⟩
  · rw [List.append_assoc, hend, List.takeWhile_append_dropWhile]
  · intro c hc
    exact List.mem_takeWhile_imp hc
  · intro c hc
    exact List.mem_takeWhile_imp (List.mem_reverse.mp hc)
  · intro c hc
    apply head_dropWhile (t := t)
    change c ∈ inner.head?
    rw [← hend, List.head?_append, Option.mem_def.mp hc, Option.some_or]
    rfl
  · intro c hc
    rw [List.getLast?_reverse] at hc
    exact head_dropWhile c hc

theorem Strips.eq_dropWhile {p : Char → Bool} {t u : Text} (h : Strips p t u) :
    u = ((t.dropWhile p).reverse.dropWhile p).reverse := by
  obtain ⟨front, back, rfl, hfront, hback, hhead, hlast⟩ := h
  rw [List.append_assoc, List.dropWhile_append_of_pos hfront]
  cases u with
  | nil =>
    rw [List.nil_append, List.dropWhile_eq_nil_iff.mpr hback]
    rfl
  | cons c u =>
    have hstart : (c :: u ++ back).dropWhile p = c :: u ++ back := dropWhile_of_head hhead
    have hend : (c :: u).reverse.dropWhile p = (c :: u).reverse := by
      apply dropWhile_of_head
      rwa [List.head?_reverse]
    rw [hstart, List.reverse_append, List.dropWhile_append_of_pos (by simpa using hback), hend,
      List.reverse_reverse]

theorem strips_trim_iff {t u : Text} : Strips Unicode.isBlank t u ↔ u = t.trim := by
  refine ⟨Strips.eq_dropWhile, ?_⟩
  rintro rfl
  exact strips_dropWhile _ t

theorem strips_trimOf_iff {c : Char} {t u : Text} : Strips (· == c) t u ↔ u = t.trimOf c := by
  refine ⟨Strips.eq_dropWhile, ?_⟩
  rintro rfl
  exact strips_dropWhile _ t

theorem trim_append_blank (t : Text) {back : Text} (h : ∀ c ∈ back, Unicode.isBlank c = true) :
    (t ++ back).trim = t.trim := by
  obtain ⟨front, last, ht, hfront, hlast, hends⟩ := strips_trim_iff.mpr (rfl : t.trim = t.trim)
  symm
  rw [← strips_trim_iff]
  refine ⟨front, last ++ back, ?_, hfront, ?_, hends⟩
  · conv => lhs; rw [ht]
    simp
  · intro c hc
    exact (List.mem_append.mp hc).elim (hlast c) (h c)

theorem trimEnd_append (t : Text) : t.trimEnd ++ (t.reverse.takeWhile Unicode.isBlank).reverse = t := by
  rw [trimEnd, ← List.reverse_append, List.takeWhile_append_dropWhile, List.reverse_reverse]

theorem trimEnd_of_getLast? {t : Text} (h : ∀ c ∈ t.getLast?, Unicode.isBlank c = false) : t.trimEnd = t := by
  rw [trimEnd, dropWhile_of_head (by rwa [List.head?_reverse]), List.reverse_reverse]

theorem trim_append {x : Text} (hx : isSolid x = true) (y : Text) : (x ++ y).trim = x ++ y.trimEnd := by
  obtain ⟨hne, hhead, hlast⟩ := isTrimmed_of_isSolid hx
  symm
  rw [← strips_trim_iff]
  refine ⟨[], (y.reverse.takeWhile Unicode.isBlank).reverse, ?_, by simp, ?_, ?_, ?_⟩
  · rw [List.nil_append, List.append_assoc, trimEnd_append]
  · intro c hc
    exact List.mem_takeWhile_imp (List.mem_reverse.mp hc)
  · rw [List.head?_append, List.head?_eq_some_head hne, Option.some_or]
    simpa [List.head?_eq_some_head hne] using hhead
  · intro c hc
    rw [List.getLast?_append] at hc
    cases hend : y.trimEnd.getLast? with
    | none =>
      rw [hend, Option.none_or] at hc
      exact hlast c hc
    | some d =>
      rw [hend, Option.some_or] at hc
      cases hc
      rw [trimEnd, List.getLast?_reverse] at hend
      exact head_dropWhile c hend

theorem trim_dropReturn (t : Text) : t.dropReturn.trim = t.trim := by
  unfold dropReturn
  split
  case isTrue hreturn =>
    obtain ⟨front, rfl⟩ := List.getLast?_eq_some_iff.mp hreturn
    rw [List.dropLast_concat, trim_append_blank front (by decide)]
  case isFalse => rfl

end Dictation.Text
