import Dictation.Proofs.Source.StringEnds
import Mathlib.Order.Bounds.Basic
/-!
# How far string bodies go

The body of a string literal is found in one scan, which carries whether the next character is escaped. It
goes through the first delimiter that is not escaped, and without one it is all of the text. In a
single-character delimiter it ends in front of the first newline that is not escaped, if that comes earlier.
These facts tell the number of its bytes.
-/
namespace Dictation.Source

open Text

variable {d p t x : Text} {i j n m : Nat}

/-- Whether the character behind a text is escaped: the text ends with a backslash that is not escaped. -/
def Escaped (x : Text) : Prop := x.foldl (fun escaped c => !escaped && c = '\\') false = true

instance (x : Text) : Decidable (Escaped x) := inferInstanceAs (Decidable (_ = true))

theorem passed_iff_not_escaped : ∀ x : Text, Passed x ↔ ¬ Escaped x
  | [] => iff_of_true .nil (by decide)
  | c :: x => by
    by_cases hc : c = '\\'
    · subst hc
      cases x with
      | nil => exact iff_of_false (by decide) (by decide)
      | cons b x => exact (Iff.intro Passed.of_escape (.escape b)).trans (passed_iff_not_escaped x)
    · have hskip : Escaped (c :: x) ↔ Escaped x := by simp [Escaped, hc]
      rw [hskip]
      exact (Iff.intro (Passed.of_plain hc) (.plain hc)).trans (passed_iff_not_escaped x)

/-- Whether `p` stands at the byte `i` of a text and is not escaped there. -/
def StandsAt (p t : Text) (i : Nat) : Prop :=
  ∃ x rest, t = x ++ (p ++ rest) ∧ x.byteSize = i ∧ ¬ Escaped x

theorem StandsAt.cut (h : StandsAt p t i) : ∃ x rest, t.splitAtByte? i = some (x, p ++ rest) := by
  obtain ⟨x, rest, rfl, rfl, _⟩ := h
  exact ⟨x, rest, splitAtByte?_append x (p ++ rest)⟩

theorem StandsAt.lt (h : StandsAt p t i) (hp : p ≠ []) : i < t.byteSize := by
  obtain ⟨x, rest, hcut⟩ := h.cut
  obtain ⟨c, p, rfl⟩ := List.exists_cons_of_ne_nil hp
  exact lt_byteSize_of_splitAtByte? hcut

theorem StandsAt.ne (hi : StandsAt d t i) (hd : d ∈ delimiters) (hj : StandsAt ['\n'] t j) : i ≠ j := by
  rintro rfl
  obtain ⟨x, rest, hcut⟩ := hi.cut
  obtain ⟨y, rest', hcut'⟩ := hj.cut
  obtain ⟨_, hrest⟩ := Prod.mk.inj (Option.some.inj (hcut.symm.trans hcut'))
  exact not_prefix_cons hd (.inr rfl) rest' ⟨rest, hrest⟩

theorem stops_newline (hd : d.length = 1) (u : Text) : Stops d (['\n'] ++ u) := by
  refine .inr ⟨?_, rfl⟩
  omega

/-- A body goes on up to the first place where it may not. -/
theorem GoesOn.le_of_standsAt {rest : Text} (h : GoesOn d x rest) (ht : t = x ++ rest)
    (hp : ∀ u, Stops d (p ++ u)) (hi : StandsAt p t i) : x.byteSize ≤ i := by
  obtain ⟨y, u, hy, rfl, hpassed⟩ := hi
  obtain ⟨z, rfl⟩ := h.begins_of_stops (ht.symm.trans hy) ((passed_iff_not_escaped y).mpr hpassed) (hp u)
  rw [byteSize_append]
  exact Nat.le_add_right _ _

/-- How many bytes the body of a literal in `d` takes of a text that begins with it. -/
inductive Extent (d t : Text) : Nat → Prop where
  /-- Those through the first delimiter, in front of the first newline if `d` is short. -/
  | closed {i : Nat} (hi : IsLeast {i | StandsAt d t i} i)
      (hline : d.length = 1 → ∀ j, StandsAt ['\n'] t j → i < j) : Extent d t (i + d.byteSize)
  /-- Those up to the first newline, in front of the first delimiter. -/
  | line {j : Nat} (hd : d.length = 1) (hj : IsLeast {j | StandsAt ['\n'] t j} j)
      (hopen : ∀ i, StandsAt d t i → j < i) : Extent d t j
  /-- All of them. -/
  | source (hopen : ∀ i, ¬ StandsAt d t i) (hline : d.length = 1 → ∀ j, ¬ StandsAt ['\n'] t j) :
      Extent d t t.byteSize

theorem Extent.unique (hn : Extent d t n) (hm : Extent d t m) : n = m := by
  cases hn with
  | closed hi hline =>
    cases hm with
    | closed hi' _ => rw [hi.unique hi']
    | line hd hj hopen => exact absurd (hline hd _ hj.1) (Nat.lt_asymm (hopen _ hi.1))
    | source hopen _ => exact absurd hi.1 (hopen _)
  | line hd hj hopen =>
    cases hm with
    | closed hi hline => exact absurd (hline hd _ hj.1) (Nat.lt_asymm (hopen _ hi.1))
    | line _ hj' _ => exact hj.unique hj'
    | source _ hline => exact absurd hj.1 (hline hd _)
  | source hopen hline =>
    cases hm with
    | closed hi _ => exact absurd hi.1 (hopen _)
    | line hd hj _ => exact absurd hj.1 (hline hd _)
    | source _ _ => rfl

theorem extent_bodySize (hd : d ∈ delimiters) (t : Text) : Extent d t (bodySize d t) := by
  obtain ⟨hne, hlengths, _⟩ := delimiters_sound d hd
  have hend := bodyEnd_bodyLength hd t
  rw [bodySize_eq hd]
  generalize bodyLength d t = n at hend
  cases hend with
  | @closed x rest hx h =>
    have hi : StandsAt d (x ++ (d ++ rest)) x.byteSize :=
      ⟨x, rest, rfl, rfl, (passed_iff_not_escaped x).mp hx⟩
    have htake : (x ++ (d ++ rest)).take (x.length + d.length) = x ++ d := by
      rw [← List.append_assoc, ← List.length_append, List.take_left]
    rw [htake, byteSize_append]
    apply Extent.closed
    · exact ⟨hi, fun i => h.le_of_standsAt rfl (stops_delimiter d)⟩
    · intro hshort j hj
      have hle := h.le_of_standsAt rfl (stops_newline hshort) hj
      exact Nat.lt_of_le_of_ne hle (hi.ne hd hj)
  | @line x rest hlong hx h =>
    have hshort : d.length = 1 := hlengths.resolve_right hlong
    have hj : StandsAt ['\n'] (x ++ '\n' :: rest) x.byteSize :=
      ⟨x, rest, rfl, rfl, (passed_iff_not_escaped x).mp hx⟩
    rw [List.take_left]
    apply Extent.line hshort
    · exact ⟨hj, fun j => h.le_of_standsAt rfl (stops_newline hshort)⟩
    · intro i hi
      have hle := h.le_of_standsAt rfl (stops_delimiter d) hi
      exact Nat.lt_of_le_of_ne hle (hi.ne hd hj).symm
  | source h =>
    -- Where nothing may stop the body, it would have to be behind the text.
    have ht : t = t ++ [] := (List.append_nil t).symm
    rw [List.take_length]
    apply Extent.source
    · intro i hi
      exact Nat.not_lt.mpr (h.le_of_standsAt ht (stops_delimiter d) hi) (hi.lt hne)
    · intro hshort j hj
      exact Nat.not_lt.mpr (h.le_of_standsAt ht (stops_newline hshort) hj) (hj.lt (by simp))

/-- The scan of a body gives the number of bytes that the body takes and no other, and the text is cut there
between two characters. -/
theorem bodySize_extent {d : Text} (hd : d ∈ delimiters) (t : Text) :
    (∀ n, bodySize d t = n ↔ Extent d t n) ∧
      ∃ body rest, t = body ++ rest ∧ t.splitAtByte? (bodySize d t) = some (body, rest) := by
  have hsize := extent_bodySize hd t
  constructor
  · intro n
    constructor
    · rintro rfl
      exact hsize
    · exact hsize.unique
  · exact ⟨_, _, (List.take_append_drop _ t).symm, splitAtByte?_bodySize hd t⟩

/-- An escaped quote in front of a long delimiter does not begin it. -/
theorem bodySize_extent_overlap :
    "\"\"\"".toList ∈ delimiters ∧ Extent "\"\"\"".toList "é\\\"\"\"\"\n".toList 7 ∧
      ∃ body rest, "é\\\"\"\"\"\n".toList = body ++ rest ∧
        Text.splitAtByte? 7 "é\\\"\"\"\"\n".toList = some (body, rest) := by
  have hd : "\"\"\"".toList ∈ delimiters := by decide
  have hseven : bodySize "\"\"\"".toList "é\\\"\"\"\"\n".toList = 7 := by decide
  obtain ⟨hextent, hcut⟩ := bodySize_extent hd "é\\\"\"\"\"\n".toList
  rw [hseven] at hcut
  exact ⟨hd, (hextent 7).mp hseven, hcut⟩

end Dictation.Source
