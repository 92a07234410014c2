import Dictation.Pattern.CharSet
import Dictation.Text.Case
import Dictation.Text.Digit
import Mathlib.Data.List.Basic
/-!
# Letters and digits of ASCII

The letters and digits as lists, so that facts about all of them can be decided.
-/
namespace Dictation

theorem mem_charRange {low n : Nat} {c : Char} (h : low ≤ c.toNat ∧ c.toNat < low + n) :
    c ∈ (List.range' low n).map Char.ofNat :=
  List.mem_map.mpr ⟨c.toNat, List.mem_range'_1.mpr h, Char.ofNat_toNat c⟩

def asciiDigits : List Char := ['0', '1', '2', '3', '4', '5', '6', '7', '8', '9']

theorem mem_asciiDigits {c : Char} (h : isAsciiDigit c = true) : c ∈ asciiDigits := by
  have hrange : asciiDigits = (List.range' 48 10).map Char.ofNat := by decide
  simp only [isAsciiDigit, Bool.and_eq_true, decide_eq_true_eq, Char.le_def,
    UInt32.le_iff_toNat_le] at h
  rw [hrange]
  exact mem_charRange ⟨h.1, Nat.lt_succ_of_le h.2⟩

def smallLetters : List Char := "abcdefghijklmnopqrstuvwxyz".toList

def capitals : List Char := "ABCDEFGHIJKLMNOPQRSTUVWXYZ".toList

def asciiLetters : List Char := smallLetters ++ capitals

/-- What names consist of: letters and low lines. -/
def nameChars : List Char := '_' :: asciiLetters

theorem asciiLetters_sound : ∀ a ∈ asciiLetters, isWordChar a = true ∧ Unicode.isBlank a = false ∧
    isAsciiDigit a = false ∧ a ≠ 'Σ' ∧ lowerChar a = [a.toLower] ∧ upperChar a = [a.toUpper] := by
  decide

theorem smallLetters_sound : ∀ a ∈ smallLetters, a ∈ asciiLetters ∧ a.toLower = a ∧
    Unicode.isUppercase a = false ∧ Unicode.isLowercase a = true := by
  decide

theorem capitals_sound : ∀ a ∈ capitals, a ∈ asciiLetters ∧ a.toLower ∈ smallLetters ∧
    a.toLower.toUpper = a ∧ Unicode.isUppercase a = true ∧ Unicode.isLowercase a = false := by
  decide

theorem toLower_mem {a : Char} (h : a ∈ asciiLetters) : a.toLower ∈ smallLetters := by
  rcases List.mem_append.mp h with h | h
  · rw [(smallLetters_sound a h).2.1]
    exact h
  · exact (capitals_sound a h).2.1

theorem toUpper_mem : ∀ a ∈ asciiLetters, a.toUpper ∈ asciiLetters ∧ a.toUpper.toLower = a.toLower := by
  decide

namespace Text

/-- Whether a text has characters of ASCII only. -/
def IsAscii (t : Text) : Prop := ∀ a ∈ t, a.toNat < 0x80

theorem asciiChars_sound {a : Char} (h : a.toNat < 0x80) : (isPlain a = true → a.toLower = a) ∧ a ≠ 'Σ' ∧
    lowerChar a = [a.toLower] ∧ a.toLower.toNat < 0x80 ∧ isAsciiDigit a.toLower = isAsciiDigit a := by
  have hall : ∀ a ∈ (List.range' 0 0x80).map Char.ofNat, (isPlain a = true → a.toLower = a) ∧ a ≠ 'Σ' ∧
      lowerChar a = [a.toLower] ∧ a.toLower.toNat < 0x80 ∧ isAsciiDigit a.toLower = isAsciiDigit a := by
    decide +kernel
  exact hall a (mem_charRange ⟨Nat.zero_le _, by simpa using h⟩)

theorem lower_ascii {t : Text} (h : t.IsAscii) : t.lower = t.map Char.toLower := by
  unfold lower
  split
  case isTrue hplain =>
    have hsame : t.map Char.toLower = t.map id :=
      List.map_congr_left fun a ha => (asciiChars_sound (h a ha)).1 (List.all_eq_true.mp hplain a ha)
    rw [hsame, List.map_id]
  case isFalse =>
    have hsigma : 'Σ' ∉ t := fun hmem => (asciiChars_sound (h _ hmem)).2.1 rfl
    have hone : t.flatMap lowerChar = t.flatMap fun a => [a.toLower] :=
      List.flatMap_congr fun a ha => (asciiChars_sound (h a ha)).2.2.1
    rw [if_neg (by simpa using hsigma), hone, List.map_eq_flatMap]

theorem lower_name {t : Text} (h : ∀ a ∈ t, a ∈ nameChars) : t.lower = t.map Char.toLower := by
  have hall : ∀ a ∈ nameChars, a.toNat < 0x80 := by decide
  exact lower_ascii fun a ha => hall a (h a ha)

theorem lower_letters {t : Text} (h : ∀ a ∈ t, a ∈ asciiLetters) : t.lower = t.map Char.toLower :=
  lower_name fun a ha => List.mem_cons_of_mem _ (h a ha)

theorem lower_small {t : Text} (h : ∀ a ∈ t, a ∈ smallLetters) : t.lower = t := by
  have hsame : t.map Char.toLower = t.map id :=
    List.map_congr_left fun a ha => (smallLetters_sound a (h a ha)).2.1
  rw [lower_letters fun a ha => (smallLetters_sound a (h a ha)).1, hsame, List.map_id]

theorem upper_letters {t : Text} (h : ∀ a ∈ t, a ∈ asciiLetters) : t.upper = t.map Char.toUpper := by
  have hone : t.flatMap upperChar = t.flatMap fun a => [a.toUpper] :=
    List.flatMap_congr fun a ha => (asciiLetters_sound a (h a ha)).2.2.2.2.2
  rw [upper, hone, List.map_eq_flatMap]

theorem title_letters {a : Char} {t : Text} (h : ∀ b ∈ a :: t, b ∈ asciiLetters) :
    title (a :: t) = a.toUpper :: t.map Char.toLower := by
  have ha := (asciiLetters_sound a (h a List.mem_cons_self)).2.2.2.2.2
  have hone : t.flatMap lowerChar = t.flatMap fun a => [a.toLower] :=
    List.flatMap_congr fun b hb => (asciiLetters_sound b (h b (List.mem_cons_of_mem a hb))).2.2.2.2.1
  rw [title, ha, hone, List.map_eq_flatMap]
  rfl

theorem title_mem {x : Text} (hx : ∀ a ∈ x, a ∈ asciiLetters) :
    (∀ a ∈ x.title, a ∈ asciiLetters) ∧ x.title.map Char.toLower = x.map Char.toLower := by
  cases x with
  | nil => exact ⟨nofun, rfl⟩
  | cons a x =>
    have hmore : ∀ b ∈ x, b.toLower ∈ smallLetters := fun b hb => toLower_mem (hx b (List.mem_cons_of_mem a hb))
    obtain ⟨hupper, hsame⟩ := toUpper_mem a (hx a List.mem_cons_self)
    rw [title_letters hx]
    constructor
    · intro b hb
      rcases List.mem_cons.mp hb with rfl | hb
      · exact hupper
      · obtain ⟨d, hd, rfl⟩ := List.mem_map.mp hb
        exact (smallLetters_sound _ (hmore d hd)).1
    · rw [List.map_cons, List.map_cons, hsame, List.map_map]
      exact congrArg _ (List.map_congr_left fun b hb => (smallLetters_sound _ (hmore b hb)).2.1)

theorem upper_mem {x : Text} (hx : ∀ a ∈ x, a ∈ asciiLetters) :
    (∀ a ∈ x.upper, a ∈ asciiLetters) ∧ x.upper.map Char.toLower = x.map Char.toLower := by
  rw [upper_letters hx]
  constructor
  · intro a ha
    obtain ⟨b, hb, rfl⟩ := List.mem_map.mp ha
    exact (toUpper_mem b (hx b hb)).1
  · rw [List.map_map]
    exact List.map_congr_left fun a ha => (toUpper_mem a (hx a ha)).2

theorem lower_eq_self_iff {t : Text} (h : ∀ a ∈ t, a ∈ asciiLetters) :
    t.lower = t ↔ ∀ a ∈ t, a ∈ smallLetters := by
  refine ⟨fun hsame a ha => ?_, lower_small⟩
  rw [lower_letters h] at hsame
  rw [← hsame] at ha
  obtain ⟨b, hb, rfl⟩ := List.mem_map.mp ha
  exact toLower_mem (h b hb)

end Text

end Dictation
