import Dictation.Text.Basic
/-!
# Blocks of character names

Names are kept in the form in which they are spoken: lower case, with hyphens for spaces. A block
holds the names of consecutive code points that start alike.
-/
namespace Dictation.Unicode.Name

/-- The names of the code points from `first` on: `stem`, then one of the `endings`, which white
space separates. -/
structure Block where
  first : Nat
  stem : String
  endings : String

def isNameChar (c : Char) : Bool :=
  ('a' ≤ c && c ≤ 'z') || ('0' ≤ c && c ≤ '9') || c == '-'

/-- The name that a block gives to a code point. -/
def Block.name? (b : Block) (n : Nat) : Option Text :=
  if n < b.first then none
  else ((Text.words b.endings.toList)[n - b.first]?).map (b.stem.toList ++ ·)

/-- Blocks of code points whose names are a stem and the code point in hexadecimal. -/
structure Numbered where
  first : Nat
  last : Nat
  stem : String

def hexDigit (n : Nat) : Char :=
  Char.ofNat (if n < 10 then 0x30 + n else 0x61 + (n - 10))

/-- The hexadecimal digits of a number below `16 ^ count`, the first one first. -/
def hexDigits : Nat → Nat → Text
  | 0, _ => []
  | count + 1, n => hexDigits count (n / 16) ++ [hexDigit (n % 16)]

/-- A code point in hexadecimal, with at least four digits. -/
def hexCode (n : Nat) : Text :=
  if n < 0x10000 then hexDigits 4 n else if n < 0x100000 then hexDigits 5 n else hexDigits 6 n

def Numbered.name? (r : Numbered) (n : Nat) : Option Text :=
  if r.first ≤ n && n ≤ r.last then some (r.stem.toList ++ hexCode n) else none

def numbered : List Numbered := [
  ⟨0x3400, 0x4DBF, "cjk-unified-ideograph-"⟩, ⟨0x4E00, 0x9FFF, "cjk-unified-ideograph-"⟩,
  ⟨0xF900, 0xFA6D, "cjk-compatibility-ideograph-"⟩,
  ⟨0xFA70, 0xFAD9, "cjk-compatibility-ideograph-"⟩,
  ⟨0x13460, 0x143FA, "egyptian-hieroglyph-"⟩,
  ⟨0x18B00, 0x18CD5, "khitan-small-script-character-"⟩,
  ⟨0x18CFF, 0x18CFF, "khitan-small-script-character-"⟩,
  ⟨0x1B170, 0x1B2FB, "nushu-character-"⟩,
  ⟨0x20000, 0x2A6DF, "cjk-unified-ideograph-"⟩, ⟨0x2A700, 0x2B739, "cjk-unified-ideograph-"⟩,
  ⟨0x2B740, 0x2B81D, "cjk-unified-ideograph-"⟩, ⟨0x2B820, 0x2CEA1, "cjk-unified-ideograph-"⟩,
  ⟨0x2CEB0, 0x2EBE0, "cjk-unified-ideograph-"⟩, ⟨0x2EBF0, 0x2EE5D, "cjk-unified-ideograph-"⟩,
  ⟨0x2F800, 0x2FA1D, "cjk-compatibility-ideograph-"⟩,
  ⟨0x30000, 0x3134A, "cjk-unified-ideograph-"⟩, ⟨0x31350, 0x323AF, "cjk-unified-ideograph-"⟩]

/-- Names of the initial, medial and final sounds of a Hangul syllable. -/
def hangulInitials : List String :=
  ["g", "gg", "n", "d", "dd", "r", "m", "b", "bb", "s", "ss", "", "j", "jj", "c", "k", "t", "p", "h"]

def hangulMedials : List String :=
  ["a", "ae", "ya", "yae", "eo", "e", "yeo", "ye", "o", "wa", "wae", "oe", "yo", "u", "weo", "we",
    "wi", "yu", "eu", "yi", "i"]

def hangulFinals : List String :=
  ["", "g", "gg", "gs", "n", "nj", "nh", "d", "l", "lg", "lm", "lb", "ls", "lt", "lp", "lh", "m",
    "b", "bs", "s", "ss", "ng", "j", "c", "k", "t", "p", "h"]

/-- A Hangul syllable is named by its sounds; 588 syllables share an initial, 28 of them a medial. -/
def hangulSyllable? (n : Nat) : Option Text :=
  if n < 0xAC00 || 0xD7A3 < n then none
  else do
    let i := n - 0xAC00
    let initial ← hangulInitials[i / 588]?
    let medial ← hangulMedials[i % 588 / 28]?
    let final ← hangulFinals[i % 28]?
    return ("hangul-syllable-" ++ initial ++ medial ++ final).toList

end Dictation.Unicode.Name
