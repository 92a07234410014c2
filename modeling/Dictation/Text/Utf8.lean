import Dictation.Text.Basic
/-!
# Bytes of texts

Texts as bytes in UTF-8. Only some byte sequences are texts.
-/
namespace Dictation

namespace Text

/-- The parts of a text before and from a byte. There are none if the byte is inside a character or
behind the end. -/
def splitAtByte? : Nat → Text → Option (Text × Text)
  | 0, t => some ([], t)
  | _ + 1, [] => none
  | n + 1, c :: rest =>
    if c.utf8Size ≤ n + 1 then
      (splitAtByte? (n + 1 - c.utf8Size) rest).map fun (before, after) => (c :: before, after)
    else none

theorem byteSize_cons (c : Char) (t : Text) : byteSize (c :: t) = c.utf8Size + byteSize t := by
  have hfrom (n : Nat) : t.foldl (fun n c => n + c.utf8Size) n = n + byteSize t := by
    unfold byteSize
    induction t generalizing n with
    | nil => rfl
    | cons d t ih => rw [List.foldl_cons, List.foldl_cons, ih, ih (0 + _), Nat.zero_add, Nat.add_assoc]
  rw [byteSize, List.foldl_cons, hfrom, Nat.zero_add]

theorem lt_byteSize_of_splitAtByte? {n : Nat} {t before rest : Text} {c : Char}
    (h : t.splitAtByte? n = some (before, c :: rest)) : n < t.byteSize := by
  fun_induction splitAtByte? n t generalizing before with
  | case1 t =>
    cases h
    rw [byteSize_cons]
    have hc := c.utf8Size_pos
    omega
  | case2 => cases h
  | case3 n d t hd ih =>
    obtain ⟨⟨start, _⟩, hmore, hparts⟩ := Option.map_eq_some_iff.mp h
    cases hparts
    have hlater := ih hmore
    rw [byteSize_cons]
    omega
  | case4 => cases h

end Text

abbrev Bytes := List UInt8

namespace Bytes

def ofText (t : Text) : Bytes := t.flatMap String.utf8EncodeChar

def text? (bs : Bytes) : Option Text := (String.fromUTF8? ⟨bs.toArray⟩).map String.toList

/-- The parts between occurrences of `sep`; always at least one. -/
def fields (sep : UInt8) : Bytes → List Bytes
  | [] => [[]]
  | b :: rest =>
    if b = sep then [] :: fields sep rest
    else match fields sep rest with
      | [] => [[b]]
      | f :: fs => (b :: f) :: fs

def newline : UInt8 := 10

def carriageReturn : UInt8 := 13

/-- The lines of some bytes, without their ends. A carriage return belongs to the end of a line only
in front of a newline. -/
def lines (bs : Bytes) : List Bytes :=
  let parts := bs.fields newline
  let ended := parts.dropLast.map fun part =>
    if part.getLast? = some carriageReturn then part.dropLast else part
  ended ++ match parts.getLast? with
    | some [] | none => []
    | some last => [last]

end Bytes

end Dictation
