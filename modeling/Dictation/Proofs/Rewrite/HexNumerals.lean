import Dictation.Numeral
import Dictation.Proofs.Rewrite.NumeralRules
import Dictation.Proofs.Text.Words
import Dictation.Source.Numeral
/-!
# Hexadecimal numbers

Behind `0 x`, digits and letters up to the end of the text are read as one number. The word `cap`
makes a capital of the letter behind it.
-/
namespace Dictation

open Node Text

def hexLetters : List Char := ['a', 'b', 'c', 'd', 'e', 'f']

/-- What the rule reads in one round: consecutive digits, a small letter, or a letter behind `cap`. -/
inductive HexItem where
  | digits (ds : Text)
  | small (c : Char)
  | capital (c : Char)
  deriving DecidableEq

namespace HexItem

def words : HexItem → List Text
  | digits ds => [ds]
  | small c => [[c]]
  | capital c => ["cap".toList, [c]]

def text (i : HexItem) : Text := i.words.flatMap (' ' :: ·)

def written : HexItem → Text
  | digits ds => ds
  | small c => [c]
  | capital c => upperChar c

def chunks : HexItem → List Chunk
  | digits ds => [.digits ds]
  | small c => [.word [c]]
  | capital c => [.word "cap".toList, .word [c]]

def isDigits : HexItem → Bool
  | digits _ => true
  | _ => false

def Valid : HexItem → Prop
  | digits ds => ds ≠ [] ∧ ∀ d ∈ ds, d ∈ asciiDigits
  | small c | capital c => c ∈ hexLetters

def Apart (i j : HexItem) : Prop := ¬ (i.isDigits = true ∧ j.isDigits = true)

theorem text_ne_nil (i : HexItem) : i.text ≠ [] := by
  cases i <;> exact List.cons_ne_nil _ _

end HexItem

/-- A letter behind `cap`. -/
def capLetter : Node := sequence (literal "cap" ++ [someBlanks, set (.folded (.range 'a' 'f'))])

def hexRound : Node :=
  seq someBlanks (alternatives [plus none true (set .digit), capLetter,
    set (.folded (.range 'a' 'f'))])

theorem hexLetters_sound : ∀ c ∈ hexLetters,
    (CharSet.folded (.range 'a' 'f')).contains c = true ∧ CharSet.digit.contains c = false ∧
      Unicode.isBlank c = false ∧ isWordChar c = true ∧ capLetter.stopsAt [' '] [c] = true := by
  decide

theorem hexRound_takes {i : HexItem} (hi : i.Valid) {rest : Text}
    (hrest : ∀ a ∈ rest.head?, a = ' ') : hexRound.Takes i.text rest := by
  have hdigits : ∀ {c : Char} {t : Text}, CharSet.digit.contains c = false →
      (plus none true (set .digit)).Dead (c :: t) := fun hc =>
    (Begins.plus (.set .digit) none true).dead fun a ha => by cases ha; exact hc
  cases i with
  | digits ds =>
    obtain ⟨hne, hall⟩ := hi
    obtain ⟨d, ds, rfl⟩ := List.exists_cons_of_ne_nil hne
    have htext : (HexItem.digits (d :: ds)).text = [' '] ++ (d :: ds) := by
      simp [HexItem.text, HexItem.words]
    rw [htext]
    refine Takes.seq (takes_space fun a ha => ?_) (Takes.left (Takes.many hne ?_ fun a ha => ?_))
    · cases ha
      exact (asciiDigits_sound d (hall d List.mem_cons_self)).2.1
    · exact fun a ha => (asciiDigits_sound a (hall a ha)).1
    · rw [hrest a ha]
      exact digit_space
  | small c =>
    obtain ⟨hletter, hdigit, hsolid, _, hstops⟩ := hexLetters_sound c hi
    refine Takes.seq (x := [' ']) (y := [c]) (takes_space fun a ha => by cases ha; exact hsolid) ?_
    refine Takes.right (by rfl) (hdigits hdigit) (Takes.right (by rfl) ?_ (Takes.one hletter rest))
    exact dead_of_stopsAt hstops fun a ha => by rw [hrest a ha]; exact List.mem_singleton_self _
  | capital c =>
    obtain ⟨hletter, _, hsolid, _, _⟩ := hexLetters_sound c hi
    refine Takes.seq (x := [' ']) (y := "cap".toList ++ ([' '] ++ [c])) (takes_space fun a ha => ?_) ?_
    · cases ha
      decide
    refine Takes.right (by rfl) (hdigits (by decide)) (Takes.left ?_)
    refine Takes.sequence_append (.of_leftovers (by rfl) (by decide) _) ?_
    exact Takes.seq (takes_space fun a ha => by cases ha; exact hsolid) (Takes.one hletter rest)

def hexDigits : List Node := literal "0" ++ ([someBlanks] ++ (literal "x" ++ [plus none true hexRound]))

def hexNode : Node := sequence (bound :: hexDigits ++ [bound])

theorem hexDigits_takes {i : HexItem} {is : List HexItem} (hvalid : ∀ j ∈ i :: is, j.Valid) :
    (sequence hexDigits).Takes ("0 x".toList ++ (i :: is).flatMap HexItem.text) [] := by
  have hround : hexRound.Dead [] := dead_nil (by decide)
  have hrounds : (plus none true hexRound).Takes ((i :: is).flatMap HexItem.text) [] := by
    refine takes_plus (by rfl) hround HexItem.text_ne_nil fun j js hjs => ?_
    refine hexRound_takes (hvalid j (hjs.subset List.mem_cons_self)) fun a ha => ?_
    cases js with
    | nil => cases ha
    | cons j' js => cases j' <;> (cases ha; rfl)
  have hzero : "0 x".toList ++ (i :: is).flatMap HexItem.text =
      ['0'] ++ ([' '] ++ (['x'] ++ (i :: is).flatMap HexItem.text)) := rfl
  rw [hzero]
  refine Takes.sequence_append (.of_leftovers (by rfl) (by decide) _) ?_
  have hblank : (sequence [someBlanks]).Takes [' '] (['x'] ++ (i :: is).flatMap HexItem.text ++ []) :=
    takes_space fun a ha => by cases ha; decide
  refine Takes.sequence_append hblank ?_
  exact Takes.sequence_append (.of_leftovers (by rfl) (by decide) _) hrounds

theorem lastOf_items {i : HexItem} {is : List HexItem} (hvalid : ∀ j ∈ i :: is, j.Valid)
    (b : Option Char) : ∃ a ∈ lastOf b ((i :: is).flatMap HexItem.text), isWordChar a = true := by
  induction is generalizing i b with
  | nil =>
    have hi := hvalid i List.mem_cons_self
    rw [List.flatMap_singleton]
    cases i with
    | digits ds =>
      obtain ⟨hne, hall⟩ := hi
      refine ⟨ds.getLast hne, ?_, (asciiDigits_sound _ (hall _ (List.getLast_mem hne))).2.2⟩
      change lastOf b (' ' :: ds ++ []) = _
      rw [List.append_nil, lastOf_cons, lastOf, List.getLast?_eq_some_getLast hne]
      rfl
    | small c | capital c => exact ⟨c, rfl, (hexLetters_sound c hi).2.2.2.1⟩
  | cons j is ih =>
    rw [List.flatMap_cons, lastOf_append]
    exact ih (fun j' hj' => hvalid j' (List.mem_cons_of_mem i hj')) _

theorem hexNode_matchAt? {i : HexItem} {is : List HexItem} (hvalid : ∀ j ∈ i :: is, j.Valid)
    {b : Option Char} (hb : ∀ a ∈ b, isWordChar a = false) :
    hexNode.matchAt? b ("0 x".toList ++ (i :: is).flatMap HexItem.text) =
      some ⟨"0 x".toList ++ (i :: is).flatMap HexItem.text, []⟩ := by
  have hend : ∃ a ∈ lastOf b ("0 x".toList ++ (i :: is).flatMap HexItem.text),
      isWordChar a = true := by
    rw [lastOf_append]
    exact lastOf_items hvalid _
  have htakes := hexDigits_takes hvalid
  have hzero : ("0 x".toList ++ (i :: is).flatMap HexItem.text).head? = some '0' := rfl
  generalize "0 x".toList ++ (i :: is).flatMap HexItem.text = x at hend htakes hzero
  have hbegins : bound.Captures b [] [] (x ++ []) :=
    .assertion (boundary_before hb ⟨'0', by rwa [List.append_nil], by decide⟩)
  have hends : (sequence [bound]).Captures (lastOf b ([] ++ x)) [] [] [] :=
    .assertion (boundary_behind hend fun a ha => by cases ha)
  have hall : hexNode.Captures b (([] ++ x) ++ []) [] [] :=
    (hbegins.sequence_cons (.of_takes htakes _)).sequence_append hends
  have hmatch := hall.matchAt? (by rfl)
  simp only [List.append_nil, List.nil_append] at hmatch
  exact hmatch

section
open ActionFunction

theorem hexLiteral_word {w : Text} (hw : isCapWord w = false) (ws : List Text) :
    hexLiteral false (w :: ws) = w.lower ++ hexLiteral false ws := by
  rw [hexLiteral, hw]
  rfl

theorem hexLiteral_item {i : HexItem} (hi : i.Valid) (ws : List Text) :
    hexLiteral false (i.words ++ ws) = i.written ++ hexLiteral false ws := by
  have hsmall : ∀ c ∈ hexLetters, isCapWord [c] = false ∧ Text.lower [c] = [c] := by decide
  have hdigit : ∀ d ∈ asciiDigits, (d = 'c' || swapAsciiCase d = 'c') = false ∧ isPlain d = true := by
    decide
  cases i with
  | digits ds =>
    obtain ⟨hne, hall⟩ := hi
    obtain ⟨d, ds, rfl⟩ := List.exists_cons_of_ne_nil hne
    have hcap : isCapWord (d :: ds) = false := by
      simp only [isCapWord, List.zip_cons_cons, List.all_cons]
      rw [(hdigit d (hall d List.mem_cons_self)).1, Bool.false_and, Bool.and_false]
    have hlower : Text.lower (d :: ds) = d :: ds :=
      if_pos (List.all_eq_true.mpr fun e he => (hdigit e (hall e he)).2)
    exact (hexLiteral_word hcap ws).trans (congrArg (· ++ _) hlower)
  | small c =>
    obtain ⟨hcap, hlower⟩ := hsmall c hi
    exact (hexLiteral_word hcap ws).trans (congrArg (· ++ _) hlower)
  | capital c =>
    have hupper : hexLiteral true ([c] :: ws) = upperChar c ++ hexLiteral false ws := by
      rw [hexLiteral, (hsmall c hi).1]
      exact congrArg (· ++ _) (List.append_nil (upperChar c))
    have hcap : isCapWord "cap".toList = true := by decide
    change hexLiteral false ("cap".toList :: [c] :: ws) = _
    rw [hexLiteral, hcap]
    exact hupper

theorem hexLiteral_items {is : List HexItem} (hvalid : ∀ i ∈ is, i.Valid) :
    hexLiteral false (is.flatMap HexItem.words) = is.flatMap HexItem.written := by
  induction is with
  | nil => rfl
  | cons i is ih =>
    rw [List.flatMap_cons, hexLiteral_item (hvalid i List.mem_cons_self), List.flatMap_cons,
      ih fun j hj => hvalid j (List.mem_cons_of_mem i hj)]

end

theorem isSolid_words {i : HexItem} (hi : i.Valid) : ∀ w ∈ i.words, isSolid w = true := by
  have hletter : ∀ c ∈ hexLetters, isSolid [c] = true := by decide
  cases i with
  | digits ds =>
    intro w hw
    obtain ⟨hne, hall⟩ := hi
    rw [List.mem_singleton.mp hw]
    exact isSolid_of_isBlank hne fun d hd => (asciiDigits_sound d (hall d hd)).2.1
  | small c =>
    intro w hw
    rw [List.mem_singleton.mp hw]
    exact hletter c hi
  | capital c =>
    intro w hw
    rcases List.mem_cons.mp hw with rfl | hw
    · decide
    · rw [List.mem_singleton.mp hw]
      exact hletter c hi

theorem hexText_eq_join (is : List HexItem) : "0 x".toList ++ is.flatMap HexItem.text =
    join [' '] (['0'] :: ['x'] :: is.flatMap HexItem.words) := by
  rw [join_eq_flatMap, List.flatMap_cons, List.flatMap_assoc]
  rfl

namespace RuleTable

def hexRow : Pattern × Action := (⟨hexNode, []⟩, .function "hex_number" .hexNumber)

theorem rewrite_hexRow {p : Text} (hp : hexNode.stopsIn ['0'] p = true)
    (hstart : ∀ a ∈ lastOf none p, isWordChar a = false) {i : HexItem} {is : List HexItem}
    (hvalid : ∀ j ∈ i :: is, j.Valid) :
    rewrite hexRow (p ++ ("0 x".toList ++ (i :: is).flatMap HexItem.text)) =
      p ++ ("0x".toList ++ (i :: is).flatMap HexItem.written) := by
  have hconsumes : hexNode.consumes = true := by rfl
  have hmatch : hexNode.matchAt? (lastOf none p)
      (("0 x".toList ++ (i :: is).flatMap HexItem.text) ++ []) =
        some ⟨"0 x".toList ++ (i :: is).flatMap HexItem.text, []⟩ := by
    rw [List.append_nil]
    exact hexNode_matchAt? hvalid hstart
  have hfound := replaceFrom_found hconsumes (hexRow.2.apply hexRow.1) hmatch rfl
  have hwritten : hexRow.2.apply hexRow.1 ⟨"0 x".toList ++ (i :: is).flatMap HexItem.text, []⟩ =
      "0x".toList ++ (i :: is).flatMap HexItem.written := by
    change ActionFunction.hexLiteral false (words ("0 x".toList ++ (i :: is).flatMap HexItem.text)) = _
    have hsolid : ∀ w ∈ ['0'] :: ['x'] :: (i :: is).flatMap HexItem.words, isSolid w = true := by
      intro w hw
      rcases List.mem_cons.mp hw with rfl | hw
      · decide
      rcases List.mem_cons.mp hw with rfl | hw
      · decide
      obtain ⟨j, hj, hwj⟩ := List.mem_flatMap.mp hw
      exact isSolid_words (hvalid j hj) w hwj
    rw [hexText_eq_join, words_join hsolid, hexLiteral_word (by decide),
      hexLiteral_word (by decide), hexLiteral_items hvalid]
    rfl
  have hskip : hexNode.Misses none p ("0 x".toList ++ (i :: is).flatMap HexItem.text) :=
    (deadIn_of_stopsIn hp fun a ha => by cases ha; exact List.mem_singleton_self _).misses none
  rw [replaceFrom_nil hconsumes, List.append_nil, List.append_nil, hwritten] at hfound
  rw [rewrite_eq]
  exact (replaceFrom_misses hconsumes _ hskip).trans (congrArg (p ++ ·) hfound)

end RuleTable

def spokenChar (c : Char) : List Text := (numeralWords? c).getD []

theorem hexDigit_cases {c : Char} (h : Source.isHexDigit c = true) :
    c ∈ asciiDigits ∨ c ∈ hexLetters ∨ ∃ l ∈ hexLetters, upperChar l = [c] := by
  have hsmall : hexLetters = (List.range' 97 6).map Char.ofNat := by decide
  have hcapital : ∀ d ∈ (List.range' 65 6).map Char.ofNat, ∃ l ∈ hexLetters, upperChar l = [d] := by
    decide
  unfold Source.isHexDigit hexValue? at h
  split at h
  case isTrue hdigit => exact .inl (mem_asciiDigits hdigit)
  case isFalse =>
    refine .inr ?_
    split at h
    case isTrue hletter =>
      left
      rw [hsmall]
      simp only [Bool.and_eq_true, decide_eq_true_eq, Char.le_def, UInt32.le_iff_toNat_le] at hletter
      exact mem_charRange ⟨hletter.1, Nat.lt_succ_of_le hletter.2⟩
    case isFalse =>
      split at h
      case isTrue hletter =>
        right
        simp only [Bool.and_eq_true, decide_eq_true_eq, Char.le_def, UInt32.le_iff_toNat_le] at hletter
        exact hcapital c (mem_charRange ⟨hletter.1, Nat.lt_succ_of_le hletter.2⟩)
      case isFalse => cases h

theorem spokenChar_digit : ∀ d ∈ asciiDigits, (spokenChar d).map swapNames = [[d]] := by
  decide

theorem spokenChar_digits {ds : Text} (hds : ∀ d ∈ ds, d ∈ asciiDigits) :
    (ds.flatMap spokenChar).map swapNames = (Chunk.digits ds).words := by
  induction ds with
  | nil => rfl
  | cons d ds ih =>
    rw [List.flatMap_cons, List.map_append, spokenChar_digit d (hds d List.mem_cons_self),
      ih fun e he => hds e (List.mem_cons_of_mem d he)]
    rfl

namespace HexItem

theorem chunks_valid {i : HexItem} (hi : i.Valid) : ∀ ch ∈ i.chunks, ch.Valid := by
  have hletter : ∀ c ∈ hexLetters, isSolid [c] = true ∧ isDigitless [c] = true := by decide
  cases i with
  | digits ds =>
    intro ch hch
    rw [List.mem_singleton.mp hch]
    exact hi
  | small c =>
    intro ch hch
    rw [List.mem_singleton.mp hch]
    exact hletter c hi
  | capital c =>
    intro ch hch
    rcases List.mem_cons.mp hch with rfl | hch
    · exact ⟨by decide, by decide⟩
    · rw [List.mem_singleton.mp hch]
      exact hletter c hi

theorem chunks_apart {is : List HexItem} (h : is.IsChain Apart) :
    (is.flatMap chunks).IsChain Chunk.Apart := by
  induction is with
  | nil => exact .nil
  | cons i is ih =>
    obtain ⟨hi, his⟩ := List.isChain_cons.mp h
    have hone : i.chunks.IsChain Chunk.Apart := by
      cases i with
      | digits ds | small c => exact .singleton _
      | capital c => exact .cons_cons (fun h => by cases h.1) (.singleton _)
    rw [List.flatMap_cons]
    refine List.isChain_append.mpr ⟨hone, ih his, fun a ha b hb hdigits => ?_⟩
    -- Only digits have a chunk of digits, at their end as at their start.
    cases i with
    | small c | capital c =>
      cases ha
      cases hdigits.1
    | digits ds =>
      cases is with
      | nil => cases hb
      | cons j is =>
        cases j with
        | digits es => exact hi _ rfl ⟨rfl, rfl⟩
        | small c | capital c =>
          cases hb
          cases hdigits.2

theorem exists_items {hs : Text} (h : ∀ c ∈ hs, Source.isHexDigit c = true) :
    ∃ is : List HexItem, (∀ i ∈ is, i.Valid) ∧ is.IsChain Apart ∧ is.flatMap written = hs ∧
      (is.flatMap chunks).flatMap Chunk.words = (hs.flatMap spokenChar).map swapNames := by
  have hsmall : ∀ c ∈ hexLetters, (spokenChar c).map swapNames = (Chunk.word [c]).words := by
    decide
  have hcapital : ∀ c ∈ hexLetters, ∀ d ∈ upperChar c,
      (spokenChar d).map swapNames = (capital c).chunks.flatMap Chunk.words := by
    decide
  induction hs with
  | nil => exact ⟨[], fun i hi => absurd hi List.not_mem_nil, .nil, rfl, rfl⟩
  | cons c hs ih =>
    obtain ⟨is, hvalid, hapart, hwritten, hwords⟩ := ih fun d hd => h d (List.mem_cons_of_mem c hd)
    have hnew : ∀ i : HexItem, i.Valid → (∀ j ∈ is.head?, i.Apart j) → i.written = [c] →
        (spokenChar c).map swapNames = i.chunks.flatMap Chunk.words →
        ∃ is : List HexItem, (∀ i ∈ is, i.Valid) ∧ is.IsChain Apart ∧ is.flatMap written = c :: hs ∧
          (is.flatMap chunks).flatMap Chunk.words = ((c :: hs).flatMap spokenChar).map swapNames := by
      intro i hi hahead hone hspoken
      refine ⟨i :: is, List.forall_mem_cons.mpr ⟨hi, hvalid⟩, List.isChain_cons.mpr ⟨hahead, hapart⟩,
        ?_, ?_⟩
      · rw [List.flatMap_cons, hone, hwritten]
        rfl
      · rw [List.flatMap_cons, List.flatMap_append, hwords, List.flatMap_cons, List.map_append, hspoken]
    rcases hexDigit_cases (h c List.mem_cons_self) with hdigit | hletter | ⟨l, hl, hupper⟩
    · have hvalidDigit : (digits [c]).Valid :=
        ⟨List.cons_ne_nil c [], fun d hd => List.mem_singleton.mp hd ▸ hdigit⟩
      have hspoken := spokenChar_digit c hdigit
      cases is with
      | nil => exact hnew (digits [c]) hvalidDigit (fun j hj => by cases hj) rfl hspoken
      | cons j is =>
        cases j with
        | digits ds =>
          -- The digit joins those behind it.
          obtain ⟨⟨_, hds⟩, hvalid⟩ := List.forall_mem_cons.mp hvalid
          obtain ⟨hahead, hchain⟩ := List.isChain_cons.mp hapart
          refine ⟨digits (c :: ds) :: is, List.forall_mem_cons.mpr ⟨⟨List.cons_ne_nil c ds, ?_⟩, hvalid⟩,
            List.isChain_cons.mpr ⟨hahead, hchain⟩, congrArg (c :: ·) hwritten, ?_⟩
          · exact List.forall_mem_cons.mpr ⟨hdigit, hds⟩
          · rw [List.flatMap_cons (f := spokenChar), List.map_append, hspoken, ← hwords]
            rfl
        | small l | capital l =>
          exact hnew (digits [c]) hvalidDigit (fun j hj hdigits => by cases hj; cases hdigits.2) rfl
            hspoken
    · exact hnew (small c) hletter (fun j _ hdigits => by cases hdigits.1) rfl (hsmall c hletter)
    · exact hnew (capital l) hl (fun j _ hdigits => by cases hdigits.1) hupper
        (hcapital l hl c (by rw [hupper]; exact List.mem_cons_self))

end HexItem

end Dictation
