import Dictation.Proofs.Rewrite.HexNumerals
/-!
# The decimal point and the sign of a number

The word for the point is rewritten between two digits, and the word for a sign at the start of the
text before a digit.
-/
namespace Dictation

open Node Text

theorem captures_digit {d : Char} (hd : d ∈ asciiDigits) (i : Nat) (b : Option Char) (t : Text) :
    (group i (set .digit)).Captures b [d] [(i, [d])] t :=
  .group (.of_takes (.one (asciiDigits_sound d hd).1 t) b) i

/-- What follows the first digit: the word for the point, and another digit. -/
def dotTail : List Node := someBlanks :: (literal "dot" ++ [someBlanks, group 2 (set .digit)])

def dotNode : Node := sequence (group 1 (set .digit) :: dotTail)

theorem dotNode_begins : dotNode.Begins .digit := (Begins.set .digit).group 1 |>.seq

theorem dotNode_dead {d : Char} {t : Text} (ht : ∀ a ∈ t.head?, Unicode.isBlank a = false) :
    dotNode.Dead (d :: t) := by
  rintro c e hc ⟨f, ⟨f', hset, rfl⟩, htail⟩
  obtain ⟨a, _, hreads⟩ := Cursor.reads_consume? hset
  obtain ⟨g, hblanks, _⟩ := htail
  obtain ⟨x, hne, hx, hall⟩ := hblanks.reads_plus_set
  obtain ⟨a', x, rfl⟩ := List.exists_cons_of_ne_nil hne
  have hrest : t = a' :: x ++ g.rest := by
    have heq := hc.symm.trans hreads.rest_eq
    exact (List.cons.inj heq).2.trans hx.rest_eq
  have hblank : Unicode.isBlank a' = true := hall a' List.mem_cons_self
  rw [ht a' (by rw [hrest]; rfl)] at hblank
  cases hblank

theorem dotNode_deadIn {ds t : Text} (hds : ∀ d ∈ ds, d ∈ asciiDigits)
    (ht : ∀ a ∈ t.head?, Unicode.isBlank a = false) : dotNode.DeadIn ds t := by
  induction ds with
  | nil => exact deadIn_nil _ t
  | cons d ds ih =>
    have hmore : ∀ e ∈ ds, e ∈ asciiDigits := fun e he => hds e (List.mem_cons_of_mem d he)
    refine deadIn_cons_iff.mpr ⟨dotNode_dead fun a ha => ?_, ih hmore⟩
    cases ds with
    | nil => exact ht a ha
    | cons e ds =>
      cases ha
      exact (asciiDigits_sound a (hmore a List.mem_cons_self)).2.1

theorem dotNode_matchAt? {y z : Char} (hy : y ∈ asciiDigits) (hz : z ∈ asciiDigits)
    (b : Option Char) (t : Text) : dotNode.matchAt? b ((y :: " dot ".toList ++ [z]) ++ t) =
      some ⟨y :: " dot ".toList ++ [z], [(2, [z]), (1, [y])]⟩ := by
  have hblank := (asciiDigits_sound z hz).2.1
  have hword : (sequence (literal "dot")).Takes "dot".toList ([' '] ++ [z] ++ t) :=
    .of_leftovers (by rfl) (by decide) _
  have hend : ∀ b, (sequence [someBlanks, group 2 (set .digit)]).Captures b ([' '] ++ [z])
      [(2, [z])] t := fun b =>
    .seq (.of_takes (takes_space fun a ha => by cases ha; exact hblank) b) (captures_digit hz 2 _ t)
  have htail : ∀ b, (sequence dotTail).Captures b ([' '] ++ ("dot".toList ++ ([' '] ++ [z])))
      [(2, [z])] t := fun b =>
    .sequence_cons (.of_takes (takes_space fun a ha => by cases ha; decide) b)
      (.sequence_append (.of_takes hword _) (hend _))
  have hall : dotNode.Captures b ([y] ++ ([' '] ++ ("dot".toList ++ ([' '] ++ [z]))))
      [(2, [z]), (1, [y])] t :=
    .sequence_cons (captures_digit hy 1 b _) (htail _)
  exact hall.matchAt? (by rfl)

namespace RuleTable

/-- The rule for the point between two digits. -/
def dotRow : Pattern × Action := (⟨dotNode, [none, none]⟩, .literal "$\x7b1\x7d.$\x7b2\x7d")

theorem dotRow_slots :
    Slot.ofTemplate "$\x7b1\x7d.$\x7b2\x7d".toList = [.index 1, .char '.', .index 2] := by
  decide +kernel

theorem rewrite_dotRow {p : Text} (hp : ∀ a ∈ p, CharSet.digit.contains a = false) {ds es : Text}
    (hds : ds ≠ [] ∧ ∀ d ∈ ds, d ∈ asciiDigits) (hes : es ≠ [] ∧ ∀ e ∈ es, e ∈ asciiDigits) :
    rewrite dotRow (p ++ (ds ++ (" dot ".toList ++ es))) = p ++ (ds ++ '.' :: es) := by
  obtain ⟨hne, hds⟩ := hds
  obtain ⟨x, y, rfl⟩ : ∃ x y, ds = x ++ [y] :=
    ⟨ds.dropLast, ds.getLast hne, (List.dropLast_append_getLast hne).symm⟩
  obtain ⟨z, t, rfl⟩ := List.exists_cons_of_ne_nil hes.1
  have hconsumes : dotNode.consumes = true := by rfl
  have hy : y ∈ asciiDigits := hds y (List.mem_append_right x List.mem_cons_self)
  have hz : z ∈ asciiDigits := hes.2 z List.mem_cons_self
  have htext : p ++ (x ++ [y] ++ (" dot ".toList ++ z :: t)) =
      (p ++ x) ++ ((y :: " dot ".toList ++ [z]) ++ t) := by
    simp only [List.append_assoc, List.cons_append, List.nil_append]
  -- Only the last digit before the word and the first one behind it belong to the match.
  have hskip : dotNode.DeadIn (p ++ x) ((y :: " dot ".toList ++ [z]) ++ t) := by
    refine (dotNode_begins.deadIn hp _).append (dotNode_deadIn ?_ fun a ha => ?_)
    · exact fun d hd => hds d (List.mem_append_left _ hd)
    · cases ha
      exact (asciiDigits_sound y hy).2.1
  have hrest : dotNode.DeadIn t [] :=
    dotNode_deadIn (fun d hd => hes.2 d (List.mem_cons_of_mem z hd)) fun a ha => by cases ha
  have hf : dotRow.2.apply dotRow.1 ⟨y :: " dot ".toList ++ [z], [(2, [z]), (1, [y])]⟩ =
      [y, '.', z] := by
    change (Slot.ofTemplate _).flatMap _ = _
    rw [dotRow_slots]
    rfl
  have hskipped := replaceFrom_misses hconsumes (dotRow.2.apply dotRow.1) (hskip.misses none)
  have hfound := replaceFrom_found hconsumes (dotRow.2.apply dotRow.1)
    (dotNode_matchAt? hy hz (lastOf none (p ++ x)) t) rfl
  rw [hf, replaceFrom_eq_self hconsumes _ (hrest.misses _)] at hfound
  rw [rewrite_eq, htext]
  refine hskipped.trans ?_
  rw [hfound]
  simp only [List.append_assoc, List.cons_append, List.nil_append]

end RuleTable

/-- The word for a sign, and what its rule needs of it. -/
structure SignWord (s : String) (c : Char) : Prop where
  plain : (sequence (literal s)).plain = true
  unmarked : (signedDigit s).unmarked = true
  consumes : (signedDigit s).consumes = true
  reads : (sequence (literal s)).leftovers s.toList = some [[]]
  slots : Slot.ofTemplate ("$\x7b1\x7d".toList ++ c :: "$\x7b2\x7d".toList) =
    [.index 1, .char c, .index 2]

theorem signWord_minus : SignWord "minus" '-' where
  plain := by rfl
  unmarked := by rfl
  consumes := by rfl
  reads := by decide +kernel
  slots := by decide +kernel

theorem signWord_plus : SignWord "plus" '+' where
  plain := by rfl
  unmarked := by rfl
  consumes := by rfl
  reads := by decide +kernel
  slots := by decide +kernel

namespace RuleTable

def signRow (s : String) (c : Char) : Pattern × Action :=
  (⟨signedDigit s, [none, none]⟩, .literal ("$\x7b1\x7d".toList ++ c :: "$\x7b2\x7d".toList))

variable {s : String} {c : Char} (hs : SignWord s c)
include hs

theorem signedDigit_matchAt? {d : Char} (hd : d ∈ asciiDigits) (t : Text) :
    (signedDigit s).matchAt? none ((s.toList ++ [' ', d]) ++ t) =
      some ⟨s.toList ++ [' ', d], [(2, [d]), (1, [])]⟩ := by
  have hblank := (asciiDigits_sound d hd).2.1
  have hstart : ∀ u, (group 1 (alt (assertion .textStart)
      (seq (set (.compl (.folded (.union .digit .space)))) someBlanks))).Captures none [] [(1, [])] u :=
    fun u => .group (.left (.assertion rfl)) 1
  have hend : ∀ b, (sequence [someBlanks, group 2 (set .digit)]).Captures b ([' '] ++ [d])
      [(2, [d])] t := fun b =>
    .seq (.of_takes (takes_space fun a ha => by cases ha; exact hblank) b) (captures_digit hd 2 _ t)
  have htail : (sequence (literal s ++ [someBlanks, group 2 (set .digit)])).Captures none
      (s.toList ++ ([' '] ++ [d])) [(2, [d])] t :=
    .sequence_append (.of_takes (.of_leftovers hs.plain hs.reads _) none) (hend _)
  have hall : (signedDigit s).Captures none ([] ++ (s.toList ++ ([' '] ++ [d])))
      [(2, [d]), (1, [])] t := .seq (hstart _) htail
  exact hall.matchAt? hs.unmarked

theorem rewrite_signRow {chars : List Char} (hlacks : lacks chars (signedDigit s) = true) {d : Char}
    (hd : d ∈ asciiDigits) {t : Text} (ht : ∀ a ∈ t, a ∈ chars) :
    rewrite (signRow s c) (s.toList ++ ' ' :: d :: t) = c :: d :: t := by
  have hf : (signRow s c).2.apply (signRow s c).1
      ⟨s.toList ++ [' ', d], [(2, [d]), (1, [])]⟩ = [c, d] := by
    change (Slot.ofTemplate _).flatMap _ = _
    rw [hs.slots]
    rfl
  have htext : s.toList ++ ' ' :: d :: t = (s.toList ++ [' ', d]) ++ t := by simp
  rw [rewrite_eq, htext]
  refine (replaceFrom_found hs.consumes _ (signedDigit_matchAt? hs hd t) rfl).trans ?_
  rw [hf, replaceFrom_eq_self hs.consumes _ (misses_of_lacks hlacks ht _)]
  rfl

end RuleTable

end Dictation
