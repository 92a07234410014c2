import Dictation.Pattern.Parse
import Dictation.Proofs.Operator.LongestMatch
import Dictation.Proofs.Pattern.Captures
import Mathlib.Data.List.Sort
/-!
# Operators as alternatives

The operators of a text are also what a pattern finds that has all compound operators as alternatives,
the longest ones first, and any character as the last one. A search takes the first alternative that
stands at a place, which is the longest one by the order in which they are tried.
-/
namespace Dictation

open Text

namespace Node

def exactly (t : Text) : Node := sequence (t.map fun c => set (.one c))

/-- One of some texts, or any character where none of them stands. -/
def oneOf (ts : List Text) : Node := alternatives (ts.map exactly ++ [set (.property .any)])

theorem oneOf_cons (t : Text) (ts : List Text) : oneOf (t :: ts) = alt (exactly t) (oneOf ts) := by
  cases ts <;> rfl

theorem takes_exactly (t rest : Text) : (exactly t).Takes t rest := by
  induction t with
  | nil =>
    intro α k c r hc hp hk
    rw [show c.past [] rest = c from Cursor.past_nil hc hp] at hk
    exact hk
  | cons c t ih =>
    have hone : (sequence [set (.one c)]).Takes [c] (t ++ rest) :=
      .one (CharSet.contains_one.mpr rfl) _
    exact hone.sequence_append ih

theorem prefix_of_leads_exactly {t : Text} {c d : Cursor} (h : (exactly t).Leads c d) :
    t <+: c.rest := by
  induction t generalizing c with
  | nil => exact List.nil_prefix
  | cons a t ih =>
    obtain ⟨e, hset, hrest⟩ := leads_sequence_cons.mp h
    obtain ⟨b, hb, hreads⟩ := Cursor.reads_consume? hset
    rw [hreads.rest_eq, CharSet.contains_one.mp hb]
    exact List.cons_prefix_cons.mpr ⟨rfl, ih hrest⟩

theorem dead_exactly {t u : Text} (h : ¬ t <+: u) : (exactly t).Dead u :=
  fun _ _ hc hleads => h (hc ▸ prefix_of_leads_exactly hleads)

theorem unmarked_exactly (t : Text) : (exactly t).unmarked = true := by
  induction t with
  | nil => rfl
  | cons c t ih =>
    cases t with
    | nil => rfl
    | cons d t => exact ih

/-- Texts that do not stand there are passed over. -/
theorem takes_oneOf_append {us ts : List Text} {t rest : Text} (hus : ∀ u ∈ us, ¬ u <+: t ++ rest)
    (hts : (oneOf ts).Takes t rest) : (oneOf (us ++ ts)).Takes t rest := by
  induction us with
  | nil => exact hts
  | cons u us ih =>
    obtain ⟨hu, hus⟩ := List.forall_mem_cons.mp hus
    rw [List.cons_append, oneOf_cons]
    exact .right (unmarked_exactly u) (dead_exactly hu) (ih hus)

end Node

namespace Operator

open Node

/-- Characters that mean something else in a pattern unless a backslash stands before them. -/
def reserved : List Char := "\\.+*?()|[]\x7b\x7d^$#&-~".toList

def escape (t : Text) : Text := t.flatMap fun c => if c ∈ reserved then ['\\', c] else [c]

/-- The compound operators, the longest first, and those of one length in falling order. -/
def longestFirst : List Text :=
  compounds.insertionSort fun a b => b.length < a.length ∨ b.length = a.length ∧ b.le a

/-- The compound operators as alternatives in this order, and any other character. -/
def pattern : Text := "(?s)".toList ++ join ['|'] (longestFirst.map escape) ++ "|.".toList

theorem compile_pattern : Pattern.compile? {} pattern = some ⟨oneOf longestFirst, []⟩ := by
  decide +kernel

theorem longestFirst_sound : longestFirst.Pairwise (fun a b => b.length ≤ a.length) ∧
    (oneOf longestFirst).unmarked = true ∧ (oneOf longestFirst).consumes = true := by
  decide +kernel

theorem mem_longestFirst {op : Text} : op ∈ longestFirst ↔ op ∈ compounds :=
  List.mem_insertionSort _

/-- An operator that stands in front of the longest one does not stand at the place: it would be as
long, and so the same. -/
theorem takes_longestFirst {op rest : Text} (h : IsFirst op (op ++ rest)) :
    (oneOf longestFirst).Takes op rest := by
  generalize ht : op ++ rest = t at h
  cases h with
  | compound hop hstands hlongest =>
    obtain ⟨before, after, heq, hnot⟩ := List.eq_append_cons_of_mem (mem_longestFirst.mpr hop)
    have hlonger := longestFirst_sound.1
    rw [heq] at hlonger ⊢
    refine takes_oneOf_append (fun u hu hearlier => ?_) ?_
    · have hle : op.length ≤ u.length :=
        (List.pairwise_append.mp hlonger).2.2 u hu op List.mem_cons_self
      rw [ht] at hearlier
      have hge := hlongest u (mem_longestFirst.mp (heq ▸ List.mem_append_left _ hu)) hearlier
      have hsame := List.prefix_of_prefix_length_le hearlier hstands hge
      exact hnot (hsame.eq_of_length (Nat.le_antisymm hge hle) ▸ hu)
    · rw [oneOf_cons]
      exact (takes_exactly op rest).left
  | character c _ hnone =>
    have hany : (oneOf []).Takes [c] rest := .one rfl rest
    have hall := takes_oneOf_append (fun u hu => ht ▸ hnone u (mem_longestFirst.mp hu)) hany
    rwa [List.append_nil] at hall

/-- A pattern that takes what is read first finds the operators of a division one behind the other, and
nothing is left out. -/
theorem LongestMatch.scanFrom_eq {n : Node} (hunmarked : n.unmarked = true)
    (hconsumes : n.consumes = true)
    (htakes : ∀ {op rest : Text}, IsFirst op (op ++ rest) → n.Takes op rest) {t : Text}
    {ops : List Text} (h : LongestMatch t ops) (before : Option Char) :
    n.scanFrom 0 false before t = ops.map fun op => .found ⟨op, []⟩ := by
  induction h generalizing before with
  | nil => exact scanFrom_nil hconsumes before
  | @cons op rest ops hfirst _ ih =>
    let m : Match := ⟨op, []⟩
    have hmatch : n.matchAt? before (m.text ++ rest) = some m :=
      (Captures.of_takes (htakes hfirst) before).matchAt? hunmarked
    rw [List.map_cons, ← ih (lastOf before op)]
    exact scanFrom_found hconsumes hmatch

end Operator

end Dictation
