import Dictation.Pattern.Template
import Dictation.Proofs.Pattern.Leads
/-!
# Scanning

How a text is scanned with a pattern that consumes: a character at which no match starts is kept, and
behind a match the scan goes on as at the start. A stretch in which no match starts is kept as it is.
-/
namespace Dictation

namespace Text

/-- The character before a place that lies behind `x`, where `before` stands before `x`. -/
def lastOf (before : Option Char) (x : Text) : Option Char := x.getLast?.or before

@[simp] theorem lastOf_nil (before : Option Char) : lastOf before [] = before := rfl

theorem lastOf_append (before : Option Char) (x y : Text) :
    lastOf before (x ++ y) = lastOf (lastOf before x) y := by
  unfold lastOf
  rw [List.getLast?_append, Option.or_assoc]

theorem lastOf_cons (before : Option Char) (c : Char) (x : Text) :
    lastOf before (c :: x) = lastOf (some c) x :=
  lastOf_append before [c] x

@[simp] theorem lastOf_concat (before : Option Char) (x : Text) (c : Char) :
    lastOf before (x ++ [c]) = some c :=
  lastOf_append before x [c]

end Text

open Text

namespace Node

variable {n : Node} (hn : n.consumes = true)

/-- No match starts anywhere in the stretch `x` that stands between `before` and `rest`. -/
def Misses (n : Node) (before : Option Char) (x rest : Text) : Prop :=
  ∀ y c z, x = y ++ c :: z → n.matchAt? (lastOf before y) (c :: (z ++ rest)) = none

theorem misses_nil (n : Node) (before : Option Char) (rest : Text) : n.Misses before [] rest := by
  intro y c z h
  exact absurd h.symm (List.append_ne_nil_of_right_ne_nil y (List.cons_ne_nil c z))

theorem misses_cons_iff {before : Option Char} {c : Char} {x rest : Text} :
    n.Misses before (c :: x) rest ↔
      n.matchAt? before (c :: (x ++ rest)) = none ∧ n.Misses (some c) x rest := by
  constructor
  · intro h
    refine ⟨h [] c x rfl, fun y d z hx => ?_⟩
    have hlast := h (c :: y) d z (by rw [hx, List.cons_append])
    rwa [lastOf_cons] at hlast
  · intro ⟨hc, hx⟩ y d z h
    cases y with
    | nil =>
      rw [List.nil_append, List.cons.injEq] at h
      obtain ⟨rfl, rfl⟩ := h
      exact hc
    | cons e y =>
      rw [List.cons_append, List.cons.injEq] at h
      obtain ⟨rfl, rfl⟩ := h
      rw [lastOf_cons]
      exact hx y d z rfl

theorem Misses.append {before : Option Char} {x y rest : Text}
    (hx : n.Misses before x (y ++ rest)) (hy : n.Misses (lastOf before x) y rest) :
    n.Misses before (x ++ y) rest := by
  induction x generalizing before with
  | nil => exact hy
  | cons c x ih =>
    obtain ⟨hc, hx⟩ := misses_cons_iff.mp hx
    rw [lastOf_cons] at hy
    refine misses_cons_iff.mpr ⟨?_, ih hx hy⟩
    rw [show x.append y ++ rest = x ++ (y ++ rest) from List.append_assoc x y rest]
    exact hc

section
include hn

theorem matchAt?_text_ne_nil {before : Option Char} {t : Text} {m : Match}
    (h : n.matchAt? before t = some m) : m.text ≠ [] := by
  obtain ⟨d, hlead, hreads, _⟩ := leads_of_matchAt? h
  obtain ⟨x, hx, hne⟩ := hlead.reads
  rw [← hreads.textTo_eq, hx.textTo_eq]
  exact hne hn

theorem matchAt?_nil (before : Option Char) : n.matchAt? before [] = none := by
  cases h : n.matchAt? before [] with
  | none => rfl
  | some m =>
    obtain ⟨d, _, hreads, _⟩ := leads_of_matchAt? h
    have hnil := (List.append_eq_nil_iff.mp hreads.rest_eq.symm).1
    exact absurd hnil (matchAt?_text_ne_nil hn h)

theorem fresh?_eq (behind : Bool) (before : Option Char) (t : Text) :
    n.fresh? behind before t = n.matchAt? before t := by
  unfold fresh?
  cases h : n.matchAt? before t with
  | none => rfl
  | some m =>
    have hne : m.text.isEmpty = false := List.isEmpty_eq_false_iff.mpr (matchAt?_text_ne_nil hn h)
    rw [Option.filter_some, hne, Bool.and_false]
    rfl

theorem scanFrom_behind (behind : Bool) (before : Option Char) (t : Text) :
    n.scanFrom 0 behind before t = n.scanFrom 0 false before t := by
  cases t with
  | nil =>
    unfold scanFrom
    rw [fresh?_eq hn, fresh?_eq hn]
  | cons c rest =>
    unfold scanFrom
    simp only [fresh?_eq hn]

theorem scanFrom_nil (before : Option Char) : n.scanFrom 0 false before [] = [] := by
  unfold scanFrom
  rw [fresh?_eq hn, matchAt?_nil hn]

theorem scanFrom_skip (x : Text) (behind : Bool) (before : Option Char) (rest : Text) :
    n.scanFrom x.length behind before (x ++ rest) =
      n.scanFrom 0 false (lastOf before x) rest := by
  induction x generalizing behind before with
  | nil => exact scanFrom_behind hn behind before rest
  | cons c x ih =>
    rw [lastOf_cons]
    exact ih true (some c)

theorem scanFrom_keep {before : Option Char} {c : Char} {rest : Text}
    (h : n.matchAt? before (c :: rest) = none) :
    n.scanFrom 0 false before (c :: rest) = .kept c :: n.scanFrom 0 false (some c) rest := by
  conv => lhs; unfold scanFrom
  simp only [fresh?_eq hn, h]

theorem scanFrom_found {before : Option Char} {m : Match} {rest : Text}
    (h : n.matchAt? before (m.text ++ rest) = some m) :
    n.scanFrom 0 false before (m.text ++ rest) =
      .found m :: n.scanFrom 0 false (lastOf before m.text) rest := by
  have hne := matchAt?_text_ne_nil hn h
  obtain ⟨c, x, hx⟩ := List.exists_cons_of_ne_nil hne
  have hskip := scanFrom_skip hn x true (some c) rest
  rw [hx, lastOf_cons, ← hskip, List.cons_append]
  rw [hx, List.cons_append] at h
  conv => lhs; unfold scanFrom
  simp only [fresh?_eq hn, h, hx, List.length_cons, Nat.add_sub_cancel]
  rfl

theorem scanFrom_misses {before : Option Char} {x rest : Text} (h : n.Misses before x rest) :
    n.scanFrom 0 false before (x ++ rest) =
      x.map .kept ++ n.scanFrom 0 false (lastOf before x) rest := by
  induction x generalizing before with
  | nil => rfl
  | cons c x ih =>
    obtain ⟨hc, hx⟩ := misses_cons_iff.mp h
    rw [List.cons_append, scanFrom_keep hn hc, ih hx, List.map_cons, lastOf_cons,
      List.cons_append]

end

/-- What becomes of a part when matches are replaced. -/
def replaced (f : Match → Text) : Part → Text
  | .kept c => [c]
  | .found m => f m

/-- What becomes of a text that follows `before` when matches are replaced. -/
def replaceFrom (n : Node) (f : Match → Text) (before : Option Char) (t : Text) : Text :=
  (n.scanFrom 0 false before t).flatMap (replaced f)

theorem replace_eq (p : Pattern) (f : Match → Text) (t : Text) :
    p.replace f t = p.node.replaceFrom f none t := by
  unfold Pattern.replace replaceFrom scan
  congr 1

section
variable (f : Match → Text)
include hn

theorem replaceFrom_nil (before : Option Char) : n.replaceFrom f before [] = [] := by
  unfold replaceFrom
  rw [scanFrom_nil hn]
  rfl

theorem replaceFrom_found {before : Option Char} {m : Match} {x rest : Text}
    (h : n.matchAt? before (x ++ rest) = some m) (hx : m.text = x) :
    n.replaceFrom f before (x ++ rest) = f m ++ n.replaceFrom f (lastOf before x) rest := by
  subst hx
  unfold replaceFrom
  rw [scanFrom_found hn h, List.flatMap_cons]
  rfl

theorem replaceFrom_misses {before : Option Char} {x rest : Text} (h : n.Misses before x rest) :
    n.replaceFrom f before (x ++ rest) = x ++ n.replaceFrom f (lastOf before x) rest := by
  have hkept : (x.map Part.kept).flatMap (replaced f) = x := by
    rw [List.flatMap_map]
    exact List.flatMap_singleton' x
  unfold replaceFrom
  rw [scanFrom_misses hn h, List.flatMap_append, hkept]

theorem replaceFrom_eq_self {before : Option Char} {t : Text} (h : n.Misses before t []) :
    n.replaceFrom f before t = t := by
  have heq := replaceFrom_misses hn f h
  rw [replaceFrom_nil hn, List.append_nil] at heq
  exact heq

end

end Node

end Dictation
