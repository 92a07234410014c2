import Dictation.Proofs.Pattern.OtherWords
import Dictation.Proofs.Text.Words
/-!
# Rules that find nothing

A rule leaves a text alone if it needs a character that the text lacks, or if it passes over each of
its words.
-/
namespace Dictation

open Node Text

theorem isBlank_space : Unicode.isBlank ' ' = true := by decide

theorem takes_space {t : Text} (ht : ∀ a ∈ t.head?, Unicode.isBlank a = false) :
    someBlanks.Takes [' '] t :=
  Takes.many (List.cons_ne_nil _ _) (fun _ ha => List.mem_singleton.mp ha ▸ isBlank_space) ht

/-- Whether every match needs a character that is not among the given ones. -/
def lacks (chars : List Char) (n : Node) : Bool :=
  n.consumes && n.mustRead fun s => chars.all fun a => !s.contains a

theorem misses_of_lacks {chars : List Char} {n : Node} (h : lacks chars n = true) {t : Text}
    (ht : ∀ a ∈ t, a ∈ chars) (b : Option Char) : n.Misses b t [] := by
  refine DeadIn.misses (fun y c z hyz => ?_) b
  refine .of_mustRead (Bool.and_eq_true _ _ |>.mp h).2 fun a ha s hs => ?_
  have hmem : a ∈ t := by
    rw [hyz]
    rw [List.append_nil] at ha
    exact List.mem_append_right y ha
  simpa using List.all_eq_true.mp hs a (ht a hmem)

theorem misses_words {n : Node} {xs : List Text} (hxs : ∀ x ∈ xs, n.Passes x) (b : Option Char)
    {rest : Text} (hrest : ∀ a ∈ rest.head?, a ∈ gapChars) : n.Misses b (join [' '] xs) rest := by
  cases xs with
  | nil => exact misses_nil n b rest
  | cons x xs =>
    rw [join_eq_flatMap]
    refine Misses.append ?_ (misses_spaced (fun y hy => hxs y (List.mem_cons_of_mem x hy)) _ hrest)
    refine hxs x List.mem_cons_self [] _ b isGap_nil fun a ha => ?_
    cases xs with
    | nil => exact hrest a ha
    | cons y xs =>
      cases ha
      exact List.mem_cons_self

theorem misses_join {n : Node} (hn : n.skipsGaps = true) {xs : List Text}
    (hxs : ∀ x ∈ xs, isSolid x = true ∧ n.core.stopsIn gapChars x = true) (b : Option Char) :
    n.Misses b (join [' '] xs) [] := by
  refine misses_words (fun x hx => ?_) b fun a ha => by cases ha
  obtain ⟨hsolid, hstops⟩ := hxs x hx
  exact passes_of_stopsIn hn (fun a ha => isBlank_of_isSolid hsolid (List.mem_of_getLast? ha))
    (ne_nil_of_isSolid hsolid) hstops

/-- Whether a pattern finds nothing in a text of units `us` and of words of letters other than `ws`. -/
def idleOn (us ws : List Text) (n : Node) : Bool :=
  n.consumes && (lacks (us.flatten ++ ' ' :: asciiLetters) n ||
    n.skipsGaps && us.all (n.core.stopsIn gapChars) && n.opensWith ws)

structure Units (us ws : List Text) : Prop where
  ne_nil : [] ∉ us
  last : ∀ u ∈ us, ∀ a ∈ u.getLast?, Unicode.isBlank a = false
  words : [] ∉ ws

namespace RuleTable

/-- The rows from one place on: those up to a row, that row, and those behind it. -/
theorem drop_rows {i j : Nat} {r : Pattern × Action} (h : rows[i]? = some r) (hij : j ≤ i) :
    rows.drop j = (rows.drop j).take (i - j) ++ r :: rows.drop (i + 1) := by
  obtain ⟨hi, hr⟩ := List.getElem?_eq_some_iff.mp h
  have hdrop : (rows.drop j).drop (i - j) = r :: rows.drop (i + 1) := by
    rw [List.drop_drop, Nat.add_sub_cancel' hij, List.drop_eq_getElem_cons hi, hr]
  rw [← hdrop, List.take_append_drop]

theorem rewrite_of_misses {r : Pattern × Action} (hn : r.1.node.consumes = true) {t : Text}
    (h : r.1.node.Misses none t []) : rewrite r t = t := by
  rw [rewrite_eq]
  exact replaceFrom_eq_self hn _ h

theorem foldl_eq_self {rs : List (Pattern × Action)} {t : Text} (h : ∀ r ∈ rs, rewrite r t = t) :
    rs.foldl (fun t r => rewrite r t) t = t := by
  induction rs with
  | nil => rfl
  | cons r rs ih =>
    rw [List.foldl_cons, h r List.mem_cons_self]
    exact ih fun r' hr' => h r' (List.mem_cons_of_mem r hr')

theorem foldl_of_lacks {chars : List Char} {rs : List (Pattern × Action)}
    (hrs : ∀ r ∈ rs, lacks chars r.1.node = true) {t : Text} (ht : ∀ a ∈ t, a ∈ chars) :
    rs.foldl (fun t r => rewrite r t) t = t :=
  foldl_eq_self fun r hr => rewrite_of_misses (Bool.and_eq_true _ _ |>.mp (hrs r hr)).1
    (misses_of_lacks (hrs r hr) ht none)

end RuleTable

section
variable {us ws : List Text} (hus : Units us ws)
include hus

theorem misses_of_idleOn {n : Node} (hn : idleOn us ws n = true) {xs : List Text}
    (hxs : ∀ x ∈ xs, x ∈ us ∨ OtherWord ws x) (b : Option Char) :
    n.Misses b (join [' '] xs) [] := by
  obtain ⟨_, hcases⟩ := Bool.and_eq_true _ _ |>.mp hn
  rcases Bool.or_eq_true _ _ |>.mp hcases with hlacks | hpasses
  · refine misses_of_lacks hlacks (fun a ha => ?_) b
    rcases mem_join ha with rfl | ⟨x, hx, ha⟩
    · exact List.mem_append_right _ List.mem_cons_self
    rcases hxs x hx with hx | hx
    · exact List.mem_append_left _ (List.mem_flatten.mpr ⟨x, hx, ha⟩)
    · exact List.mem_append_right _ (List.mem_cons_of_mem ' ' (hx.letters a ha))
  · simp only [Bool.and_eq_true, List.all_eq_true] at hpasses
    obtain ⟨⟨hgaps, hstops⟩, hopens⟩ := hpasses
    refine misses_words (fun x hx => ?_) b fun a ha => by cases ha
    rcases hxs x hx with hx | hx
    · exact passes_of_stopsIn hgaps (hus.last x hx) (by rintro rfl; exact hus.ne_nil hx) (hstops x hx)
    · exact passes_of_opensWith hgaps hopens hus.words hx

theorem RuleTable.foldl_idleOn {rs : List (Pattern × Action)}
    (hrs : ∀ r ∈ rs, idleOn us ws r.1.node = true) {xs : List Text}
    (hxs : ∀ x ∈ xs, x ∈ us ∨ OtherWord ws x) :
    rs.foldl (fun t r => rewrite r t) (join [' '] xs) = join [' '] xs :=
  foldl_eq_self fun r hr => rewrite_of_misses (Bool.and_eq_true _ _ |>.mp (hrs r hr)).1
    (misses_of_idleOn hus (hrs r hr) hxs none)

end

end Dictation
