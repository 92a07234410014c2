import Dictation.Proofs.Pattern.Evaluation
import Dictation.Proofs.Pattern.Refutation
import Dictation.Proofs.Rewrite.ShippedPatterns
/-!
# Operators with their names

A keyword stands between gaps of white space. Where its name ends there, the keyword becomes the
operator and takes the gaps with it that belong to it; where the name seems to go on, nothing changes.
Other words are skipped together with the gap before them.
-/
namespace Dictation

open Text Node

namespace Slot

theorem ofTemplate_quoted (t : Text) : ofTemplate (quoted t) = t.map char := by
  induction t with
  | nil => rw [quoted, List.flatMap_nil, ofTemplate, List.map_nil]
  | cons c t ih =>
    rw [quoted, List.flatMap_cons] at *
    by_cases hc : c = '$'
    · subst hc
      rw [if_pos rfl]
      change ofTemplate ('$' :: '$' :: t.flatMap _) = _
      rw [ofTemplate, ih, List.map_cons]
    · rw [if_neg hc]
      change ofTemplate (c :: t.flatMap _) = _
      rw [ofTemplate, ih, List.map_cons]
      all_goals
        intros
        exact hc ‹_›

theorem expand_quoted (p : Pattern) (m : Match) (t : Text) : p.expand m (quoted t) = t := by
  unfold Pattern.expand
  rw [ofTemplate_quoted, List.flatMap_map]
  exact List.flatMap_singleton' t

end Slot

namespace RuleTable

def rewrite (r : Pattern × Action) (t : Text) : Text := r.1.replace (r.2.apply r.1) t

theorem rewrite_eq (r : Pattern × Action) (t : Text) :
    rewrite r t = r.1.node.replaceFrom (r.2.apply r.1) none t :=
  replace_eq r.1 _ t

theorem shipped_apply (t : Text) : shipped.apply t = rows.foldl (fun t r => rewrite r t) t := by
  rw [← shipped_rows, List.foldl_map]
  rfl

end RuleTable

/-- The white space that can stand between words. -/
def gapChars : List Char := [' ', '\n', '\t']

def IsGap (g : Text) : Prop := ∀ a ∈ g, a ∈ gapChars

/-- Whether a text is a word: it is not empty and has no white space. -/
def isSolid (x : Text) : Bool := !x.isEmpty && x.all (!Unicode.isBlank ·)

theorem isBlank_of_mem_gapChars : ∀ a ∈ gapChars, Unicode.isBlank a = true :=
  List.all_eq_true.mp (by decide)

theorem isWordChar_of_mem_gapChars : ∀ a ∈ gapChars, isWordChar a = false := by
  have hall : gapChars.all (fun a => !isWordChar a) = true := by decide
  simpa using hall

theorem IsGap.isBlank {g : Text} (h : IsGap g) : ∀ a ∈ g, Unicode.isBlank a = true :=
  fun a ha => isBlank_of_mem_gapChars a (h a ha)

theorem isGap_nil : IsGap [] := fun _ h => absurd h List.not_mem_nil

theorem isGap_blank : IsGap [' '] := fun _ ha => List.mem_singleton.mp ha ▸ List.mem_cons_self

theorem isSolid_of_isBlank {x : Text} (hne : x ≠ []) (h : ∀ a ∈ x, Unicode.isBlank a = false) : isSolid x = true := by
  rw [isSolid, List.isEmpty_eq_false_iff.mpr hne]
  exact List.all_eq_true.mpr fun a ha => by rw [h a ha]; rfl

theorem ne_nil_of_isSolid {x : Text} (h : isSolid x = true) : x ≠ [] := by
  rintro rfl
  cases h

theorem isBlank_of_isSolid {x : Text} (h : isSolid x = true) {a : Char} (ha : a ∈ x) :
    Unicode.isBlank a = false := by
  have hall := List.all_eq_true.mp (Bool.and_eq_true _ _ |>.mp h).2 a ha
  rw [Bool.not_eq_true'] at hall
  exact hall

namespace Node

/-- Whether a pattern leads nowhere from a gap, apart from the gap itself. -/
def skipsGaps (n : Node) : Bool :=
  gapChars.all (fun a => decide (n.core.leftovers [a] = some [])) && decide (0 < n.core.minLength)

theorem dead_nil {n : Node} (h : 0 < n.minLength) : n.Dead [] := by
  intro c d hc hd
  obtain ⟨x, hx, _⟩ := hd.reads
  have hmin := hd.minLength_le
  have hused := hx.used_eq
  have hlen := hx.length_eq
  rw [hc, List.length_nil] at hlen
  omega

theorem deadIn_gap {n : Node} (h : n.skipsGaps = true) {g : Text} (hg : IsGap g) (rest : Text) :
    n.core.DeadIn g rest := by
  intro y a z hyz c d hc
  have ha : a ∈ gapChars := hg a (by rw [hyz]; exact List.mem_append_right y List.mem_cons_self)
  have hleft := of_decide_eq_true
    (List.all_eq_true.mp (Bool.and_eq_true _ _ |>.mp h).1 a ha)
  exact not_leads_of_leftovers hleft hc d

/-- A pattern that stops in a word skips the word and the gap before it. -/
theorem deadIn_word {n : Node} (h : n.skipsGaps = true) {g x rest : Text} (hg : IsGap g) (hsolid : isSolid x = true) (hx : n.core.DeadIn x rest) :
    n.DeadIn (g ++ x) rest := by
  refine .of_core ((deadIn_gap h hg (x ++ rest)).append hx) fun a ha => ?_
  refine isBlank_of_isSolid hsolid ?_
  rw [List.getLast?_append] at ha
  cases hlast : x.getLast? with
  | none => exact absurd (List.getLast?_eq_none_iff.mp hlast) (ne_nil_of_isSolid hsolid)
  | some b =>
    rw [hlast, Option.some_or] at ha
    cases ha
    exact List.mem_of_getLast? hlast

theorem deadIn_end {n : Node} (h : n.skipsGaps = true) {g : Text} (hg : IsGap g) :
    n.DeadIn g [] :=
  .of_core_end (deadIn_gap h hg []) (dead_nil (of_decide_eq_true (Bool.and_eq_true _ _ |>.mp h).2))

end Node

namespace Keyword

def tail (w : Keyword) : Node := sequence (w.core ++ ([bound] ++ if w.after then [blanks] else []))

/-- The properties of a keyword that do not depend on the text. -/
def isRegular (w : Keyword) : Bool :=
  (sequence w.core).plain && w.node.unmarked && w.node.consumes && w.node.skipsGaps &&
    decide (w.node.core = w.tail)

structure Regular (w : Keyword) : Prop where
  plain : (sequence w.core).plain = true
  unmarked : w.node.unmarked = true
  consumes : w.node.consumes = true
  skipsGaps : w.node.skipsGaps = true
  core_eq : w.node.core = w.tail

theorem Regular.of_isRegular {w : Keyword} (h : w.isRegular = true) : w.Regular := by
  unfold isRegular at h
  simp only [Bool.and_eq_true, decide_eq_true_eq] at h
  obtain ⟨⟨⟨⟨hplain, hunmarked⟩, hconsumes⟩, hgaps⟩, hcore⟩ := h
  exact ⟨hplain, hunmarked, hconsumes, hgaps, hcore⟩

theorem node_eq (w : Keyword) :
    w.node = sequence ((if w.before then [blanks] else []) ++
      (w.core ++ ([bound] ++ if w.after then [blanks] else []))) := by
  unfold node
  rw [List.append_assoc, List.append_assoc]

private theorem run_side {side : Bool} {g rest : Text} (hg : IsGap g)
    (hside : side = false → g = [])
    (hrest : side = true → ∀ a ∈ rest.head?, Unicode.isBlank a = false) {α : Type}
    {k : Cursor → Option α} {c : Cursor} (hc : c.rest = g ++ rest) (hp : c.passed = []) {r : α}
    (hk : k (c.past g rest) = some r) :
    (sequence (if side then [blanks] else [])).run k c = some r := by
  cases side with
  | true => exact run_star_set hg.isBlank (hrest rfl) hc hp hk
  | false =>
    obtain rfl := hside rfl
    rw [show c.past [] rest = c from Cursor.past_nil hc hp] at hk
    exact hk

variable {w : Keyword} (hw : w.Regular) {x : Text} (hsolid : isSolid x = true)
  (hlast : ∀ a ∈ x.getLast?, isWordChar a = true)

private theorem lastOf_word (hsolid : isSolid x = true)
    (hlast : ∀ a ∈ x.getLast?, isWordChar a = true) (b : Option Char) :
    ∃ a, lastOf b x = some a ∧ isWordChar a = true := by
  cases h : x.getLast? with
  | none => exact absurd (List.getLast?_eq_none_iff.mp h) (ne_nil_of_isSolid hsolid)
  | some a => exact ⟨a, by rw [lastOf, h, Option.some_or], hlast a h⟩

theorem boundary_holds (hsolid : isSolid x = true) (hlast : ∀ a ∈ x.getLast?, isWordChar a = true)
    {g rest : Text} (hend : ∀ a ∈ rest.head?, isWordChar a = false) (b : Option Char) :
    Assertion.holds (.boundary .unicode) (lastOf b (g ++ x)) rest = true := by
  obtain ⟨a, ha, hword⟩ := lastOf_word hsolid hlast (lastOf b g)
  rw [lastOf_append, ha]
  unfold Assertion.holds
  cases hhead : rest.head? with
  | none => simp [WordRule.holds, hword]
  | some a' => simp [WordRule.holds, hword, hend a' hhead]

include hw hsolid hlast

private theorem matchAt?_hit {ls : List Text} (hx : (sequence w.core).leftovers x = some ([] :: ls))
    {g h rest : Text} (hg : IsGap g) (hh : IsGap h) (hbefore : w.before = false → g = [])
    (hafter : w.after = false → h = [])
    (hrest : w.after = true → ∀ a ∈ rest.head?, Unicode.isBlank a = false)
    (hend : ∀ a ∈ (h ++ rest).head?, isWordChar a = false) (b : Option Char) :
    w.node.matchAt? b (g ++ (x ++ (h ++ rest))) = some ⟨g ++ (x ++ h), []⟩ := by
  have htext : g ++ (x ++ (h ++ rest)) = (g ++ (x ++ h)) ++ rest := by
    rw [List.append_assoc, List.append_assoc]
  rw [htext]
  refine matchAt?_of_run hw.unmarked ?_
  rw [node_eq, run_sequence_append]
  refine run_side hg hbefore (fun _ a ha => ?_) htext.symm rfl ?_
  · obtain ⟨a', x', rfl⟩ := List.exists_cons_of_ne_nil (ne_nil_of_isSolid hsolid)
    cases ha
    exact isBlank_of_isSolid hsolid List.mem_cons_self
  · rw [run_sequence_append]
    refine run_of_leftovers hw.plain hx rfl rfl ?_
    rw [Cursor.past_past, run_sequence_append]
    refine (if_pos (boundary_holds hsolid hlast hend b)).trans ?_
    refine run_side hh hafter hrest rfl rfl ?_
    rw [Cursor.past_past, List.append_assoc g x h]
    rfl

/-- A keyword that is matched becomes its operator. The gaps that belong to it go with it. -/
theorem replaceFrom_hit {ls : List Text} (hx : (sequence w.core).leftovers x = some ([] :: ls))
    {g h rest : Text} (hg : IsGap g) (hh : IsGap h)
    (hrest : ∀ a ∈ rest.head?, Unicode.isBlank a = false)
    (hend : ∀ a ∈ (h ++ rest).head?, isWordChar a = false) {f : Match → Text}
    (hf : ∀ m, f m = w.sign) (b : Option Char) :
    ∃ b', w.node.replaceFrom f b (g ++ (x ++ (h ++ rest))) =
      (if w.before then [] else g) ++ (w.sign ++
        w.node.replaceFrom f b' ((if w.after then [] else h) ++ rest)) := by
  -- The gap in front is skipped first, unless it is part of the match.
  have hskip : w.node.replaceFrom f b (g ++ (x ++ (h ++ rest))) =
      (if w.before then [] else g) ++ w.node.replaceFrom f (lastOf b (if w.before then [] else g))
        ((if w.before then g else []) ++ (x ++ (h ++ rest))) := by
    cases hside : w.before with
    | true => rfl
    | false =>
      have hcore : w.node.core = w.node := by
        rw [hw.core_eq, node_eq, hside]
        rfl
      have hdead := deadIn_gap hw.skipsGaps hg (x ++ (h ++ rest))
      rw [hcore] at hdead
      exact replaceFrom_misses hw.consumes f (hdead.misses b)
  have hg' : IsGap (if w.before then g else []) := by
    split
    · exact hg
    · exact isGap_nil
  have hh' : IsGap (if w.after then h else []) := by
    split
    · exact hh
    · exact isGap_nil
  have hbehind : h ++ rest = (if w.after then h else []) ++ ((if w.after then [] else h) ++ rest) := by
    cases w.after with
    | true => rfl
    | false => rfl
  rw [hbehind] at hend
  have hmatch := matchAt?_hit hw hsolid hlast hx hg' hh' (fun hside => if_neg (by rw [hside]; decide))
    (fun hside => if_neg (by rw [hside]; decide))
    (fun hside a ha => hrest a (by rwa [if_pos hside, List.nil_append] at ha)) hend
    (lastOf b (if w.before then [] else g))
  rw [← List.append_assoc x, ← List.append_assoc] at hmatch
  refine ⟨lastOf (lastOf b (if w.before then [] else g))
    ((if w.before then g else []) ++ (x ++ if w.after then h else [])), ?_⟩
  have hfound := replaceFrom_found hw.consumes f hmatch rfl
  rw [hf] at hfound
  rw [hskip, hbehind, ← List.append_assoc x, ← List.append_assoc, hfound]

/-- A keyword that is not matched because its name goes on is skipped, like other words. -/
theorem deadIn_stuck {next : List Char} (hx : (sequence w.core).leftovers x = some [[]])
    (hstops : w.tail.stopsIn next (x.drop 1) = true) {rest : Text}
    (hrest : ∀ a ∈ rest.head?, a ∈ next) (hend : ∃ a ∈ rest.head?, isWordChar a = true) :
    w.node.core.DeadIn x rest := by
  obtain ⟨a, y, rfl⟩ := List.exists_cons_of_ne_nil (ne_nil_of_isSolid hsolid)
  rw [hw.core_eq]
  refine deadIn_cons_iff.mpr ⟨?_, deadIn_of_stopsIn hstops hrest⟩
  intro c d hc hd
  obtain ⟨e, hcore, htail⟩ := leads_sequence_append.mp hd
  obtain ⟨l, hl, herest⟩ := leavesOnly_leftovers _ hx hc hcore
  rw [List.mem_singleton.mp hl, List.nil_append] at herest
  obtain ⟨z, hz, _⟩ := hcore.reads
  have hza : z = a :: y := by
    have happend := hc.symm.trans hz.rest_eq
    rw [herest] at happend
    exact (List.append_cancel_right happend).symm
  obtain ⟨e', ⟨hholds, _⟩, _⟩ := leads_sequence_append.mp htail
  obtain ⟨last, hlastOf, hword⟩ := lastOf_word hsolid hlast c.before
  obtain ⟨a', ha', hword'⟩ := hend
  have hbefore : e.before = some last := by
    rw [hz.before_eq, hza]
    exact hlastOf
  rw [hbefore, herest] at hholds
  unfold Assertion.holds at hholds
  simp only [Option.mem_def] at ha'
  simp [WordRule.holds, hword, ha', hword'] at hholds

end Keyword

end Dictation
