import Mathlib.Data.List.Chain
import Dictation.Proofs.Rewrite.SpokenRules
/-!
# Operators after their rules

The rules behind those for operators are about names in double low lines and about words that are
spoken for white space. They find nothing in a text of operators: in it no low line stands right before
a letter.
-/
namespace Dictation

open Node Text Sign

/-- Whether a low line stands before the letter d. -/
def opensDunder (a b : Char) : Bool :=
  (CharSet.counterpart '_').contains a && (CharSet.counterpart 'd').contains b

/-- Nowhere in a text a low line stands before the letter d. -/
def Unopened (t : Text) : Prop := t.IsChain fun a b => opensDunder a b = false

instance (t : Text) : Decidable (Unopened t) := inferInstanceAs (Decidable (t.IsChain _))

theorem literal_dunder :
    literal "__dunder" = ['_', '_', 'd', 'u', 'n', 'd', 'e', 'r'].map fun c =>
      Node.set (.counterpart c) := by
  simp only [literal, String.reduceToList]

theorem Unopened.dead {t : Text} (ht : Unopened t) (ns : List Node) :
    (sequence (literal "__dunder" ++ ns)).Dead t := by
  rintro c d rfl hd
  rw [literal_dunder] at hd
  obtain ⟨e, hone, hd⟩ := leads_sequence_cons.mp hd
  obtain ⟨a₁, _, hfirst⟩ := Cursor.reads_consume? hone
  obtain ⟨f, htwo, hd⟩ := leads_sequence_cons.mp hd
  obtain ⟨a, ha, hsecond⟩ := Cursor.reads_consume? htwo
  obtain ⟨i, hthree, _⟩ := leads_sequence_cons.mp hd
  obtain ⟨b, hb, hthird⟩ := Cursor.reads_consume? hthree
  have hrest : c.rest = a₁ :: a :: b :: i.rest := by
    rw [hfirst.rest_eq, hsecond.rest_eq, hthird.rest_eq]
    rfl
  rw [hrest] at ht
  have hopen : opensDunder a b = false :=
    (List.isChain_cons_cons.mp (List.isChain_cons_cons.mp ht).2).1
  rw [opensDunder, ha, hb] at hopen
  cases hopen

theorem Unopened.of_append_right {x y : Text} (h : Unopened (x ++ y)) : Unopened y :=
  (List.isChain_append.mp h).2.1

theorem Unopened.deadIn {t : Text} (ht : Unopened t) (ns : List Node) :
    (sequence (literal "__dunder" ++ ns)).DeadIn t [] := by
  rintro y c z rfl
  rw [List.append_nil]
  exact ht.of_append_right.dead ns

theorem not_opensDunder {a b : Char} (hb : b ∈ gapChars ++ firstChars) : opensDunder a b = false := by
  have hall : (gapChars ++ firstChars).all (fun b => !(CharSet.counterpart 'd').contains b) = true := by
    decide
  have hd := List.all_eq_true.mp hall b hb
  rw [Bool.not_eq_true'] at hd
  rw [opensDunder, hd, Bool.and_false]

theorem Unopened.append {x y : Text} (hx : Unopened x) (hy : Unopened y)
    (hhead : ∀ b ∈ y.head?, b ∈ gapChars ++ firstChars) : Unopened (x ++ y) :=
  List.isChain_append.mpr ⟨hx, hy, fun _ _ b hb => not_opensDunder (hhead b hb)⟩

theorem IsGap.unopened {g : Text} (hg : IsGap g) : Unopened g := by
  induction g with
  | nil => exact List.isChain_nil
  | cons a g ih =>
    refine Unopened.append (x := [a]) (List.isChain_singleton a)
      (ih fun b hb => hg b (List.mem_cons_of_mem a hb)) fun b hb => ?_
    exact List.mem_append_left _ (hg b (List.mem_cons_of_mem a (List.mem_of_head? hb)))

namespace Sign

theorem unopened : ∀ s ∈ spelled.1, Unopened s.written ∧ Unopened s.spoken := by
  decide

variable {rank : Nat} {g : Text} {ts : List (Sign × Text)}

theorem head_render_mem (hts : Placed rank g ts) :
    ∀ a ∈ (render rank g ts).head?, a ∈ gapChars ++ firstChars := by
  intro a ha
  rw [render_eq_append] at ha
  cases g with
  | cons b g =>
    cases ha
    exact List.mem_append_left _ (hts.isGap a List.mem_cons_self)
  | nil =>
    cases ts with
    | nil => cases ha
    | cons t ts =>
      obtain ⟨s, h⟩ := t
      obtain ⟨_, hs, _⟩ := hts
      change a ∈ (s.form rank _ ++ _).head? at ha
      rw [head_append_form hs] at ha
      exact List.mem_append_right _ (head_form hs _ a ha).1

theorem unopened_render (hts : Placed rank g ts) : Unopened (render rank g ts) := by
  induction ts generalizing g with
  | nil => exact IsGap.unopened hts
  | cons t ts ih =>
    obtain ⟨s, h⟩ := t
    obtain ⟨hg, hs, htight, hrest⟩ := hts
    have hform : Unopened (s.form rank (ts.map Prod.fst)) := by
      unfold form
      split
      · exact (unopened s hs).1
      · exact (unopened s hs).2
    refine hg.unopened.append (hform.append (ih hrest) (head_render_mem hrest)) fun a ha => ?_
    rw [head_append_form hs] at ha
    exact List.mem_append_right _ (head_form hs _ a ha).1

theorem deadIn_render {n : Node} (hn : n.skipsGaps = true)
    (hskip : ∀ s ∈ spelled.1, s.rank ≠ rank ∧ isSkipped n.core rank s = true)
    (hts : Placed rank g ts) : n.DeadIn (render rank g ts) [] := by
  induction ts generalizing g with
  | nil => exact deadIn_end hn hts
  | cons t ts ih =>
    obtain ⟨s, h⟩ := t
    obtain ⟨hg, hs, htight, hrest⟩ := hts
    obtain ⟨hrank, hskips⟩ := hskip s hs
    have hword := deadIn_word hn hg (isSolid_form hs _)
      (deadIn_form hrank hskips (ts.map Prod.fst) (head_render hrest htight))
    change n.DeadIn (g ++ (_ ++ render rank h ts)) []
    rw [← List.append_assoc]
    refine .append ?_ (ih hrest)
    rw [List.append_nil]
    exact hword

end Sign

namespace RuleTable

theorem frameRows_consume : ∀ r ∈ frameRows, r.1.node.consumes = true := by
  decide

theorem frameRows_skip : ∀ r ∈ (frameRows.drop 1).take 1 ++ frameRows.drop 3,
    r.1.node.skipsGaps = true ∧
      ∀ s ∈ spelled.1, s.rank ≠ 52 ∧ isSkipped r.1.node.core 52 s = true := by
  decide +kernel

theorem frameRows_cases : ∀ r ∈ frameRows, r ∈ (frameRows.drop 1).take 1 ++ frameRows.drop 3 ∨
    ∃ ns, r.1.node = sequence (literal "__dunder" ++ ns) := by
  have hsplit : ∀ r ∈ frameRows, r ∈ (frameRows.drop 1).take 1 ++ frameRows.drop 3 ∨
      r.1.node = sequence (literal "__dunder" ++ ([someBlanks, anything, blanks] ++
        literal "__dunder")) ∨ r.1.node = sequence (literal "__dunder" ++ []) := by
    decide
  intro r hr
  exact (hsplit r hr).imp_right fun h => h.elim (fun h => ⟨_, h⟩) fun h => ⟨_, h⟩

/-- The rules behind those for operators leave a text of operators alone. -/
theorem rewrite_frameRows {g : Text} {ts : List (Sign × Text)} (hts : Placed 52 g ts) :
    frameRows.foldl (fun t r => rewrite r t) (render 52 g ts) = render 52 g ts := by
  have hdead : ∀ r ∈ frameRows, r.1.node.DeadIn (render 52 g ts) [] := by
    intro r hr
    rcases frameRows_cases r hr with hskip | ⟨ns, hnode⟩
    · obtain ⟨hgaps, hskips⟩ := frameRows_skip r hskip
      exact deadIn_render hgaps hskips hts
    · rw [hnode]
      exact (unopened_render hts).deadIn ns
  have hall : ∀ rs : List (Pattern × Action), (∀ r ∈ rs, r ∈ frameRows) →
      rs.foldl (fun t r => rewrite r t) (render 52 g ts) = render 52 g ts := by
    intro rs hrs
    induction rs with
    | nil => rfl
    | cons r rs ih =>
      have hr := hrs r List.mem_cons_self
      rw [List.foldl_cons, rewrite_eq, replaceFrom_eq_self (frameRows_consume r hr) _
        ((hdead r hr).misses none)]
      exact ih fun r' hr' => hrs r' (List.mem_cons_of_mem r hr')
  exact hall frameRows fun _ => id

end RuleTable

end Dictation
