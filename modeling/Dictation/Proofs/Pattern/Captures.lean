import Dictation.Proofs.Pattern.Takes
/-!
# What a pattern remembers

The same as for what a pattern takes first, together with the texts of its groups and the character
that stands before it.
-/
namespace Dictation

open Text

theorem boundary_before {b : Option Char} (hb : ∀ a ∈ b, isWordChar a = false) {t : Text}
    (ht : ∃ a ∈ t.head?, isWordChar a = true) : Assertion.holds (.boundary .unicode) b t = true := by
  obtain ⟨a, ha, hword⟩ := ht
  rw [Option.mem_def] at ha
  unfold Assertion.holds
  cases b with
  | none => simp [WordRule.holds, ha, hword]
  | some c => simp [WordRule.holds, ha, hword, hb c rfl]

theorem boundary_behind {b : Option Char} (hb : ∃ a ∈ b, isWordChar a = true) {t : Text}
    (ht : ∀ a ∈ t.head?, isWordChar a = false) :
    Assertion.holds (.boundary .unicode) b t = true := by
  obtain ⟨a, rfl, hword⟩ := hb
  unfold Assertion.holds
  cases hhead : t.head? with
  | none => simp [WordRule.holds, hword]
  | some c => simp [WordRule.holds, hword, ht c hhead]

namespace Node

/-- Whether a node behind `before` reads `x` before `rest`, remembers the texts of groups and goes on
there, unless it would fail later. -/
def Captures (n : Node) (before : Option Char) (x : Text) (groups : List (Nat × Text)) (rest : Text) :
    Prop :=
  ∀ (α : Type) (k : Cursor → Option α) (c : Cursor) (r : α), c.before = before → c.rest = x ++ rest →
    c.passed = [] → k ((c.past x rest).holding (groups ++ c.groups)) = some r → n.run k c = some r

namespace Captures

variable {m n : Node} {before : Option Char} {x y rest : Text} {gs hs : List (Nat × Text)}

theorem of_takes (h : n.Takes x rest) (before : Option Char) : n.Captures before x [] rest :=
  fun α k c r _ hc hp hk => h α k c r hc hp hk

theorem seq (hm : m.Captures before x gs (y ++ rest)) (hn : n.Captures (lastOf before x) y hs rest) :
    (seq m n).Captures before (x ++ y) (hs ++ gs) rest := by
  intro α k c r hb hc hp hk
  rw [run_seq]
  refine hm α _ c r hb (by rw [hc, List.append_assoc]) hp (hn α _ _ r (congrArg (lastOf · x) hb) rfl rfl ?_)
  rw [Cursor.holding_past, Cursor.past_past]
  rw [List.append_assoc] at hk
  exact hk

theorem sequence_cons {ns : List Node} (hm : m.Captures before x gs (y ++ rest))
    (hns : (sequence ns).Captures (lastOf before x) y hs rest) :
    (sequence (m :: ns)).Captures before (x ++ y) (hs ++ gs) rest := by
  intro α k c r hb hc hp hk
  rw [run_sequence_cons]
  exact seq hm hns α k c r hb hc hp hk

theorem sequence_append {ms ns : List Node} (hms : (sequence ms).Captures before x gs (y ++ rest))
    (hns : (sequence ns).Captures (lastOf before x) y hs rest) :
    (sequence (ms ++ ns)).Captures before (x ++ y) (hs ++ gs) rest := by
  intro α k c r hb hc hp hk
  rw [run_sequence_append]
  exact seq hms hns α k c r hb hc hp hk

theorem group (h : n.Captures before x gs rest) (i : Nat) :
    (Node.group i n).Captures before x ((i, x) :: gs) rest := by
  intro α k c r hb hc hp hk
  rw [run_group]
  refine h α _ c r hb hc hp ?_
  rw [← hk]
  unfold Cursor.remember
  congr 2
  exact congrArg (fun t => (i, t) :: (gs ++ c.groups)) (Cursor.textTo_past hc)

theorem left (h : m.Captures before x gs rest) : (alt m n).Captures before x gs rest := by
  intro α k c r hb hc hp hk
  rw [run_alt, h α k c r hb hc hp hk, Option.some_or]

theorem right (hm : m.unmarked = true) (hdead : m.Dead (x ++ rest)) (hn : n.Captures before x gs rest) :
    (alt m n).Captures before x gs rest := by
  intro α k c r hb hc hp hk
  rw [run_alt, run_eq_none hm fun d => hdead c d hc, Option.none_or]
  exact hn α k c r hb hc hp hk

theorem assertion {a : Assertion} (h : a.holds before rest = true) :
    (Node.assertion a).Captures before [] [] rest := by
  intro α k c r hb hc hp hk
  have hpast : c.past [] rest = c := Cursor.past_nil hc hp
  rw [hpast] at hk
  rw [run_assertion, hb, hc]
  exact (if_pos h).trans hk

theorem repeatAgain_set {s : CharSet} {greedy : Bool} {α : Type} {k : Cursor → Option α} {c : Cursor}
    {a : Char} {t : Text} (hc : c.rest = a :: t) (ha : s.contains a = true) :
    repeatAgain (set s).run greedy k c = repeatFrom (set s).run greedy k (c.past [a] t) := by
  unfold repeatAgain
  rw [run_set, Cursor.consume?_past hc, if_pos ha, Option.bind_some]
  exact if_pos (by rw [hc]; exact Nat.lt_succ_self _)

section
variable {s : CharSet} {ns : List Node} (hall : ∀ a ∈ y, s.contains a = true)
  (hns : (sequence ns).unmarked = true) (hdead : (sequence ns).DeadIn y (x ++ rest))
  (hx : (sequence ns).Captures (lastOf before y) x gs rest)
include hall hns hdead hx

/-- Behind a part of the least stretch, what follows can match only if nothing of the stretch is left. -/
theorem repeatFrom_least {i : Nat} {α : Type} {k : Cursor → Option α} {c : Cursor} {r : α}
    (hb : c.before = before) (hc : c.rest = y ++ (x ++ rest))
    (hk : k ((c.past (y ++ x) rest).holding (gs ++ (i, y) :: c.groups)) = some r) (u v : Text)
    (huv : y = u ++ v) :
    repeatFrom (set s).run false (fun d => (sequence ns).run k (Cursor.remember i c d))
      (c.past u (v ++ (x ++ rest))) = some r := by
  generalize hk' : (fun d => (sequence ns).run k (Cursor.remember i c d)) = k'
  induction v generalizing u with
  | nil =>
    rw [List.append_nil] at huv
    subst huv
    rw [repeatFrom_eq, if_neg Bool.false_ne_true, ← hk']
    refine Option.or_eq_some_iff.mpr (.inl ?_)
    change (sequence ns).run k (Cursor.remember i c (c.past y (x ++ rest))) = some r
    rw [Cursor.remember_past i hc]
    refine hx α k _ r (congrArg (lastOf · y) hb) rfl rfl ?_
    rw [Cursor.holding_past, Cursor.past_past]
    exact hk
  | cons a v ih =>
    have hnone : k' (c.past u ((a :: v) ++ (x ++ rest))) = none := by
      rw [← hk']
      exact run_eq_none hns fun d => hdead u a v huv _ d rfl
    have ha : s.contains a = true := hall a (by rw [huv]; exact List.mem_append_right u List.mem_cons_self)
    have hmore := ih (u ++ [a]) (by rw [huv, List.append_assoc]; rfl)
    rw [repeatFrom_eq, if_neg Bool.false_ne_true, hnone, Option.none_or,
      repeatAgain_set (t := v ++ (x ++ rest)) rfl ha, Cursor.past_past]
    exact hmore

theorem leastAny (i : Nat) :
    (sequence (Node.group i (star none false (set s)) :: ns)).Captures before (y ++ x) (gs ++ [(i, y)])
      rest := by
  intro α k c r hb hc hp hk
  rw [run_sequence_cons, run_group]
  rw [List.append_assoc] at hc hk
  have hstart := repeatFrom_least hall hns hdead hx hb hc hk [] y rfl
  rwa [Cursor.past_nil hc hp] at hstart

end

theorem least {i : Nat} {s : CharSet} {ns : List Node} (hy : y ≠ [])
    (hall : ∀ a ∈ y, s.contains a = true) (hns : (sequence ns).unmarked = true)
    (hdead : (sequence ns).DeadIn y (x ++ rest)) (hx : (sequence ns).Captures (lastOf before y) x gs rest) :
    (sequence (Node.group i (plus none false (set s)) :: ns)).Captures before (y ++ x) (gs ++ [(i, y)])
      rest := by
  intro α k c r hb hc hp hk
  rw [run_sequence_cons, run_group]
  rw [List.append_assoc] at hc hk
  obtain ⟨a, v, rfl⟩ := List.exists_cons_of_ne_nil hy
  change repeatAgain (set s).run false _ c = some r
  rw [repeatAgain_set hc (hall a List.mem_cons_self)]
  exact repeatFrom_least hall hns hdead hx hb hc hk [a] v rfl

theorem matchAt? (hn : n.unmarked = true) (h : n.Captures before x gs rest) :
    n.matchAt? before (x ++ rest) = some ⟨x, gs⟩ := by
  refine matchAt?_of_run hn (h _ some _ _ rfl rfl rfl ?_)
  rw [show (Cursor.start before (x ++ rest)).groups = [] from rfl, List.append_nil]

end Captures

end Node

end Dictation
