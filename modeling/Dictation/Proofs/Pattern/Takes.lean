import Dictation.Proofs.Pattern.Evaluation
import Dictation.Proofs.Pattern.Refutation
/-!
# What a pattern takes first

A pattern takes a stretch of text before some rest if its first choice is to read the stretch and to
go on behind it. A repetition takes one stretch after the other, as long as each of them is taken and
nothing is to be taken at the end.
-/
namespace Dictation.Node

open Text

/-- Whether a node reads `x` before `rest` and goes on there, unless it would fail later. -/
def Takes (n : Node) (x rest : Text) : Prop :=
  ∀ (α : Type) (k : Cursor → Option α) (c : Cursor) (r : α), c.rest = x ++ rest → c.passed = [] →
    k (c.past x rest) = some r → n.run k c = some r

namespace Takes

variable {a b n : Node} {x y rest : Text}

theorem seq (ha : a.Takes x (y ++ rest)) (hb : b.Takes y rest) : (seq a b).Takes (x ++ y) rest := by
  intro α k c r hc hp hk
  rw [run_seq]
  refine ha α _ c r (by rw [hc, List.append_assoc]) hp (hb α _ _ r rfl rfl ?_)
  rw [Cursor.past_past]
  exact hk

theorem sequence_append {ms ns : List Node} (hms : (sequence ms).Takes x (y ++ rest))
    (hns : (sequence ns).Takes y rest) : (sequence (ms ++ ns)).Takes (x ++ y) rest := by
  intro α k c r hc hp hk
  rw [run_sequence_append]
  refine hms α _ c r (by rw [hc, List.append_assoc]) hp (hns α _ _ r rfl rfl ?_)
  rw [Cursor.past_past]
  exact hk

theorem left (ha : a.Takes x rest) : (alt a b).Takes x rest := by
  intro α k c r hc hp hk
  rw [run_alt, ha α k c r hc hp hk, Option.some_or]

theorem right (ha : a.unmarked = true) (hdead : a.Dead (x ++ rest)) (hb : b.Takes x rest) :
    (alt a b).Takes x rest := by
  intro α k c r hc hp hk
  rw [run_alt, run_eq_none ha fun d => hdead c d hc, Option.none_or]
  exact hb α k c r hc hp hk

theorem of_leftovers (hn : n.plain = true) (h : n.leftovers x = some [[]]) (rest : Text) :
    n.Takes x rest :=
  fun _ _ _ _ hc hp hk => run_of_leftovers hn h hc hp hk

theorem one {s : CharSet} {c : Char} (h : s.contains c = true) (rest : Text) :
    (set s).Takes [c] rest := by
  intro α k d r hd _ hk
  rw [run_set, Cursor.consume?_past hd, if_pos h, Option.bind_some]
  exact hk

theorem many {s : CharSet} (hne : x ≠ []) (hx : ∀ a ∈ x, s.contains a = true)
    (hrest : ∀ a ∈ rest.head?, s.contains a = false) : (plus none true (set s)).Takes x rest :=
  fun _ _ _ _ hc _ hk => run_plus_set hne hx hrest hc hk

theorem any {s : CharSet} (hx : ∀ a ∈ x, s.contains a = true)
    (hrest : ∀ a ∈ rest.head?, s.contains a = false) : (star none true (set s)).Takes x rest :=
  fun _ _ _ _ hc hp hk => run_star_set hx hrest hc hp hk

end Takes

theorem length_lt_append {x : Text} (hx : x ≠ []) (y : Text) : y.length < (x ++ y).length := by
  rw [List.length_append]
  exact Nat.lt_add_of_pos_left (List.length_pos_iff.mpr hx)

section
variable {β : Type} {body : Node} (hbody : body.unmarked = true) {text : β → Text} {rest : Text}
  (hdead : body.Dead rest) (hne : ∀ i, text i ≠ [])
include hbody hdead hne

theorem takes_star {is : List β}
    (htakes : ∀ i js, i :: js <:+ is → body.Takes (text i) (js.flatMap text ++ rest)) :
    (star none true body).Takes (is.flatMap text) rest := by
  intro α k c r hc hp hk
  change repeatFrom body.run true k c = some r
  induction is generalizing c with
  | nil =>
    rw [List.flatMap_nil, List.nil_append] at hc
    rw [List.flatMap_nil, Cursor.past_nil hc hp] at hk
    have hnone : repeatAgain body.run true k c = none := run_eq_none hbody fun d => hdead c d hc
    rw [repeatFrom_eq, if_pos rfl, hnone, hk]
    rfl
  | cons i is ih =>
    rw [List.flatMap_cons, List.append_assoc] at hc
    have hshorter : (c.past (text i) (is.flatMap text ++ rest)).rest.length < c.rest.length :=
      hc ▸ length_lt_append (hne i) _
    have hagain : repeatAgain body.run true k c = some r := by
      refine htakes i is (List.suffix_refl _) α _ c r hc hp ((if_pos hshorter).trans ?_)
      refine ih (fun j js hjs => htakes j js (hjs.trans (List.suffix_cons i is)))
        (c.past (text i) (is.flatMap text ++ rest)) rfl rfl ?_
      rw [Cursor.past_past]
      exact hk
    rw [repeatFrom_eq, if_pos rfl, hagain, Option.some_or]

theorem takes_plus {i : β} {is : List β}
    (htakes : ∀ j js, j :: js <:+ i :: is → body.Takes (text j) (js.flatMap text ++ rest)) :
    (plus none true body).Takes ((i :: is).flatMap text) rest := by
  intro α k c r hc hp hk
  change repeatAgain body.run true k c = some r
  rw [List.flatMap_cons, List.append_assoc] at hc
  have hshorter : (c.past (text i) (is.flatMap text ++ rest)).rest.length < c.rest.length :=
    hc ▸ length_lt_append (hne i) _
  refine htakes i is (List.suffix_refl _) α _ c r hc hp ((if_pos hshorter).trans ?_)
  refine takes_star hbody hdead hne (fun j js hjs => htakes j js (hjs.trans (List.suffix_cons i is)))
    α _ _ r rfl rfl ?_
  rw [Cursor.past_past]
  exact hk

end

/-- Whether every way through a node begins with a character of a set. -/
def Begins (n : Node) (s : CharSet) : Prop :=
  ∀ c d : Cursor, n.Leads c d → ∃ a ∈ c.rest.head?, s.contains a = true

namespace Begins

variable {a b n : Node} {s : CharSet}

theorem set (s : CharSet) : (set s).Begins s := by
  intro c d h
  obtain ⟨a, ha, hreads⟩ := Cursor.reads_consume? h
  exact ⟨a, by rw [hreads.rest_eq]; rfl, ha⟩

theorem seq (h : a.Begins s) : (Node.seq a b).Begins s := fun _ _ ⟨_, ha, _⟩ => h _ _ ha

theorem group (h : n.Begins s) (i : Nat) : (Node.group i n).Begins s := fun _ _ ⟨_, hn, _⟩ => h _ _ hn

theorem plus (h : n.Begins s) (m : Option Nat) (greedy : Bool) :
    (Node.plus m greedy n).Begins s := by
  intro c d hd
  obtain ⟨_, ⟨_, hn, _⟩, _⟩ := Relation.TransGen.head'_iff.mp hd
  exact h _ _ hn

theorem dead (h : n.Begins s) {t : Text} (ht : ∀ a ∈ t.head?, s.contains a = false) : n.Dead t := by
  intro c d hc hd
  obtain ⟨a, ha, hs⟩ := h _ _ hd
  rw [ht a (hc ▸ ha)] at hs
  cases hs

theorem deadIn (h : n.Begins s) {x : Text} (hx : ∀ a ∈ x, s.contains a = false) (rest : Text) :
    n.DeadIn x rest := by
  intro y a z hyz
  refine h.dead fun b hb => ?_
  cases hb
  exact hx a (by rw [hyz]; exact List.mem_append_right y List.mem_cons_self)

/-- With white space before it, it leads nowhere where white space ends before another character. -/
theorem dead_behind_blanks (h : n.Begins s) {g t : Text} (hg : ∀ a ∈ g, s.contains a = false)
    (hblank : ∀ a ∈ t.head?, Unicode.isBlank a = false) (ht : ∀ a ∈ t.head?, s.contains a = false) :
    (Node.seq (Node.plus none true (Node.set .space)) n).Dead (g ++ t) := by
  rintro c d hc ⟨e, hblanks, hn⟩
  obtain ⟨x, _, hx, hall⟩ := hblanks.reads_plus_set
  obtain ⟨a, ha, hs⟩ := h _ _ hn
  have heq := hx.rest_eq
  rw [hc] at heq
  rcases List.append_eq_append_iff.mp heq with ⟨z, hxz, htz⟩ | ⟨z, hgz, htz⟩
  · cases z with
    | nil =>
      rw [ht a (by rwa [htz])] at hs
      cases hs
    | cons b z =>
      have hb : Unicode.isBlank b = true :=
        hall b (by rw [hxz]; exact List.mem_append_right g List.mem_cons_self)
      rw [hblank b (by rw [htz]; rfl)] at hb
      cases hb
  · cases z with
    | nil =>
      rw [ht a (by rwa [htz] at ha)] at hs
      cases hs
    | cons b z =>
      rw [htz] at ha
      cases ha
      rw [hg a (by rw [hgz]; exact List.mem_append_right x List.mem_cons_self)] at hs
      cases hs

end Begins

end Dictation.Node
