import Dictation.Proofs.Pattern.AllWays
import Dictation.Proofs.Pattern.Splicing
/-!
# Marks of compiled patterns

A node as it is read has no marks, and its stars repeat only what consumes. Marks are numbered as they are set, so
each stands at one point only, and a repetition that is left without one consumes. So the search through a compiled
pattern finds all that the pattern matches.
-/
namespace Dictation

namespace Node

/-- Whether a node has no points for marks yet, and its stars repeat only what consumes. -/
def Bare : Node → Prop
  | empty | set _ | assertion _ => True
  | mark _ => False
  | group _ body | opt _ body | plus _ _ body => body.Bare
  | seq a b | alt a b => a.Bare ∧ b.Bare
  | star _ _ body => body.consumes = true ∧ body.Bare

/-- Whether the marks of a node are different numbers from `first` on and below `next`, and guard its repetitions. -/
structure Numbered (n : Node) (first next : Nat) : Prop where
  le : first ≤ next
  between : ∀ k ∈ n.marks, first ≤ k ∧ k < next
  nodup : n.marks.Nodup
  guarded : n.Guarded

namespace Numbered

variable {n n' : Node} {i j k : Nat}

theorem of_marks_eq_nil (hmarks : n.marks = []) (hn : n.Guarded) (k : Nat) : n.Numbered k k :=
  ⟨Nat.le_refl k, fun _ hk => (List.not_mem_nil (hmarks ▸ hk)).elim, hmarks ▸ List.nodup_nil, hn⟩

theorem of_marks_eq (h : n.Numbered i j) (hmarks : n'.marks = n.marks) (hn : n'.Guarded) : n'.Numbered i j :=
  ⟨h.le, hmarks ▸ h.between, hmarks ▸ h.nodup, hn⟩

theorem of_marks_eq_cons (h : n.Numbered i j) (hmarks : n'.marks = j :: n.marks) (hn : n'.Guarded) :
    n'.Numbered i (j + 1) where
  le := Nat.le_succ_of_le h.le
  between k hk := by
    rcases List.mem_cons.mp (hmarks ▸ hk) with rfl | hk
    · exact ⟨h.le, Nat.lt_succ_self k⟩
    · exact ⟨(h.between k hk).1, Nat.lt_succ_of_lt (h.between k hk).2⟩
  nodup := by
    rw [hmarks]
    exact List.nodup_cons.mpr ⟨fun hj => Nat.lt_irrefl j (h.between j hj).2, h.nodup⟩
  guarded := hn

theorem of_marks_eq_append {m : Node} (h : n.Numbered i j) (h' : n'.Numbered j k)
    (hmarks : m.marks = n.marks ++ n'.marks) (hm : m.Guarded) : m.Numbered i k where
  le := Nat.le_trans h.le h'.le
  between l hl := by
    rcases List.mem_append.mp (hmarks ▸ hl) with hl | hl
    · exact ⟨(h.between l hl).1, Nat.lt_of_lt_of_le (h.between l hl).2 h'.le⟩
    · exact ⟨Nat.le_trans h.le (h'.between l hl).1, (h'.between l hl).2⟩
  nodup := by
    rw [hmarks]
    refine List.nodup_append.mpr ⟨h.nodup, h'.nodup, fun a ha b hb => ?_⟩
    exact Nat.ne_of_lt (Nat.lt_of_lt_of_le (h.between a ha).2 (h'.between b hb).1)
  guarded := hm

theorem seq (h : n.Numbered i j) (h' : n'.Numbered j k) : (Node.seq n n').Numbered i k :=
  h.of_marks_eq_append h' rfl ⟨h.guarded, h'.guarded⟩

theorem alt (h : n.Numbered i j) (h' : n'.Numbered j k) : (Node.alt n n').Numbered i k :=
  h.of_marks_eq_append h' rfl ⟨h.guarded, h'.guarded⟩

theorem mark (k : Nat) : (Node.mark k).Numbered k (k + 1) :=
  (of_marks_eq_nil (n := .empty) rfl trivial k).of_marks_eq_cons rfl trivial

theorem marked (h : n.Numbered i j) : (n.marked j).1.Numbered i (n.marked j).2 :=
  h.of_marks_eq_cons rfl ⟨trivial, h.guarded⟩

end Numbered

theorem consumes_withMarks (n : Node) (inside : Bool) (next : Nat) :
    (n.withMarks inside next).1.consumes = n.consumes := by
  induction n generalizing inside next with
  | empty | set _ | mark _ => rfl
  | assertion a => cases inside <;> rfl
  | group i body ih => cases inside <;> simp [withMarks, marked, consumes, ih]
  | seq a b iha ihb => simp [withMarks, consumes, iha, ihb]
  | alt a b iha ihb => cases inside <;> simp [withMarks, marked, consumes, iha, ihb]
  | opt greedy body ih => cases inside <;> simp [withMarks, marked, consumes]
  | star m greedy body ih => cases inside <;> rfl
  | plus m greedy body ih => cases inside <;> simp only [withMarks] <;> split <;> simp [consumes, ih]

theorem numbered_withMarks {n : Node} (hn : n.Bare) (inside : Bool) (next : Nat) :
    (n.withMarks inside next).1.Numbered next (n.withMarks inside next).2 := by
  induction n generalizing inside next with
  | empty => exact .of_marks_eq_nil (n := empty) rfl trivial next
  | set s => exact .of_marks_eq_nil (n := set s) rfl trivial next
  | mark _ => exact hn.elim
  | assertion a =>
    have hplain := Numbered.of_marks_eq_nil (n := assertion a) rfl trivial next
    cases inside with
    | true => exact hplain.marked
    | false => exact hplain
  | group i body ih =>
    have hplain : (group i (body.withMarks inside next).1).Numbered _ _ :=
      (ih hn inside next).of_marks_eq rfl (ih hn inside next).guarded
    cases inside with
    | true => exact hplain.marked.seq (.mark _)
    | false => exact hplain
  | seq a b iha ihb => exact (iha hn.1 inside next).seq (ihb hn.2 inside _)
  | alt a b iha ihb =>
    have hplain := (iha hn.1 inside next).alt (ihb hn.2 inside _)
    cases inside with
    | true => exact hplain.marked
    | false => exact hplain
  | opt greedy body ih =>
    have hplain : (opt greedy (body.withMarks inside next).1).Numbered _ _ :=
      (ih hn inside next).of_marks_eq rfl (ih hn inside next).guarded
    cases inside with
    | true => exact hplain.marked
    | false => exact hplain
  | star m greedy body ih =>
    have hbody := ih hn.2 inside next
    cases inside with
    | true => exact hbody.of_marks_eq_cons rfl ⟨nofun, hbody.guarded⟩
    | false => exact hbody.of_marks_eq rfl ⟨fun _ => (consumes_withMarks ..).trans hn.1, hbody.guarded⟩
  | plus m greedy body ih =>
    have hbody := ih hn (inside || !body.consumes) next
    rw [withMarks]
    cases hinside : inside || !body.consumes with
    | true =>
      rw [hinside] at hbody
      exact hbody.of_marks_eq_cons rfl ⟨nofun, hbody.guarded⟩
    | false =>
      rw [hinside] at hbody
      have hconsumes : body.consumes = true := by
        have hnot : (!body.consumes) = false := (Bool.or_eq_false_iff.mp hinside).2
        simpa using hnot
      exact hbody.of_marks_eq rfl ⟨fun _ => (consumes_withMarks ..).trans hconsumes, hbody.guarded⟩

theorem bare_sequence {ns : List Node} (h : ∀ n ∈ ns, n.Bare) : (sequence ns).Bare := by
  induction ns with
  | nil => trivial
  | cons n ns ih =>
    cases ns with
    | nil => exact h n List.mem_cons_self
    | cons => exact ⟨h n List.mem_cons_self, ih fun m hm => h m (List.mem_cons_of_mem n hm)⟩

theorem bare_alternatives {ns : List Node} (h : ∀ n ∈ ns, n.Bare) : (alternatives ns).Bare := by
  induction ns with
  | nil => trivial
  | cons n ns ih =>
    cases ns with
    | nil => exact h n List.mem_cons_self
    | cons => exact ⟨h n List.mem_cons_self, ih fun m hm => h m (List.mem_cons_of_mem n hm)⟩

namespace Bare

variable {body : Node} (h : body.Bare)
include h

theorem copies (n : Nat) : (body.copies n).Bare := bare_sequence fun _ hm => List.eq_of_mem_replicate hm ▸ h

theorem atMost (greedy : Bool) (n : Nat) : (body.atMost greedy n).Bare := by
  induction n with
  | zero => trivial
  | succ n ih =>
    cases n with
    | zero => exact h
    | succ n => exact ⟨h, ih⟩

theorem many (greedy : Bool) : (body.many greedy).Bare := by
  unfold Node.many
  split
  case isTrue hconsumes => exact ⟨hconsumes, h⟩
  case isFalse => exact h

theorem atLeast (greedy : Bool) (n : Nat) : (body.atLeast greedy n).Bare := by
  match n with
  | 0 => exact h.many greedy
  | 1 => exact h
  | n + 2 => exact ⟨h.copies _, h⟩

theorem between (greedy : Bool) (least most : Nat) : (body.between greedy least most).Bare := by
  unfold Node.between
  split
  · exact h.copies least
  · split
    · exact h.atMost greedy most
    · exact ⟨h.copies least, h.atMost greedy _⟩

theorem repeated (greedy : Bool) (least : Nat) (most : Option Nat) : (body.repeated greedy least most).Bare := by
  unfold Node.repeated
  split
  split
  · exact h.between greedy _ _
  · exact h.atLeast greedy _

end Bare

end Node

namespace Reader

variable {α β : Type} {P : α → Prop} {Q : β → Prop}

/-- Whether all that is read has a property. -/
def Gives (x : Reader α) (P : α → Prop) : Prop := ∀ (r : Reading) (a : α) (r' : Reading), x r = some (a, r') → P a

theorem gives_pure {a : α} (h : P a) : Gives (pure a) P := by
  intro r b r' hr
  cases hr
  exact h

theorem gives_fail : Gives fail P := by
  intro r b r' hr
  cases hr

theorem Gives.bind {x : Reader α} {f : α → Reader β} (h : Gives x P) (hf : ∀ a, P a → Gives (f a) Q) :
    Gives (x >>= f) Q := by
  intro r b r' hr
  obtain ⟨a, m, hx, hfm⟩ := bind_eq_some hr
  exact hf a (h r a m hx) m b r' hfm

theorem gives_bind {x : Reader α} {f : α → Reader β} (hf : ∀ a, Gives (f a) Q) : Gives (x >>= f) Q :=
  Gives.bind (P := fun _ => True) (fun _ _ _ _ => trivial) fun a _ => hf a

end Reader

namespace Pattern

open Reader

theorem gives_readRepetition {n : Node} (hn : n.Bare) : Gives (readRepetition n) Node.Bare := by
  refine gives_bind fun c => ?_
  split
  case h_4 => exact gives_bind fun _ => gives_bind fun _ => gives_bind fun _ => gives_pure (hn.repeated _ _ _)
  all_goals exact gives_bind fun _ => gives_bind fun _ => gives_pure (hn.repeated _ _ _)

theorem gives_readPrimitive : Gives readPrimitive Node.Bare := by
  refine gives_bind fun c => gives_bind fun f => ?_
  split
  · refine gives_bind fun p => ?_
    cases p <;> exact gives_pure trivial
  · exact gives_bind fun _ => gives_pure trivial
  all_goals exact gives_pure trivial

/-- Whether the nodes of branches are bare. -/
structure Branches.Bare (b : Branches) : Prop where
  finished : ∀ n ∈ b.finished, n.Bare
  current : ∀ n, .node n ∈ b.current → n.Bare

theorem Branches.bare_empty : Branches.empty.Bare :=
  ⟨fun _ hn => absurd hn List.not_mem_nil, fun _ hn => absurd hn List.not_mem_nil⟩

namespace Branches.Bare

variable {b : Branches} (h : b.Bare)
include h

theorem push_node {n : Node} (hn : n.Bare) : (b.push (.node n)).Bare where
  finished := h.finished
  current m hm := by
    rcases List.mem_cons.mp hm with hm | hm
    · cases hm
      exact hn
    · exact h.current m hm

theorem push_flags : (b.push .flags).Bare where
  finished := h.finished
  current m hm := h.current m ((List.mem_cons.mp hm).resolve_left nofun)

theorem cut : b.cut.Bare where
  finished n hn := by
    rcases List.mem_cons.mp hn with rfl | hn
    · refine Node.bare_sequence fun m hm => ?_
      obtain ⟨i, hi, hnode⟩ := List.mem_filterMap.mp hm
      cases i with
      | flags => cases hnode
      | node n =>
        cases hnode
        exact h.current m (List.mem_reverse.mp hi)
    · exact h.finished n hn
  current := nofun

theorem node : b.node.Bare := Node.bare_alternatives fun n hn => h.cut.finished n (List.mem_reverse.mp hn)

end Branches.Bare

theorem gives_readBranches (bound : Nat) {b : Branches} (hb : b.Bare) : Gives (readBranches bound b) Node.Bare := by
  induction bound generalizing b with
  | zero => exact gives_fail
  | succ bound ih =>
    rw [readBranches]
    refine gives_bind fun _ => gives_bind fun c => ?_
    split
    · exact gives_pure hb.node
    · exact gives_pure hb.node
    · exact gives_bind fun _ => ih hb.cut
    · refine gives_bind fun outer => gives_bind fun opening => ?_
      cases opening with
      | flags f => exact gives_bind fun _ => ih hb.push_flags
      | group index f =>
        refine gives_bind fun _ => (ih Branches.bare_empty).bind fun body hbody => ?_
        refine gives_bind fun _ => gives_bind fun _ => ih (hb.push_node ?_)
        cases index <;> exact hbody
    · exact gives_bind fun s => ih (hb.push_node trivial)
    · split
      · split
        case h_1 n current hcurrent =>
          have hn : n.Bare := hb.current n (hcurrent ▸ List.mem_cons_self)
          refine (gives_readRepetition hn).bind fun m hm => ih ⟨hb.finished, fun l hl => ?_⟩
          rcases List.mem_cons.mp hl with hl | hl
          · cases hl
            exact hm
          · exact hb.current l (hcurrent ▸ List.mem_cons_of_mem _ hl)
        case h_2 => exact gives_fail
      · exact gives_readPrimitive.bind fun n hn => ih (hb.push_node hn)

/-- Through a compiled pattern the ways to the end of a text are found exactly if the whole text matches. -/
theorem exists_way_iff_matches {f : Flags} {t : Text} {p : Pattern} (h : compile? f t = some p) (before : Option Char)
    (c : Text) : (∃ d ∈ p.node.ways [Cursor.start before c], d.rest = []) ↔ p.node.Matches before c [] := by
  obtain ⟨n, r, hread, _, hnode⟩ := exists_of_compile? h
  have hbare : n.Bare := gives_readBranches _ Branches.bare_empty _ _ _ hread
  have hnumbered := Node.numbered_withMarks hbare false 0
  rw [← hnode] at hnumbered
  exact Node.exists_way_iff hnumbered.nodup hnumbered.guarded before c

end Pattern

end Dictation
