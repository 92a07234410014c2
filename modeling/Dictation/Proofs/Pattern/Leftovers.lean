import Dictation.Proofs.Pattern.FirstWay
import Dictation.Proofs.Pattern.Scanning
/-!
# Matching the known start of a text

Often only the start of a text is known, and a pattern still cannot lead past it, because it reads
something else first. What a node can leave of a known start is computed here, unless the node may
read on behind it. Assertions are taken to hold, so that nothing is missed.
-/
namespace Dictation.Node

open Relation Text

/-- All results of a step that may fail, from each of several texts. -/
def eachLeft (step : Text → Option (List Text)) : List Text → Option (List Text)
  | [] => some []
  | t :: ts => (step t).bind fun ls => (eachLeft step ts).map (ls ++ ·)

/-- What repetitions of a step can leave; the bound is on their number. -/
def repeatedLeft (step : Text → Option (List Text)) (greedy : Bool) : Nat → Text → Option (List Text)
  | 0, _ => none
  | bound + 1, t =>
    (step t).bind fun ls => (eachLeft (repeatedLeft step greedy bound) ls).map fun ls =>
      if greedy then ls ++ [t] else t :: ls

/-- What a node can leave of a known start, in order of preference. There is no answer if it may read
on behind the start. -/
def leftovers : Node → Text → Option (List Text)
  | empty, t | assertion _, t | mark _, t => some [t]
  | set _, [] => none
  | set s, c :: t => if s.contains c then some [t] else some []
  | group _ body, t => body.leftovers t
  | seq a b, t => (a.leftovers t).bind (eachLeft b.leftovers)
  | alt a b, t => (a.leftovers t).bind fun ls => (b.leftovers t).map (ls ++ ·)
  | opt greedy body, t =>
    (body.leftovers t).map fun ls => if greedy then ls ++ [t] else t :: ls
  | star _ greedy body, t => repeatedLeft body.leftovers greedy (t.length + 1) t
  | plus _ greedy body, t =>
    (body.leftovers t).bind (eachLeft (repeatedLeft body.leftovers greedy (t.length + 1)))

theorem mem_eachLeft {step : Text → Option (List Text)} {ts ls ls' : List Text} {t l : Text}
    (h : eachLeft step ts = some ls) (ht : t ∈ ts) (hstep : step t = some ls') (hl : l ∈ ls') :
    l ∈ ls := by
  induction ts generalizing ls with
  | nil => cases ht
  | cons u ts ih =>
    obtain ⟨first, hfirst, hrest⟩ := Option.bind_eq_some_iff.mp h
    obtain ⟨rest, hmore, rfl⟩ := Option.map_eq_some_iff.mp hrest
    rcases List.mem_cons.mp ht with rfl | ht
    · rw [hstep, Option.some.injEq] at hfirst
      subst hfirst
      exact List.mem_append_left _ hl
    · exact List.mem_append_right _ (ih hmore ht)

theorem eachLeft_isSome {step : Text → Option (List Text)} {ts ls : List Text}
    (h : eachLeft step ts = some ls) {t : Text} (ht : t ∈ ts) : ∃ ls', step t = some ls' := by
  induction ts generalizing ls with
  | nil => cases ht
  | cons u ts ih =>
    obtain ⟨first, hfirst, hrest⟩ := Option.bind_eq_some_iff.mp h
    obtain ⟨rest, hmore, rfl⟩ := Option.map_eq_some_iff.mp hrest
    rcases List.mem_cons.mp ht with rfl | ht
    · exact ⟨first, hfirst⟩
    · exact ih hmore ht

/-- Whether `lead` leaves of a known start only what `step` says. -/
def LeavesOnly (lead : Cursor → Cursor → Prop) (step : Text → Option (List Text)) : Prop :=
  ∀ {c d : Cursor} {t rest : Text} {ls : List Text}, step t = some ls → c.rest = t ++ rest →
    lead c d → ∃ l ∈ ls, d.rest = l ++ rest

theorem LeavesOnly.comp {lead lead' : Cursor → Cursor → Prop}
    {step step' : Text → Option (List Text)} (h : LeavesOnly lead step)
    (h' : LeavesOnly lead' step') {c d e : Cursor} {t rest : Text} {ls : List Text}
    (hls : (step t).bind (eachLeft step') = some ls) (hc : c.rest = t ++ rest)
    (hd : lead c d) (he : lead' d e) : ∃ l ∈ ls, e.rest = l ++ rest := by
  obtain ⟨first, hfirst, hls⟩ := Option.bind_eq_some_iff.mp hls
  obtain ⟨l, hl, hdrest⟩ := h hfirst hc hd
  obtain ⟨second, hsecond⟩ := eachLeft_isSome hls hl
  obtain ⟨l', hl', herest⟩ := h' hsecond hdrest he
  exact ⟨l', mem_eachLeft hls hl hsecond hl', herest⟩

private theorem leavesOnly_rounds {lead : Cursor → Cursor → Prop}
    {step : Text → Option (List Text)} {m : Option Nat} {greedy : Bool}
    (h : LeavesOnly lead step) (bound : Nat) :
    LeavesOnly (ReflTransGen (Round lead m)) (repeatedLeft step greedy bound) := by
  intro c d t rest ls hls hc hd
  induction bound generalizing c t ls with
  | zero => cases hls
  | succ bound ih =>
    obtain ⟨first, hfirst, hls⟩ := Option.bind_eq_some_iff.mp hls
    obtain ⟨further, hfurther, rfl⟩ := Option.map_eq_some_iff.mp hls
    have hboth : ∀ l, l ∈ further ∨ l = t → l ∈ if greedy then further ++ [t] else t :: further := by
      intro l hl
      cases greedy with
      | true =>
        rw [if_pos rfl, List.mem_append, List.mem_singleton]
        exact hl
      | false =>
        rw [if_neg Bool.false_ne_true, List.mem_cons]
        exact hl.symm
    rcases ReflTransGen.cases_head hd with rfl | ⟨e, ⟨e', hlead, hpass⟩, hrounds⟩
    · exact ⟨t, hboth t (Or.inr rfl), hc⟩
    · obtain ⟨l, hl, hrest⟩ := h hfirst hc hlead
      have herest : e.rest = l ++ rest := by
        rw [← hrest, (Cursor.reads_passAny? hpass).rest_eq, List.nil_append]
      obtain ⟨last, hlast⟩ := eachLeft_isSome hfurther hl
      obtain ⟨l', hl', hdrest⟩ := ih hlast herest hrounds
      exact ⟨l', hboth l' (Or.inl (mem_eachLeft hfurther hl hlast hl')), hdrest⟩

/-- A node leaves of a known start nothing but its leftovers. -/
theorem leavesOnly_leftovers (n : Node) : LeavesOnly n.Leads n.leftovers := by
  induction n with
  | empty =>
    intro c d t rest ls hls hc hd
    cases hls
    cases hd
    exact ⟨t, List.mem_singleton_self t, hc⟩
  | assertion a =>
    intro c d t rest ls hls hc hd
    cases hls
    obtain ⟨_, rfl⟩ := hd
    exact ⟨t, List.mem_singleton_self t, hc⟩
  | mark m =>
    intro c d t rest ls hls hc hd
    cases hls
    refine ⟨t, List.mem_singleton_self t, ?_⟩
    rw [← hc, (Cursor.reads_pass? hd).rest_eq, List.nil_append]
  | set s =>
    intro c d t rest ls hls hc hd
    cases t with
    | nil => cases hls
    | cons a t =>
      obtain ⟨b, hb, hreads⟩ := Cursor.reads_consume? hd
      have hrest := hc.symm.trans hreads.rest_eq
      rw [List.cons_append, List.singleton_append, List.cons.injEq] at hrest
      obtain ⟨rfl, hrest⟩ := hrest
      unfold leftovers at hls
      rw [if_pos hb, Option.some.injEq] at hls
      subst hls
      exact ⟨t, List.mem_singleton_self t, hrest.symm⟩
  | group i body ih =>
    intro c d t rest ls hls hc hd
    obtain ⟨e, hlead, rfl⟩ := hd
    have hleft := ih hls hc hlead
    exact hleft
  | seq a b iha ihb =>
    intro c d t rest ls hls hc hd
    obtain ⟨e, ha, hb⟩ := hd
    exact iha.comp ihb hls hc ha hb
  | alt a b iha ihb =>
    intro c d t rest ls hls hc hd
    obtain ⟨first, hfirst, hls⟩ := Option.bind_eq_some_iff.mp hls
    obtain ⟨second, hsecond, rfl⟩ := Option.map_eq_some_iff.mp hls
    rcases hd with hd | hd
    · obtain ⟨l, hl, hrest⟩ := iha hfirst hc hd
      exact ⟨l, List.mem_append_left _ hl, hrest⟩
    · obtain ⟨l, hl, hrest⟩ := ihb hsecond hc hd
      exact ⟨l, List.mem_append_right _ hl, hrest⟩
  | opt greedy body ih =>
    intro c d t rest ls hls hc hd
    obtain ⟨further, hfurther, rfl⟩ := Option.map_eq_some_iff.mp hls
    have hboth : ∀ l, l ∈ further ∨ l = t → l ∈ if greedy then further ++ [t] else t :: further := by
      intro l hl
      cases greedy with
      | true =>
        rw [if_pos rfl, List.mem_append, List.mem_singleton]
        exact hl
      | false =>
        rw [if_neg Bool.false_ne_true, List.mem_cons]
        exact hl.symm
    rcases hd with rfl | hd
    · exact ⟨t, hboth t (Or.inr rfl), hc⟩
    · obtain ⟨l, hl, hrest⟩ := ih hfurther hc hd
      exact ⟨l, hboth l (Or.inl hl), hrest⟩
  | star m greedy body ih =>
    intro c d t rest ls hls hc hd
    obtain ⟨e, hpass, hrounds⟩ := hd
    have herest : e.rest = t ++ rest := by
      rw [← hc, (Cursor.reads_passAny? hpass).rest_eq, List.nil_append]
    exact leavesOnly_rounds ih _ hls herest hrounds
  | plus m greedy body ih =>
    intro c d t rest ls hls hc hd
    obtain ⟨e, ⟨e', hlead, hpass⟩, hrounds⟩ := TransGen.head'_iff.mp hd
    have hround : LeavesOnly (Round body.Leads m) body.leftovers := by
      intro c d t rest ls hls hc ⟨e, hlead, hpass⟩
      obtain ⟨l, hl, hrest⟩ := ih hls hc hlead
      refine ⟨l, hl, ?_⟩
      rw [← hrest, (Cursor.reads_passAny? hpass).rest_eq, List.nil_append]
    exact hround.comp (leavesOnly_rounds ih _) hls hc ⟨e', hlead, hpass⟩ hrounds

theorem not_leads_of_leftovers {n : Node} {t : Text} (h : n.leftovers t = some []) {c : Cursor}
    {rest : Text} (hc : c.rest = t ++ rest) (d : Cursor) : ¬ n.Leads c d := by
  intro hd
  obtain ⟨l, hl, _⟩ := leavesOnly_leftovers n h hc hd
  exact absurd hl List.not_mem_nil

end Dictation.Node
