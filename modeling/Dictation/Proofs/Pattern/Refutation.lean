import Dictation.Proofs.Pattern.Leftovers
/-!
# Ruling out matches

Reasons why a pattern matches nowhere in a stretch of text: it has to read a character that the text
lacks, or at each place it reads something else than what stands there. Often one has to look one
character beyond the stretch, of which only a few possibilities are known.
-/
namespace Dictation.Node

open Text Relation

/-- A node leads nowhere from a place that `t` follows. -/
def Dead (n : Node) (t : Text) : Prop := ∀ c d : Cursor, c.rest = t → ¬ n.Leads c d

/-- A node leads nowhere from any place of the stretch `x` before `rest`. -/
def DeadIn (n : Node) (x rest : Text) : Prop :=
  ∀ y c z, x = y ++ c :: z → n.Dead (c :: (z ++ rest))

theorem Dead.matchAt? {n : Node} {t : Text} (h : n.Dead t) (before : Option Char) :
    n.matchAt? before t = none :=
  matchAt?_eq_none fun d => h _ d rfl

theorem DeadIn.misses {n : Node} {x rest : Text} (h : n.DeadIn x rest) (before : Option Char) :
    n.Misses before x rest :=
  fun y c z hx => (h y c z hx).matchAt? _

theorem deadIn_nil (n : Node) (rest : Text) : n.DeadIn [] rest := by
  intro y c z h
  exact absurd h.symm (List.append_ne_nil_of_right_ne_nil y (List.cons_ne_nil c z))

theorem deadIn_cons_iff {n : Node} {c : Char} {x rest : Text} :
    n.DeadIn (c :: x) rest ↔ n.Dead (c :: (x ++ rest)) ∧ n.DeadIn x rest := by
  constructor
  · intro h
    exact ⟨h [] c x rfl, fun y d z hx => h (c :: y) d z (by rw [hx, List.cons_append])⟩
  · intro ⟨hc, hx⟩ y d z h
    cases y with
    | nil =>
      rw [List.nil_append, List.cons.injEq] at h
      obtain ⟨rfl, rfl⟩ := h
      exact hc
    | cons e y =>
      rw [List.cons_append, List.cons.injEq] at h
      exact hx y d z h.2

theorem DeadIn.append {n : Node} {x y rest : Text} (hx : n.DeadIn x (y ++ rest))
    (hy : n.DeadIn y rest) : n.DeadIn (x ++ y) rest := by
  induction x with
  | nil => exact hy
  | cons c x ih =>
    obtain ⟨hc, hx⟩ := deadIn_cons_iff.mp hx
    rw [← List.append_assoc] at hc
    exact deadIn_cons_iff.mpr ⟨hc, ih hx⟩

/-- A pattern without white space in front that may also be missing. -/
def core : Node → Node
  | seq (star none true (set .space)) n => n
  | n => n

theorem Leads.core {n : Node} {c d : Cursor} (h : n.Leads c d) :
    ∃ x e, c.Reads x e ∧ (∀ a ∈ x, Unicode.isBlank a = true) ∧ n.core.Leads e d := by
  unfold Node.core
  split
  case h_2 => exact ⟨[], c, .refl c, fun a ha => absurd ha List.not_mem_nil, h⟩
  case h_1 m =>
    obtain ⟨e, ⟨c', hpass, hrounds⟩, hm⟩ := h
    cases hpass
    obtain ⟨x, hx, hblank⟩ := reads_of_rounds_set hrounds
    exact ⟨x, e, hx, hblank, hm⟩

theorem Dead.of_core {n : Node} {t : Text}
    (h : ∀ x z, t = x ++ z → (∀ a ∈ x, Unicode.isBlank a = true) → n.core.Dead z) : n.Dead t := by
  intro c d hc hd
  obtain ⟨x, e, hx, hblank, hcore⟩ := hd.core
  exact h x e.rest (hc.symm.trans hx.rest_eq) hblank e d rfl hcore

/-- Before anything but white space at the end of a stretch, the pattern is dead where its core is. -/
theorem DeadIn.of_core {n : Node} {x rest : Text} (h : n.core.DeadIn x rest)
    (hlast : ∀ a ∈ x.getLast?, Unicode.isBlank a = false) : n.DeadIn x rest := by
  intro y c z hx
  refine .of_core fun u v huv hblank => ?_
  -- White space ends within the stretch, so the core would have to match there.
  have hends : ¬ ∀ a ∈ c :: z, a ∈ u := by
    intro hall
    have hend : (c :: z).getLast (List.cons_ne_nil c z) ∈ x.getLast? := by
      rw [hx, List.getLast?_append, List.getLast?_eq_some_getLast (List.cons_ne_nil c z)]
      rfl
    have hmem := hall _ (List.getLast_mem (List.cons_ne_nil c z))
    exact absurd (hblank _ hmem) (Bool.eq_false_iff.mp (hlast _ hend))
  rw [← List.cons_append, List.append_eq_append_iff] at huv
  rcases huv with ⟨w, hu, _⟩ | ⟨w, hcz, hv⟩
  · exact absurd (fun a ha => hu ▸ List.mem_append_left w ha) hends
  · cases w with
    | nil =>
      rw [List.append_nil] at hcz
      exact absurd (fun a ha => hcz ▸ ha) hends
    | cons d w =>
      rw [hv]
      exact h (y ++ u) d w (by rw [hx, hcz, List.append_assoc])

theorem DeadIn.of_core_end {n : Node} {t : Text} (h : n.core.DeadIn t []) (hnil : n.core.Dead []) :
    n.DeadIn t [] := by
  intro y c z ht
  refine .of_core fun u v huv _ => ?_
  cases v with
  | nil => exact hnil
  | cons d v =>
    rw [List.append_nil] at huv
    have hdead := h (y ++ u) d v (by rw [ht, huv, List.append_assoc])
    rw [List.append_nil] at hdead
    exact hdead

/-- Whether every match reads a character of a set that `bad` selects. -/
def mustRead (bad : CharSet → Bool) : Node → Bool
  | set s => bad s
  | group _ body | plus _ _ body => body.mustRead bad
  | seq a b => a.mustRead bad || b.mustRead bad
  | alt a b => a.mustRead bad && b.mustRead bad
  | empty | assertion _ | opt _ _ | star _ _ _ | mark _ => false

/-- A way through a node that has to read one of the bad sets passes a character of it. -/
theorem Leads.reads_bad {bad : CharSet → Bool} {n : Node} (hn : n.mustRead bad = true)
    {c d : Cursor} (h : n.Leads c d) :
    ∃ a ∈ c.rest, ∃ s, bad s = true ∧ s.contains a = true := by
  have hlater : ∀ {m : Node} {c d : Cursor}, m.Leads c d → ∀ a ∈ d.rest, a ∈ c.rest := by
    intro m c d hlead a ha
    obtain ⟨x, hx, _⟩ := hlead.reads
    rw [hx.rest_eq]
    exact List.mem_append_right x ha
  induction n generalizing c d with
  | empty | assertion a | opt greedy body ih | star m greedy body ih | mark m => cases hn
  | set s =>
    obtain ⟨a, ha, hreads⟩ := Cursor.reads_consume? h
    refine ⟨a, ?_, s, hn, ha⟩
    rw [hreads.rest_eq]
    exact List.mem_cons_self
  | group i body ih =>
    obtain ⟨e, hlead, _⟩ := h
    exact ih (show body.mustRead bad = true from hn) hlead
  | seq a b iha ihb =>
    obtain ⟨e, ha, hb⟩ := h
    rcases Bool.or_eq_true _ _ |>.mp hn with hn | hn
    · exact iha hn ha
    · obtain ⟨x, hx, hs⟩ := ihb hn hb
      exact ⟨x, hlater ha x hx, hs⟩
  | alt a b iha ihb =>
    obtain ⟨hna, hnb⟩ := Bool.and_eq_true _ _ |>.mp hn
    exact h.elim (iha hna) (ihb hnb)
  | plus m greedy body ih =>
    obtain ⟨e, ⟨e', hlead, _⟩, _⟩ := TransGen.head'_iff.mp h
    exact ih (show body.mustRead bad = true from hn) hlead

theorem Dead.of_mustRead {bad : CharSet → Bool} {n : Node} (hn : n.mustRead bad = true) {t : Text}
    (ht : ∀ a ∈ t, ∀ s, bad s = true → s.contains a = false) : n.Dead t := by
  intro c d hc hd
  obtain ⟨a, ha, s, hs, hcontains⟩ := hd.reads_bad hn
  rw [hc] at ha
  rw [ht a ha s hs] at hcontains
  cases hcontains

/-- The least number of characters that a match consumes. -/
def minLength : Node → Nat
  | set _ => 1
  | group _ body | plus _ _ body => body.minLength
  | seq a b => a.minLength + b.minLength
  | alt a b => min a.minLength b.minLength
  | empty | assertion _ | opt _ _ | star _ _ _ | mark _ => 0

theorem Leads.minLength_le {n : Node} {c d : Cursor} (h : n.Leads c d) :
    c.used + n.minLength ≤ d.used := by
  have hused : ∀ {m : Node} {c d : Cursor}, m.Leads c d → c.used ≤ d.used := by
    intro m c d hlead
    obtain ⟨x, hx, _⟩ := hlead.reads
    exact hx.used_le
  induction n generalizing c d with
  | empty | assertion a | opt greedy body ih | star m greedy body ih | mark m => exact hused h
  | set s =>
    obtain ⟨a, _, hreads⟩ := Cursor.reads_consume? h
    exact Nat.le_of_eq hreads.used_eq.symm
  | group i body ih =>
    obtain ⟨e, hlead, rfl⟩ := h
    have hle := ih hlead
    exact hle
  | seq a b iha ihb =>
    obtain ⟨e, ha, hb⟩ := h
    have hfirst := iha ha
    have hsecond := ihb hb
    unfold minLength
    omega
  | alt a b iha ihb =>
    unfold minLength
    rcases h with h | h
    · have hle := iha h
      omega
    · have hle := ihb h
      omega
  | plus m greedy body ih =>
    obtain ⟨e, ⟨e', hlead, hpass⟩, hrounds⟩ := TransGen.head'_iff.mp h
    have hfirst := ih hlead
    have hpassed := (Cursor.reads_passAny? hpass).used_le
    have hlast : e.used ≤ d.used := by
      clear hlead hpass hfirst hpassed h
      induction hrounds with
      | refl => exact Nat.le_refl _
      | tail _ hone ihd =>
        obtain ⟨f, hlead, hpass⟩ := hone
        exact Nat.le_trans ihd
          (Nat.le_trans (hused hlead) (Cursor.reads_passAny? hpass).used_le)
    exact Nat.le_trans hfirst (Nat.le_trans hpassed hlast)

/-- Whether a node cannot lead on from the known start `t`, which is either the whole rest of the text
or has one of the characters `next` behind it. -/
def stopsAt (n : Node) (next : List Char) (t : Text) : Bool :=
  match n.leftovers t with
  | some [] => true
  | some _ => false
  | none => decide (t.length < n.minLength) &&
      next.all fun a => decide (n.leftovers (t ++ [a]) = some [])

/-- Whether a node cannot lead on from any place of a stretch. -/
def stopsIn (n : Node) (next : List Char) : Text → Bool
  | [] => true
  | c :: t => n.stopsAt next (c :: t) && n.stopsIn next t

theorem dead_of_stopsAt {n : Node} {next : List Char} {t rest : Text}
    (h : n.stopsAt next t = true) (hrest : ∀ a ∈ rest.head?, a ∈ next) : n.Dead (t ++ rest) := by
  intro c d hc hd
  unfold stopsAt at h
  split at h
  case h_1 hleft => exact not_leads_of_leftovers hleft hc d hd
  case h_2 => cases h
  case h_3 =>
    obtain ⟨hlength, hnext⟩ := Bool.and_eq_true _ _ |>.mp h
    cases rest with
    | nil =>
      obtain ⟨x, hx, _⟩ := hd.reads
      have hmin := hd.minLength_le
      have hused := hx.used_eq
      have hlen := hx.length_eq
      rw [hc, List.append_nil] at hlen
      have hlt := of_decide_eq_true hlength
      omega
    | cons a rest =>
      have hleft := of_decide_eq_true (List.all_eq_true.mp hnext a (hrest a rfl))
      have hrest : c.rest = (t ++ [a]) ++ rest := by
        rw [hc, List.append_assoc]
        rfl
      exact not_leads_of_leftovers hleft hrest d hd

theorem deadIn_of_stopsIn {n : Node} {next : List Char} {x rest : Text}
    (h : n.stopsIn next x = true) (hrest : ∀ a ∈ rest.head?, a ∈ next) : n.DeadIn x rest := by
  induction x with
  | nil => exact deadIn_nil n rest
  | cons c x ih =>
    obtain ⟨hc, hx⟩ := Bool.and_eq_true _ _ |>.mp h
    exact deadIn_cons_iff.mpr ⟨dead_of_stopsAt hc hrest, ih hx⟩

end Dictation.Node
