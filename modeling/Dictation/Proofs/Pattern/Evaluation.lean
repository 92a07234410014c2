import Dictation.Proofs.Pattern.FirstWay
import Dictation.Proofs.Pattern.Leftovers
/-!
# Evaluating patterns

What the backtracking matcher does with a pattern on a text of which the start is known: words are
read off the known start, greedy repetitions of a set take all characters of the set, and what follows
in the pattern goes on behind them.
-/
namespace Dictation

open Text

namespace Cursor

/-- The place behind `x`, where `rest` follows. -/
def past (c : Cursor) (x rest : Text) : Cursor :=
  ⟨lastOf c.before x, rest, c.used + x.length, c.groups, []⟩

theorem past_nil {c : Cursor} {rest : Text} (hc : c.rest = rest) (hp : c.passed = []) :
    c.past [] rest = c := by
  subst hc
  cases c
  cases hp
  rfl

theorem past_past (c : Cursor) (x y rest rest' : Text) :
    (c.past x rest).past y rest' = c.past (x ++ y) rest' := by
  unfold past
  rw [lastOf_append, List.length_append, Nat.add_assoc]

theorem textTo_past {c : Cursor} {x rest : Text} (hc : c.rest = x ++ rest) :
    c.textTo (c.past x rest) = x := by
  unfold textTo past
  rw [hc, Nat.add_sub_cancel_left]
  exact List.take_left' rfl

/-- The same place, with other texts of groups. -/
def holding (c : Cursor) (groups : List (Nat × Text)) : Cursor := { c with groups := groups }

theorem holding_past (c : Cursor) (groups : List (Nat × Text)) (x rest : Text) :
    (c.holding groups).past x rest = (c.past x rest).holding groups := rfl

theorem remember_past {c : Cursor} {x rest : Text} (i : Nat) (hc : c.rest = x ++ rest) :
    remember i c (c.past x rest) = (c.past x rest).holding ((i, x) :: c.groups) := by
  unfold remember
  rw [textTo_past hc]
  rfl

theorem consume?_past {c : Cursor} {a : Char} {rest : Text} (hc : c.rest = a :: rest)
    (s : CharSet) :
    c.consume? s = if s.contains a then some (c.past [a] rest) else none := by
  unfold consume?
  rw [hc]
  rfl

theorem consume?_nil {c : Cursor} (hc : c.rest = []) (s : CharSet) : c.consume? s = none := by
  unfold consume?
  rw [hc]

end Cursor

namespace Node

variable {α : Type} {k : Cursor → Option α}

theorem run_sequence_cons (n : Node) (ns : List Node) (k : Cursor → Option α) (c : Cursor) :
    (sequence (n :: ns)).run k c = n.run ((sequence ns).run k) c := by
  cases ns with
  | nil => rfl
  | cons m ns => rfl

theorem run_sequence_append (ms ns : List Node) (k : Cursor → Option α) (c : Cursor) :
    (sequence (ms ++ ns)).run k c = (sequence ms).run ((sequence ns).run k) c := by
  induction ms generalizing c with
  | nil => rfl
  | cons m ms ih =>
    rw [List.cons_append, run_sequence_cons, run_sequence_cons]
    congr 1
    funext d
    exact ih d

theorem leads_sequence_cons {n : Node} {ns : List Node} {c d : Cursor} :
    (sequence (n :: ns)).Leads c d ↔ ∃ e, n.Leads c e ∧ (sequence ns).Leads e d := by
  cases ns with
  | nil =>
    constructor
    · exact fun h => ⟨d, h, rfl⟩
    · rintro ⟨e, h, rfl⟩
      exact h
  | cons m ns => exact Iff.rfl

theorem leads_sequence_append {ms ns : List Node} {c d : Cursor} :
    (sequence (ms ++ ns)).Leads c d ↔
      ∃ e, (sequence ms).Leads c e ∧ (sequence ns).Leads e d := by
  induction ms generalizing c with
  | nil =>
    constructor
    · exact fun h => ⟨c, rfl, h⟩
    · rintro ⟨e, rfl, h⟩
      exact h
  | cons m ms ih =>
    rw [List.cons_append, leads_sequence_cons]
    constructor
    · rintro ⟨e, hm, hrest⟩
      obtain ⟨f, hms, hns⟩ := ih.mp hrest
      exact ⟨f, leads_sequence_cons.mpr ⟨e, hm, hms⟩, hns⟩
    · rintro ⟨f, hms, hns⟩
      obtain ⟨e, hm, hms⟩ := leads_sequence_cons.mp hms
      exact ⟨e, hm, ih.mpr ⟨f, hms, hns⟩⟩

/-- Whether a node only reads characters, so that what it leaves is all that can happen. -/
def plain : Node → Bool
  | empty | set _ => true
  | seq a b | alt a b => a.plain && b.plain
  | opt _ body => body.plain
  | assertion _ | group _ _ | star _ _ _ | plus _ _ _ | mark _ => false

/-- Goes on behind the part of `t` before `l`. -/
def onward (k : Cursor → Option α) (c : Cursor) (t rest l : Text) : Option α :=
  k (c.past (t.take (t.length - l.length)) (l ++ rest))

theorem onward_self {c : Cursor} {t rest : Text} (hc : c.rest = t ++ rest) (hp : c.passed = []) :
    onward k c t rest t = k c := by
  unfold onward
  rw [Nat.sub_self, List.take_zero, Cursor.past_nil hc hp]

theorem onward_suffix (c : Cursor) (x l rest : Text) :
    onward k c (x ++ l) rest l = k (c.past x (l ++ rest)) := by
  unfold onward
  rw [List.length_append, Nat.add_sub_cancel, List.take_left' rfl]

private theorem findSome?_eachLeft {step : Text → Option (List Text)} {f g : Text → Option α}
    {ts ls : List Text} (h : eachLeft step ts = some ls)
    (hfg : ∀ t ∈ ts, ∀ ls, step t = some ls → g t = ls.findSome? f) :
    ts.findSome? g = ls.findSome? f := by
  induction ts generalizing ls with
  | nil =>
    cases h
    rfl
  | cons t ts ih =>
    obtain ⟨first, hfirst, hrest⟩ := Option.bind_eq_some_iff.mp h
    obtain ⟨rest, hmore, rfl⟩ := Option.map_eq_some_iff.mp hrest
    rw [findSome?_cons_or, List.findSome?_append, hfg t List.mem_cons_self first hfirst,
      ih hmore fun t' ht' => hfg t' (List.mem_cons_of_mem t ht')]

private theorem mem_eachLeft_suffix {step : Text → Option (List Text)} {ts ls : List Text}
    (h : eachLeft step ts = some ls)
    (hstep : ∀ t ∈ ts, ∀ ls, step t = some ls → ∀ l ∈ ls, l <:+ t) {l : Text} (hl : l ∈ ls) :
    ∃ t ∈ ts, l <:+ t := by
  induction ts generalizing ls with
  | nil =>
    cases h
    cases hl
  | cons t ts ih =>
    obtain ⟨first, hfirst, hrest⟩ := Option.bind_eq_some_iff.mp h
    obtain ⟨rest, hmore, rfl⟩ := Option.map_eq_some_iff.mp hrest
    rcases List.mem_append.mp hl with hl | hl
    · exact ⟨t, List.mem_cons_self, hstep t List.mem_cons_self first hfirst l hl⟩
    · obtain ⟨t', ht', hsuffix⟩ :=
        ih hmore (fun t' ht' => hstep t' (List.mem_cons_of_mem t ht')) hl
      exact ⟨t', List.mem_cons_of_mem t ht', hsuffix⟩

theorem suffix_of_mem_leftovers {n : Node} (hn : n.plain = true) {t : Text} {ls : List Text}
    (h : n.leftovers t = some ls) {l : Text} (hl : l ∈ ls) : l <:+ t := by
  induction n generalizing t ls l with
  | empty =>
    cases h
    exact List.mem_singleton.mp hl ▸ List.suffix_refl t
  | set s =>
    cases t with
    | nil => cases h
    | cons a t =>
      unfold leftovers at h
      split at h
      · cases h
        rw [List.mem_singleton.mp hl]
        exact List.suffix_cons a t
      · cases h
        cases hl
  | seq a b iha ihb =>
    obtain ⟨ha, hb⟩ := Bool.and_eq_true _ _ |>.mp hn
    obtain ⟨first, hfirst, hrest⟩ := Option.bind_eq_some_iff.mp h
    obtain ⟨t', ht', hsuffix⟩ :=
      mem_eachLeft_suffix hrest (fun t' _ ls hls l hl => ihb hb hls hl) hl
    exact hsuffix.trans (iha ha hfirst ht')
  | alt a b iha ihb =>
    obtain ⟨ha, hb⟩ := Bool.and_eq_true _ _ |>.mp hn
    obtain ⟨first, hfirst, hrest⟩ := Option.bind_eq_some_iff.mp h
    obtain ⟨second, hsecond, rfl⟩ := Option.map_eq_some_iff.mp hrest
    exact (List.mem_append.mp hl).elim (iha ha hfirst) (ihb hb hsecond)
  | opt greedy body ih =>
    obtain ⟨further, hfurther, rfl⟩ := Option.map_eq_some_iff.mp h
    have hboth : l ∈ further ∨ l = t := by
      cases greedy with
      | true => exact (List.mem_append.mp hl).imp_right List.mem_singleton.mp
      | false => exact (List.mem_cons.mp hl).symm
    rcases hboth with hl | rfl
    · exact ih (show body.plain = true from hn) hfurther hl
    · exact List.suffix_refl l
  | assertion a | group i body ih | star m greedy body ih | plus m greedy body ih | mark m =>
    cases hn

/-- A plain node goes on behind each of the leftovers of a known start, in order. -/
theorem run_leftovers {n : Node} (hn : n.plain = true) {t rest : Text} {ls : List Text}
    (h : n.leftovers t = some ls) {c : Cursor} (hc : c.rest = t ++ rest) (hp : c.passed = []) :
    n.run k c = ls.findSome? (onward k c t rest) := by
  induction n generalizing k c t ls with
  | empty =>
    cases h
    rw [findSome?_singleton, onward_self hc hp]
    rfl
  | set s =>
    cases t with
    | nil => cases h
    | cons a t =>
      rw [run_set, Cursor.consume?_past hc]
      unfold leftovers at h
      split at h
      case isTrue ha =>
        cases h
        rw [if_pos ha, findSome?_singleton]
        unfold onward
        rw [List.length_cons, Nat.add_sub_cancel_left]
        rfl
      case isFalse ha =>
        cases h
        rw [if_neg ha]
        rfl
  | seq a b iha ihb =>
    obtain ⟨ha, hb⟩ := Bool.and_eq_true _ _ |>.mp hn
    obtain ⟨first, hfirst, hrest⟩ := Option.bind_eq_some_iff.mp h
    rw [run_seq, iha ha hfirst hc hp]
    refine findSome?_eachLeft hrest fun l hl ls' hls' => ?_
    obtain ⟨x, rfl⟩ := suffix_of_mem_leftovers ha hfirst hl
    rw [onward_suffix, ihb hb hls' rfl rfl]
    refine findSome?_congr fun l' hl' => ?_
    obtain ⟨y, rfl⟩ := suffix_of_mem_leftovers hb hls' hl'
    rw [onward_suffix, ← List.append_assoc x y l', onward_suffix, Cursor.past_past]
  | alt a b iha ihb =>
    obtain ⟨ha, hb⟩ := Bool.and_eq_true _ _ |>.mp hn
    obtain ⟨first, hfirst, hrest⟩ := Option.bind_eq_some_iff.mp h
    obtain ⟨second, hsecond, rfl⟩ := Option.map_eq_some_iff.mp hrest
    rw [run_alt, List.findSome?_append, iha ha hfirst hc hp, ihb hb hsecond hc hp]
  | opt greedy body ih =>
    obtain ⟨further, hfurther, rfl⟩ := Option.map_eq_some_iff.mp h
    have hbody : body.run k c = _ := ih (show body.plain = true from hn) hfurther hc hp
    cases greedy with
    | true =>
      rw [if_pos rfl, List.findSome?_append, findSome?_singleton, onward_self hc hp, ← hbody,
        run_opt_greedy]
    | false =>
      rw [if_neg Bool.false_ne_true, findSome?_cons_or, onward_self hc hp, ← hbody, run_opt_lazy]
  | assertion a | group i body ih | star m greedy body ih | plus m greedy body ih | mark m =>
    cases hn

theorem run_of_leftovers {n : Node} (hn : n.plain = true) {t rest : Text} {ls : List Text}
    (h : n.leftovers t = some ([] :: ls)) {c : Cursor} (hc : c.rest = t ++ rest)
    (hp : c.passed = []) {r : α} (hk : k (c.past t rest) = some r) : n.run k c = some r := by
  have hfirst := onward_suffix (k := k) c t [] rest
  rw [List.append_nil, List.nil_append, hk] at hfirst
  rw [run_leftovers hn h hc hp, findSome?_cons_or, hfirst, Option.some_or]

theorem run_star_set {s : CharSet} {x rest : Text} (hx : ∀ a ∈ x, s.contains a = true)
    (hrest : ∀ a ∈ rest.head?, s.contains a = false) {c : Cursor} (hc : c.rest = x ++ rest)
    (hp : c.passed = []) {r : α} (hk : k (c.past x rest) = some r) :
    (star none true (set s)).run k c = some r := by
  change repeatFrom (set s).run true k c = some r
  induction x generalizing c with
  | nil =>
    rw [show c.past [] rest = c from Cursor.past_nil hc hp] at hk
    have hnone : repeatAgain (set s).run true k c = none := by
      unfold repeatAgain
      rw [run_set]
      cases rest with
      | nil =>
        rw [Cursor.consume?_nil hc]
        rfl
      | cons a rest =>
        rw [Cursor.consume?_past hc, hrest a rfl]
        rfl
    rw [repeatFrom_eq, if_pos rfl, hnone, hk]
    rfl
  | cons a x ih =>
    have hc' : c.rest = a :: (x ++ rest) := hc
    have hshorter : (c.past [a] (x ++ rest)).rest.length < c.rest.length := by
      rw [hc]
      exact Nat.lt_succ_self _
    have hmore := ih (fun b hb => hx b (List.mem_cons_of_mem a hb)) (c := c.past [a] (x ++ rest))
      rfl rfl (by rw [Cursor.past_past]; exact hk)
    have hagain : repeatAgain (set s).run true k c = some r := by
      unfold repeatAgain
      rw [run_set, Cursor.consume?_past hc', if_pos (hx a List.mem_cons_self), Option.bind_some,
        if_pos hshorter]
      exact hmore
    rw [repeatFrom_eq, if_pos rfl, hagain, Option.some_or]

theorem run_plus_set {s : CharSet} {x rest : Text} (hne : x ≠ [])
    (hx : ∀ a ∈ x, s.contains a = true) (hrest : ∀ a ∈ rest.head?, s.contains a = false)
    {c : Cursor} (hc : c.rest = x ++ rest) {r : α} (hk : k (c.past x rest) = some r) :
    (plus none true (set s)).run k c = some r := by
  change repeatAgain (set s).run true k c = some r
  obtain ⟨a, y, rfl⟩ := List.exists_cons_of_ne_nil hne
  have hc' : c.rest = a :: (y ++ rest) := hc
  have hshorter : (c.past [a] (y ++ rest)).rest.length < c.rest.length := by
    rw [hc]
    exact Nat.lt_succ_self _
  have hmore : (star none true (set s)).run k (c.past [a] (y ++ rest)) = some r := by
    refine run_star_set (fun b hb => hx b (List.mem_cons_of_mem a hb)) hrest rfl rfl ?_
    rw [Cursor.past_past]
    exact hk
  unfold repeatAgain
  rw [run_set, Cursor.consume?_past hc', if_pos (hx a List.mem_cons_self), Option.bind_some,
    if_pos hshorter]
  exact hmore

section
variable {body : Node} (hbody : ∀ {k : Cursor → Option α} {c : Cursor} {r : α},
  body.run k c = some r → ∃ d, body.Leads c d ∧ k d = some r)
include hbody

private theorem rounds_of_repeatFrom {greedy : Bool} (n : Nat) {c : Cursor} {r : α}
    (hlen : c.rest.length = n) (h : repeatFrom body.run greedy k c = some r) :
    ∃ d, Relation.ReflTransGen (Round body.Leads none) c d ∧ k d = some r := by
  induction n using Nat.strongRecOn generalizing c with
  | ind n ih =>
    have hboth : repeatAgain body.run greedy k c = some r ∨ k c = some r := by
      rw [repeatFrom_eq] at h
      cases greedy with
      | true => exact (Option.or_eq_some_iff.mp h).imp_right And.right
      | false => exact (Option.or_eq_some_iff.mp h).symm.imp_left And.right
    rcases hboth with h | h
    · obtain ⟨e, hlead, he⟩ := hbody h
      split at he
      case isTrue hlt =>
        obtain ⟨d, hd, hk⟩ := ih e.rest.length (hlen ▸ hlt) rfl he
        exact ⟨d, .head ⟨e, hlead, rfl⟩ hd, hk⟩
      case isFalse => cases he
    · exact ⟨c, .refl, h⟩

private theorem rounds_of_repeatAgain {greedy : Bool} {c : Cursor} {r : α}
    (h : repeatAgain body.run greedy k c = some r) :
    ∃ d, Relation.TransGen (Round body.Leads none) c d ∧ k d = some r := by
  obtain ⟨e, hlead, he⟩ := hbody h
  split at he
  case isTrue =>
    obtain ⟨d, hd, hk⟩ := rounds_of_repeatFrom hbody _ rfl he
    exact ⟨d, .head' ⟨e, hlead, rfl⟩ hd, hk⟩
  case isFalse => cases he

end

/-- Backtracking goes on only at places to which the node leads. -/
theorem leads_of_run {n : Node} (hn : n.unmarked = true) {c : Cursor} {r : α}
    (h : n.run k c = some r) : ∃ d, n.Leads c d ∧ k d = some r := by
  induction n generalizing k c r with
  | empty => exact ⟨c, rfl, h⟩
  | set s => exact Option.bind_eq_some_iff.mp h
  | assertion a =>
    rw [run_assertion] at h
    split at h
    case isTrue ha => exact ⟨c, ⟨ha, rfl⟩, h⟩
    case isFalse => cases h
  | group i body ih =>
    obtain ⟨d, hlead, hk⟩ := ih (show body.unmarked = true from hn) h
    exact ⟨_, ⟨d, hlead, rfl⟩, hk⟩
  | seq a b iha ihb =>
    obtain ⟨ha, hb⟩ := Bool.and_eq_true _ _ |>.mp hn
    obtain ⟨e, hleada, he⟩ := iha ha h
    obtain ⟨d, hleadb, hk⟩ := ihb hb he
    exact ⟨d, ⟨e, hleada, hleadb⟩, hk⟩
  | alt a b iha ihb =>
    obtain ⟨ha, hb⟩ := Bool.and_eq_true _ _ |>.mp hn
    rcases Option.or_eq_some_iff.mp h with h | ⟨_, h⟩
    · obtain ⟨d, hlead, hk⟩ := iha ha h
      exact ⟨d, Or.inl hlead, hk⟩
    · obtain ⟨d, hlead, hk⟩ := ihb hb h
      exact ⟨d, Or.inr hlead, hk⟩
  | opt greedy body ih =>
    have hboth : body.run k c = some r ∨ k c = some r := by
      cases greedy with
      | true => exact (Option.or_eq_some_iff.mp h).imp_right And.right
      | false => exact (Option.or_eq_some_iff.mp h).symm.imp_left And.right
    rcases hboth with h | h
    · obtain ⟨d, hlead, hk⟩ := ih (show body.unmarked = true from hn) h
      exact ⟨d, Or.inr hlead, hk⟩
    · exact ⟨c, Or.inl rfl, h⟩
  | star m greedy body ih =>
    simp only [unmarked, Bool.and_eq_true, Option.isNone_iff_eq_none] at hn
    obtain ⟨⟨rfl, _⟩, hbody⟩ := hn
    obtain ⟨d, hd, hk⟩ := rounds_of_repeatFrom (fun h => ih hbody h) _ rfl h
    exact ⟨d, ⟨c, rfl, hd⟩, hk⟩
  | plus m greedy body ih =>
    simp only [unmarked, Bool.and_eq_true, Option.isNone_iff_eq_none] at hn
    obtain ⟨⟨rfl, _⟩, hbody⟩ := hn
    exact rounds_of_repeatAgain (fun h => ih hbody h) h
  | mark m => cases hn

theorem run_eq_none {n : Node} (hn : n.unmarked = true) {c : Cursor}
    (h : ∀ d, ¬ n.Leads c d) : n.run k c = none := by
  cases hrun : n.run k c with
  | none => rfl
  | some r =>
    obtain ⟨d, hlead, _⟩ := leads_of_run hn hrun
    exact absurd hlead (h d)

theorem matchAt?_of_run {n : Node} (hn : n.unmarked = true) {before : Option Char} {x rest : Text}
    {groups : List (Nat × Text)}
    (h : n.run some (Cursor.start before (x ++ rest)) =
      some (((Cursor.start before (x ++ rest)).past x rest).holding groups)) :
    n.matchAt? before (x ++ rest) = some ⟨x, groups⟩ := by
  rw [matchAt?_eq_run hn, h, Option.map_some]
  exact congrArg (fun t => some (Match.mk t groups)) (Cursor.textTo_past rfl)

end Node

end Dictation
