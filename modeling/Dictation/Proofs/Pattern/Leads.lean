import Dictation.Pattern.Search
import Mathlib.Logic.Relation
/-!
# Where a pattern can lead

The search lists the ways through a pattern in order of preference. Here the order does not matter: a
node relates each place to all places to which it can lead, repetitions being closures of their body.
Every way that the search finds is one of them. What is shown of the relation therefore holds of every
match, and where it leads nowhere there is none.
-/
namespace Dictation

open Relation

theorem CharSet.contains_one {c d : Char} : (CharSet.one c).contains d = true ↔ d = c := by
  simp only [one, contains, Bool.and_eq_true, decide_eq_true_eq]
  constructor
  · intro ⟨hlow, hhigh⟩
    exact Char.le_antisymm hhigh hlow
  · rintro rfl
    exact ⟨Char.le_refl d, Char.le_refl d⟩

namespace Cursor

/-- From `c` the text `x` is consumed to reach `d`. -/
structure Reads (c : Cursor) (x : Text) (d : Cursor) : Prop where
  rest_eq : c.rest = x ++ d.rest
  used_eq : d.used = c.used + x.length
  before_eq : d.before = x.getLast?.or c.before

namespace Reads

variable {c d e : Cursor} {x y : Text}

protected theorem refl (c : Cursor) : c.Reads [] c := ⟨rfl, rfl, rfl⟩

protected theorem trans (h : c.Reads x d) (h' : d.Reads y e) : c.Reads (x ++ y) e where
  rest_eq := by rw [h.rest_eq, h'.rest_eq, List.append_assoc]
  used_eq := by rw [h'.used_eq, h.used_eq, List.length_append, Nat.add_assoc]
  before_eq := by rw [h'.before_eq, h.before_eq, List.getLast?_append, Option.or_assoc]

theorem textTo_eq (h : c.Reads x d) : c.textTo d = x := by
  unfold textTo
  rw [h.used_eq, h.rest_eq, Nat.add_sub_cancel_left]
  exact List.take_left' rfl

theorem length_eq (h : c.Reads x d) : c.rest.length = x.length + d.rest.length := by
  rw [h.rest_eq, List.length_append]

theorem used_le (h : c.Reads x d) : c.used ≤ d.used := by
  rw [h.used_eq]
  exact Nat.le_add_right _ _

theorem used_lt (h : c.Reads x d) (hx : x ≠ []) : c.used < d.used := by
  have hlen := List.length_pos_iff.mpr hx
  rw [h.used_eq]
  omega

end Reads

theorem reads_consume? {c d : Cursor} {s : CharSet} (h : c.consume? s = some d) :
    ∃ a, s.contains a = true ∧ c.Reads [a] d := by
  unfold consume? at h
  cases hrest : c.rest with
  | nil => simp only [hrest, reduceCtorEq] at h
  | cons a rest =>
    simp only [hrest] at h
    by_cases ha : s.contains a = true
    · rw [if_pos ha, Option.some.injEq] at h
      subst h
      exact ⟨a, ha, hrest, rfl, rfl⟩
    · rw [if_neg ha] at h
      cases h

theorem reads_pass? {c d : Cursor} {m : Nat} (h : c.pass? m = some d) : c.Reads [] d := by
  unfold pass? at h
  by_cases hm : m ∈ c.passed
  · rw [if_pos hm] at h
    cases h
  · rw [if_neg hm, Option.some.injEq] at h
    subst h
    exact ⟨rfl, rfl, rfl⟩

theorem reads_passAny? {c d : Cursor} {m : Option Nat} (h : c.passAny? m = some d) :
    c.Reads [] d := by
  cases m with
  | none =>
    cases h
    exact .refl c
  | some m => exact reads_pass? h

theorem Reads.remember {c d : Cursor} {x : Text} (i : Nat) (h : c.Reads x d) :
    c.Reads x (Cursor.remember i c d) :=
  ⟨h.rest_eq, h.used_eq, h.before_eq⟩

theorem mem_of_mem_distinct {cs : List Cursor} {c : Cursor} (h : c ∈ distinct cs) : c ∈ cs := by
  have hloop : ∀ (as bs : List Cursor), c ∈ List.eraseDupsBy.loop meets as bs →
      c ∈ as ∨ c ∈ bs := by
    intro as
    induction as with
    | nil => exact fun bs hmem => Or.inr (List.mem_reverse.mp hmem)
    | cons a as ih =>
      intro bs hmem
      unfold List.eraseDupsBy.loop at hmem
      cases hany : bs.any a.meets with
      | true =>
        rw [hany] at hmem
        exact (ih bs hmem).imp_left (List.mem_cons_of_mem a)
      | false =>
        rw [hany] at hmem
        rcases ih (a :: bs) hmem with has | hbs
        · exact Or.inl (List.mem_cons_of_mem a has)
        · rcases List.mem_cons.mp hbs with rfl | hbs
          · exact Or.inl List.mem_cons_self
          · exact Or.inr hbs
  exact (hloop cs [] h).resolve_right List.not_mem_nil

theorem mem_addTo {found : List Cursor} {c d : Cursor} (h : d ∈ addTo found c) :
    d ∈ found ∨ d = c := by
  unfold addTo at h
  by_cases hany : found.any c.meets = true
  · rw [if_pos hany] at h
    exact Or.inl h
  · rw [if_neg hany] at h
    exact (List.mem_cons.mp h).symm

end Cursor

namespace Node

/-- What a repetition does with a place that it comes to, where `more` repeats from there. -/
def enter (more : List Cursor → Cursor → List Cursor) (greedy : Bool) (found : List Cursor)
    (c : Cursor) : List Cursor :=
  if found.any c.meets then found
  else if greedy then Cursor.addTo (more found c) c
  else more (c :: found) c

theorem iterate_succ (body : Cursor → List Cursor) (m : Option Nat) (greedy : Bool) (bound : Nat)
    (found : List Cursor) (c : Cursor) :
    iterate body m greedy (bound + 1) found c =
      ((body c).filterMap (·.passAny? m)).foldl (enter (fun found later =>
        if c.used < later.used then iterate body m greedy bound found later else found) greedy)
        found :=
  rfl

theorem iterateAll_zero (body : Cursor → List Cursor) (m : Option Nat) (greedy : Bool)
    (cs : List Cursor) :
    iterateAll body m greedy true cs =
      (cs.foldl (enter (fun found c => iterate body m greedy (c.rest.length + 1) found c) greedy)
        []).reverse :=
  rfl

theorem iterateAll_one (body : Cursor → List Cursor) (m : Option Nat) (greedy : Bool)
    (cs : List Cursor) :
    iterateAll body m greedy false cs =
      (cs.foldl (fun found c => iterate body m greedy (c.rest.length + 1) found c) []).reverse :=
  rfl

theorem mem_enter {more : List Cursor → Cursor → List Cursor} {greedy : Bool}
    {found : List Cursor} {c d : Cursor} {p : Prop}
    (hmore : ∀ found, d ∈ more found c → d ∈ found ∨ p) (hc : d = c → p)
    (h : d ∈ enter more greedy found c) : d ∈ found ∨ p := by
  unfold enter at h
  by_cases hany : found.any c.meets = true
  · rw [if_pos hany] at h
    exact Or.inl h
  · rw [if_neg hany] at h
    cases greedy with
    | true =>
      rcases Cursor.mem_addTo h with hd | hd
      · exact hmore found hd
      · exact Or.inr (hc hd)
    | false =>
      rcases hmore _ h with hd | hd
      · exact (List.mem_cons.mp hd).symm.imp_right hc
      · exact Or.inr hd

private theorem mem_foldl {step : List Cursor → Cursor → List Cursor} {cs : List Cursor}
    {d : Cursor} {p : Prop}
    (hstep : ∀ c ∈ cs, ∀ found, d ∈ step found c → d ∈ found ∨ p) (found : List Cursor)
    (h : d ∈ cs.foldl step found) : d ∈ found ∨ p := by
  induction cs generalizing found with
  | nil => exact Or.inl h
  | cons c cs ih =>
    rcases ih (fun c' hc' => hstep c' (List.mem_cons_of_mem c hc')) _ h with hd | hp
    · exact hstep c List.mem_cons_self found hd
    · exact Or.inr hp

/-- One repetition of a body, with the mark behind it. -/
def Round (lead : Cursor → Cursor → Prop) (m : Option Nat) (c d : Cursor) : Prop :=
  ∃ e, lead c e ∧ e.passAny? m = some d

/-- The places to which a node can lead. -/
def Leads : Node → Cursor → Cursor → Prop
  | empty, c, d => d = c
  | set s, c, d => c.consume? s = some d
  | assertion a, c, d => a.holds c.before c.rest = true ∧ d = c
  | group i body, c, d => ∃ e, body.Leads c e ∧ d = Cursor.remember i c e
  | seq a b, c, d => ∃ e, a.Leads c e ∧ b.Leads e d
  | alt a b, c, d => a.Leads c d ∨ b.Leads c d
  | opt _ body, c, d => d = c ∨ body.Leads c d
  | star m _ body, c, d => ∃ e, c.passAny? m = some e ∧ ReflTransGen (Round body.Leads m) e d
  | plus m _ body, c, d => TransGen (Round body.Leads m) c d
  | mark m, c, d => c.pass? m = some d

section
variable {lead : Cursor → Cursor → Prop} {body : Cursor → List Cursor} {m : Option Nat}
  {greedy : Bool} (hbody : ∀ c d, d ∈ body c → lead c d)
include hbody

/-- Repeating a body finds what its repetitions lead to. -/
private theorem mem_iterate (bound : Nat) (found : List Cursor) (c d : Cursor)
    (h : d ∈ iterate body m greedy bound found c) :
    d ∈ found ∨ TransGen (Round lead m) c d := by
  induction bound generalizing found c with
  | zero => exact Or.inl h
  | succ bound ih =>
    rw [iterate_succ] at h
    refine mem_foldl (fun e he found => ?_) found h
    obtain ⟨e', he', hpass⟩ := List.mem_filterMap.mp he
    have hone : Round lead m c e := ⟨e', hbody c e' he', hpass⟩
    -- What is added comes after this round, or after further rounds from there.
    refine mem_enter (fun found hd => ?_) (fun hd => hd ▸ .single hone)
    by_cases hused : c.used < e.used
    · rw [if_pos hused] at hd
      exact (ih found e hd).imp_right (.head hone)
    · rw [if_neg hused] at hd
      exact Or.inl hd

private theorem mem_iterateAll {zero : Bool} (cs : List Cursor) (d : Cursor)
    (h : d ∈ iterateAll body m greedy zero cs) :
    ∃ c ∈ cs, (zero = true ∧ d = c) ∨ TransGen (Round lead m) c d := by
  cases zero with
  | true =>
    rw [iterateAll_zero, List.mem_reverse] at h
    refine (mem_foldl (fun c hc found => ?_) [] h).resolve_left List.not_mem_nil
    exact mem_enter
      (fun found hd => (mem_iterate hbody _ _ _ _ hd).imp_right fun ht => ⟨c, hc, Or.inr ht⟩)
      (fun hd => ⟨c, hc, Or.inl ⟨rfl, hd⟩⟩)
  | false =>
    rw [iterateAll_one, List.mem_reverse] at h
    refine (mem_foldl (fun c hc found hd => ?_) [] h).resolve_left List.not_mem_nil
    exact (mem_iterate hbody _ _ _ _ hd).imp_right fun ht => ⟨c, hc, Or.inr ht⟩

end

/-- The search finds only places to which the node can lead. -/
theorem leads_of_mem_ways (n : Node) (cs : List Cursor) (d : Cursor) (h : d ∈ n.ways cs) :
    ∃ c ∈ cs, n.Leads c d := by
  induction n generalizing cs d with
  | empty => exact ⟨d, h, rfl⟩
  | set s => exact List.mem_filterMap.mp h
  | assertion a =>
    obtain ⟨hmem, hholds⟩ := List.mem_filter.mp h
    exact ⟨d, hmem, hholds, rfl⟩
  | group i body ih =>
    obtain ⟨c, hc, hd⟩ := List.mem_flatMap.mp (Cursor.mem_of_mem_distinct h)
    obtain ⟨e, he, rfl⟩ := List.mem_map.mp hd
    obtain ⟨c', hc', hlead⟩ := ih [c] e he
    rw [List.mem_singleton.mp hc'] at hlead
    exact ⟨c, hc, e, hlead, rfl⟩
  | seq a b iha ihb =>
    obtain ⟨e, he, hb⟩ := ihb (a.ways cs) d h
    obtain ⟨c, hc, ha⟩ := iha cs e he
    exact ⟨c, hc, e, ha, hb⟩
  | alt a b iha ihb =>
    obtain ⟨c, hc, hd⟩ := List.mem_flatMap.mp (Cursor.mem_of_mem_distinct h)
    rcases List.mem_append.mp hd with hd | hd
    · obtain ⟨c', hc', hlead⟩ := iha [c] d hd
      rw [List.mem_singleton.mp hc'] at hlead
      exact ⟨c, hc, Or.inl hlead⟩
    · obtain ⟨c', hc', hlead⟩ := ihb [c] d hd
      rw [List.mem_singleton.mp hc'] at hlead
      exact ⟨c, hc, Or.inr hlead⟩
  | opt greedy body ih =>
    obtain ⟨c, hc, hd⟩ := List.mem_flatMap.mp (Cursor.mem_of_mem_distinct h)
    have hboth : d ∈ body.ways [c] ∨ d = c := by
      cases greedy with
      | true =>
        rw [if_pos rfl] at hd
        exact (List.mem_append.mp hd).imp_right List.mem_singleton.mp
      | false =>
        rw [if_neg Bool.false_ne_true] at hd
        exact (List.mem_cons.mp hd).symm
    rcases hboth with hd | rfl
    · obtain ⟨c', hc', hlead⟩ := ih [c] d hd
      rw [List.mem_singleton.mp hc'] at hlead
      exact ⟨c, hc, Or.inr hlead⟩
    · exact ⟨d, hc, Or.inl rfl⟩
  | star m greedy body ih =>
    have hbody : ∀ c d, d ∈ body.ways [c] → body.Leads c d := by
      intro c d hd
      obtain ⟨c', hc', hlead⟩ := ih [c] d hd
      rw [List.mem_singleton.mp hc'] at hlead
      exact hlead
    obtain ⟨e, he, hd⟩ := mem_iterateAll hbody _ _ h
    obtain ⟨c, hc, hpass⟩ := List.mem_filterMap.mp he
    rcases hd with ⟨_, rfl⟩ | hd
    · exact ⟨c, hc, d, hpass, .refl⟩
    · exact ⟨c, hc, e, hpass, hd.to_reflTransGen⟩
  | plus m greedy body ih =>
    have hbody : ∀ c d, d ∈ body.ways [c] → body.Leads c d := by
      intro c d hd
      obtain ⟨c', hc', hlead⟩ := ih [c] d hd
      rw [List.mem_singleton.mp hc'] at hlead
      exact hlead
    obtain ⟨c, hc, hd⟩ := mem_iterateAll hbody _ _ h
    rcases hd with ⟨hzero, _⟩ | hd
    · cases hzero
    · exact ⟨c, hc, hd⟩
  | mark m => exact List.mem_filterMap.mp h

theorem Leads.reads {n : Node} {c d : Cursor} (h : n.Leads c d) :
    ∃ x, c.Reads x d ∧ (n.consumes = true → x ≠ []) := by
  have hrounds : ∀ {body : Node} {m : Option Nat},
      (∀ c d, body.Leads c d → ∃ x, c.Reads x d ∧ (body.consumes = true → x ≠ [])) →
      ∀ {c d : Cursor}, TransGen (Round body.Leads m) c d →
        ∃ x, c.Reads x d ∧ (body.consumes = true → x ≠ []) := by
    intro body m ih c d ht
    have hround : ∀ {c d : Cursor}, Round body.Leads m c d →
        ∃ x, c.Reads x d ∧ (body.consumes = true → x ≠ []) := by
      intro c d ⟨e, hlead, hpass⟩
      obtain ⟨x, hx, hne⟩ := ih c e hlead
      refine ⟨x, ?_, hne⟩
      simpa using hx.trans (Cursor.reads_passAny? hpass)
    induction ht with
    | single hone => exact hround hone
    | tail _ hone ihd =>
      obtain ⟨x, hx, hne⟩ := ihd
      obtain ⟨y, hy, _⟩ := hround hone
      exact ⟨x ++ y, hx.trans hy, fun hc hnil => hne hc (List.append_eq_nil_iff.mp hnil).1⟩
  induction n generalizing c d with
  | empty =>
    cases h
    exact ⟨[], .refl c, fun hc => by cases hc⟩
  | set s =>
    obtain ⟨a, _, ha⟩ := Cursor.reads_consume? h
    exact ⟨[a], ha, fun _ => List.cons_ne_nil a []⟩
  | assertion a =>
    obtain ⟨_, rfl⟩ := h
    exact ⟨[], .refl d, fun hc => by cases hc⟩
  | group i body ih =>
    obtain ⟨e, hlead, rfl⟩ := h
    obtain ⟨x, hx, hne⟩ := ih hlead
    exact ⟨x, hx.remember i, hne⟩
  | seq a b iha ihb =>
    obtain ⟨e, ha, hb⟩ := h
    obtain ⟨x, hx, hnex⟩ := iha ha
    obtain ⟨y, hy, hney⟩ := ihb hb
    refine ⟨x ++ y, hx.trans hy, fun hc hnil => ?_⟩
    obtain ⟨hxnil, hynil⟩ := List.append_eq_nil_iff.mp hnil
    rcases Bool.or_eq_true _ _ |>.mp hc with hc | hc
    · exact hnex hc hxnil
    · exact hney hc hynil
  | alt a b iha ihb =>
    rcases h with h | h
    · obtain ⟨x, hx, hne⟩ := iha h
      exact ⟨x, hx, fun hc => hne (Bool.and_eq_true _ _ |>.mp hc).1⟩
    · obtain ⟨x, hx, hne⟩ := ihb h
      exact ⟨x, hx, fun hc => hne (Bool.and_eq_true _ _ |>.mp hc).2⟩
  | opt greedy body ih =>
    rcases h with rfl | h
    · exact ⟨[], .refl d, fun hc => by cases hc⟩
    · obtain ⟨x, hx, _⟩ := ih h
      exact ⟨x, hx, fun hc => by cases hc⟩
  | star m greedy body ih =>
    obtain ⟨e, hpass, ht⟩ := h
    have hstart := Cursor.reads_passAny? hpass
    rcases reflTransGen_iff_eq_or_transGen.mp ht with rfl | ht
    · exact ⟨[], hstart, fun hc => by cases hc⟩
    · obtain ⟨x, hx, _⟩ := hrounds (fun _ _ => ih) ht
      exact ⟨[] ++ x, hstart.trans hx, fun hc => by cases hc⟩
  | plus m greedy body ih => exact hrounds (fun _ _ => ih) h
  | mark m => exact ⟨[], Cursor.reads_pass? h, fun hc => by cases hc⟩

theorem reads_of_rounds_set {s : CharSet} {c d : Cursor}
    (h : ReflTransGen (Round (set s).Leads none) c d) :
    ∃ x, c.Reads x d ∧ ∀ a ∈ x, s.contains a = true := by
  induction h with
  | refl => exact ⟨[], .refl c, fun a ha => absurd ha List.not_mem_nil⟩
  | tail _ hone ih =>
    obtain ⟨x, hx, hall⟩ := ih
    obtain ⟨e, hlead, hpass⟩ := hone
    cases hpass
    obtain ⟨a, ha, hreads⟩ := Cursor.reads_consume? hlead
    refine ⟨x ++ [a], hx.trans hreads, fun b hb => ?_⟩
    rcases List.mem_append.mp hb with hb | hb
    · exact hall b hb
    · rw [List.mem_singleton.mp hb]
      exact ha

theorem Leads.reads_plus_set {s : CharSet} {greedy : Bool} {c d : Cursor}
    (h : (plus none greedy (set s)).Leads c d) :
    ∃ x, x ≠ [] ∧ c.Reads x d ∧ ∀ a ∈ x, s.contains a = true := by
  obtain ⟨e, ⟨e', hlead, hpass⟩, hrounds⟩ := TransGen.head'_iff.mp h
  cases hpass
  obtain ⟨a, ha, hreads⟩ := Cursor.reads_consume? hlead
  obtain ⟨x, hx, hall⟩ := reads_of_rounds_set hrounds
  refine ⟨[a] ++ x, List.cons_ne_nil a x, hreads.trans hx, fun b hb => ?_⟩
  rcases List.mem_cons.mp hb with rfl | hb
  · exact ha
  · exact hall b hb

theorem used_lt_of_mem_ways {n : Node} (hn : n.consumes = true) {c d : Cursor}
    (hd : d ∈ n.ways [c]) : c.used < d.used := by
  obtain ⟨c', hc', hlead⟩ := leads_of_mem_ways n [c] d hd
  obtain ⟨x, hx, hne⟩ := hlead.reads
  rw [List.mem_singleton.mp hc'] at hx
  exact hx.used_lt (hne hn)

/-- A match is the text that is consumed on a way from its start. -/
theorem leads_of_matchAt? {n : Node} {before : Option Char} {t : Text} {m : Match}
    (h : n.matchAt? before t = some m) :
    ∃ d, n.Leads (Cursor.start before t) d ∧ (Cursor.start before t).Reads m.text d ∧
      m.groups = d.groups := by
  unfold matchAt? at h
  obtain ⟨d, hd, rfl⟩ := Option.map_eq_some_iff.mp h
  obtain ⟨c, hc, hlead⟩ := leads_of_mem_ways n _ d (List.mem_of_head? hd)
  rw [List.mem_singleton.mp hc] at hlead
  obtain ⟨x, hx, _⟩ := hlead.reads
  refine ⟨d, hlead, ?_, rfl⟩
  rw [hx.textTo_eq]
  exact hx

theorem matchAt?_eq_none {n : Node} {before : Option Char} {t : Text}
    (h : ∀ d, ¬ n.Leads (Cursor.start before t) d) : n.matchAt? before t = none := by
  cases hm : n.matchAt? before t with
  | none => rfl
  | some m =>
    obtain ⟨d, hlead, _⟩ := leads_of_matchAt? hm
    exact absurd hlead (h d)

end Node

end Dictation
