import Dictation.Proofs.Pattern.Leads
/-!
# Backtracking

The search keeps, of all ways to one place, only the preferred one. A backtracking matcher keeps
nothing: it is told how to go on behind the node, tries the preferred alternative first and takes the
next one only if going on fails. As long as going on depends on nothing but the place, both find the
same way first. The matcher follows the pattern word for word, so the results about given patterns are
proved with it.

Patterns with marks are left out. Without marks every repetition consumes, and a place is never met
again while it is still being left.
-/
namespace Dictation

namespace Cursor

/-- Whether two ways have led to one place. -/
structure SamePlace (c d : Cursor) : Prop where
  before_eq : c.before = d.before
  rest_eq : c.rest = d.rest

/-- Whether a search from `s` can come to `c`, in a pattern without marks. -/
structure Within (s c : Cursor) : Prop where
  reads : ∃ x, s.Reads x c
  passed_eq : c.passed = []

theorem SamePlace.refl (c : Cursor) : c.SamePlace c := ⟨rfl, rfl⟩

theorem SamePlace.symm {c d : Cursor} (h : c.SamePlace d) : d.SamePlace c :=
  ⟨h.before_eq.symm, h.rest_eq.symm⟩

theorem Within.samePlace {s c d : Cursor} (hc : s.Within c) (hd : s.Within d)
    (h : c.used = d.used) : c.SamePlace d := by
  obtain ⟨x, hx⟩ := hc.reads
  obtain ⟨y, hy⟩ := hd.reads
  have hlen : x.length = y.length := by
    have hcu := hx.used_eq
    have hdu := hy.used_eq
    omega
  have hrest : x ++ c.rest = y ++ d.rest := hx.rest_eq.symm.trans hy.rest_eq
  obtain ⟨hxy, hrest⟩ := List.append_inj hrest hlen
  refine ⟨?_, hrest⟩
  rw [hx.before_eq, hy.before_eq, hxy]

theorem Within.meets_iff {s c d : Cursor} (hc : s.Within c) (hd : s.Within d) :
    c.meets d = true ↔ c.used = d.used := by
  unfold meets
  rw [hc.passed_eq, hd.passed_eq, Bool.and_eq_true, decide_eq_true_eq, decide_eq_true_eq]
  exact and_iff_left rfl

end Cursor

/-- Two ways of going on that succeed at the same places. -/
def Alike {α β : Type} (k : Cursor → Option α) (k' : Cursor → Option β) : Prop :=
  ∀ c d, Cursor.SamePlace c d → (k c).isSome = (k' d).isSome

theorem Alike.none_iff {α β : Type} {k : Cursor → Option α} {k' : Cursor → Option β}
    (h : Alike k k') {c d : Cursor} (hcd : c.SamePlace d) : k c = none ↔ k' d = none := by
  rw [← Option.isNone_iff_eq_none, ← Option.isNone_iff_eq_none, ← Option.not_isSome,
    ← Option.not_isSome, h c d hcd]

namespace Node

variable {α β : Type}

/-- Repeats a body any number of times and goes on with `k`. -/
def repeatFrom (body : (Cursor → Option α) → Cursor → Option α) (greedy : Bool)
    (k : Cursor → Option α) (c : Cursor) : Option α :=
  let again := body (fun later =>
    if later.rest.length < c.rest.length then repeatFrom body greedy k later else none) c
  if greedy then again.or (k c) else (k c).or again
  termination_by c.rest.length

/-- Repeats a body at least once and goes on with `k`. -/
def repeatAgain (body : (Cursor → Option α) → Cursor → Option α) (greedy : Bool)
    (k : Cursor → Option α) (c : Cursor) : Option α :=
  body (fun later =>
    if later.rest.length < c.rest.length then repeatFrom body greedy k later else none) c

theorem repeatFrom_eq (body : (Cursor → Option α) → Cursor → Option α) (greedy : Bool)
    (k : Cursor → Option α) (c : Cursor) :
    repeatFrom body greedy k c =
      if greedy then (repeatAgain body greedy k c).or (k c)
      else (k c).or (repeatAgain body greedy k c) := by
  rw [repeatFrom]
  rfl

/-- Matches a node and goes on with `k`. -/
def run : Node → (Cursor → Option α) → Cursor → Option α
  | empty, k, c => k c
  | set s, k, c => (c.consume? s).bind k
  | assertion a, k, c => if a.holds c.before c.rest then k c else none
  | group i body, k, c => body.run (fun later => k (Cursor.remember i c later)) c
  | seq a b, k, c => a.run (b.run k) c
  | alt a b, k, c => (a.run k c).or (b.run k c)
  | opt greedy body, k, c =>
    if greedy then (body.run k c).or (k c) else (k c).or (body.run k c)
  | star _ greedy body, k, c => repeatFrom body.run greedy k c
  | plus _ greedy body, k, c => repeatAgain body.run greedy k c
  | mark m, k, c => (c.pass? m).bind k

section
variable (k : Cursor → Option α) (c : Cursor)

theorem run_set (s : CharSet) : (set s).run k c = (c.consume? s).bind k := rfl

theorem run_assertion (a : Assertion) :
    (assertion a).run k c = if a.holds c.before c.rest then k c else none := rfl

theorem run_group (i : Nat) (body : Node) :
    (group i body).run k c = body.run (fun later => k (Cursor.remember i c later)) c := rfl

theorem run_seq (a b : Node) : (seq a b).run k c = a.run (b.run k) c := rfl

theorem run_alt (a b : Node) : (alt a b).run k c = (a.run k c).or (b.run k c) := rfl

theorem run_opt_greedy (body : Node) : (opt true body).run k c = (body.run k c).or (k c) := rfl

theorem run_opt_lazy (body : Node) : (opt false body).run k c = (k c).or (body.run k c) := rfl

end

/-- Whether a pattern needs no marks. -/
def unmarked : Node → Bool
  | empty | set _ | assertion _ => true
  | group _ body | opt _ body => body.unmarked
  | seq a b | alt a b => a.unmarked && b.unmarked
  | star m _ body | plus m _ body => m.isNone && body.consumes && body.unmarked
  | mark _ => false

private theorem isSome_or {o o' : Option α} {p p' : Option β} (h : o.isSome = p.isSome)
    (h' : o'.isSome = p'.isSome) : (o.or o').isSome = (p.or p').isSome := by
  rw [Option.isSome_or, Option.isSome_or, h, h']

theorem alike_below {k : Cursor → Option α} {k' : Cursor → Option β} (n : Nat) (h : Alike k k') :
    Alike (fun c => if c.rest.length < n then k c else none)
      (fun c => if c.rest.length < n then k' c else none) := by
  intro c d hcd
  simp only [← hcd.rest_eq]
  by_cases hlt : c.rest.length < n
  · rw [if_pos hlt, if_pos hlt]
    exact h c d hcd
  · rw [if_neg hlt, if_neg hlt]
    rfl

section
variable {body : (Cursor → Option α) → Cursor → Option α}
  {body' : (Cursor → Option β) → Cursor → Option β}
  (hbody : ∀ k k', Alike k k' → Alike (body k) (body' k'))
  {greedy : Bool} {k : Cursor → Option α} {k' : Cursor → Option β} (hk : Alike k k')
include hbody hk

private theorem isSome_repeatFrom (n : Nat) (c d : Cursor) (hcd : c.SamePlace d)
    (hn : c.rest.length = n) :
    (repeatFrom body greedy k c).isSome = (repeatFrom body' greedy k' d).isSome := by
  induction n using Nat.strongRecOn generalizing c d with
  | ind n ih =>
    have hagain : (repeatAgain body greedy k c).isSome =
        (repeatAgain body' greedy k' d).isSome := by
      unfold repeatAgain
      refine hbody _ _ ?_ c d hcd
      intro e f hef
      simp only [← hcd.rest_eq, ← hef.rest_eq]
      by_cases hlt : e.rest.length < c.rest.length
      · rw [if_pos hlt, if_pos hlt]
        exact ih e.rest.length (hn ▸ hlt) e f hef rfl
      · rw [if_neg hlt, if_neg hlt]
        rfl
    rw [repeatFrom_eq, repeatFrom_eq]
    cases greedy with
    | true => exact isSome_or hagain (hk c d hcd)
    | false => exact isSome_or (hk c d hcd) hagain

theorem alike_repeatFrom : Alike (repeatFrom body greedy k) (repeatFrom body' greedy k') :=
  fun c d hcd => isSome_repeatFrom hbody hk c.rest.length c d hcd rfl

theorem alike_repeatAgain : Alike (repeatAgain body greedy k) (repeatAgain body' greedy k') := by
  intro c d hcd
  unfold repeatAgain
  rw [← hcd.rest_eq]
  exact hbody _ _ (alike_below c.rest.length (alike_repeatFrom hbody hk)) c d hcd

end

theorem consume?_samePlace {c d : Cursor} (h : c.SamePlace d) (s : CharSet) :
    (c.consume? s = none ∧ d.consume? s = none) ∨
      ∃ c' d', c.consume? s = some c' ∧ d.consume? s = some d' ∧ c'.SamePlace d' := by
  unfold Cursor.consume?
  rw [h.rest_eq]
  cases d.rest with
  | nil => exact Or.inl ⟨rfl, rfl⟩
  | cons a rest =>
    by_cases ha : s.contains a = true
    · simp only [ha, if_true]
      exact Or.inr ⟨_, _, rfl, rfl, ⟨rfl, rfl⟩⟩
    · simp only [ha]
      exact Or.inl ⟨rfl, rfl⟩

/-- What a node with continuations does depends on nothing but the place, if they do. -/
theorem alike_run (n : Node) (hn : n.unmarked = true) {k : Cursor → Option α}
    {k' : Cursor → Option β} (hk : Alike k k') : Alike (n.run k) (n.run k') := by
  induction n generalizing k k' with
  | empty => exact hk
  | set s =>
    intro c d hcd
    unfold run
    rcases consume?_samePlace hcd s with ⟨hc, hd⟩ | ⟨c', d', hc, hd, hcd'⟩
    · rw [hc, hd]
      rfl
    · rw [hc, hd]
      exact hk c' d' hcd'
  | assertion a =>
    intro c d hcd
    unfold run
    rw [hcd.before_eq, hcd.rest_eq]
    cases a.holds d.before d.rest with
    | true => exact hk c d hcd
    | false => rfl
  | group i body ih =>
    intro c d hcd
    have hgroup : Alike (fun later => k (Cursor.remember i c later))
        (fun later => k' (Cursor.remember i d later)) :=
      fun e f hef => hk _ _ ⟨hef.before_eq, hef.rest_eq⟩
    exact ih hn hgroup c d hcd
  | seq a b iha ihb =>
    obtain ⟨ha, hb⟩ := Bool.and_eq_true _ _ |>.mp hn
    exact iha ha (ihb hb hk)
  | alt a b iha ihb =>
    obtain ⟨ha, hb⟩ := Bool.and_eq_true _ _ |>.mp hn
    exact fun c d hcd => isSome_or (iha ha hk c d hcd) (ihb hb hk c d hcd)
  | opt greedy body ih =>
    intro c d hcd
    cases greedy with
    | true => exact isSome_or (ih hn hk c d hcd) (hk c d hcd)
    | false => exact isSome_or (hk c d hcd) (ih hn hk c d hcd)
  | star m greedy body ih =>
    exact alike_repeatFrom (fun k k' => ih (Bool.and_eq_true _ _ |>.mp hn).2) hk
  | plus m greedy body ih =>
    exact alike_repeatAgain (fun k k' => ih (Bool.and_eq_true _ _ |>.mp hn).2) hk
  | mark m => cases hn

theorem Leads.passed {n : Node} (hn : n.unmarked = true) {c d : Cursor} (h : n.Leads c d)
    (hc : c.passed = []) : d.passed = [] := by
  have hrounds : ∀ {body : Node},
      (∀ {c d : Cursor}, body.Leads c d → c.passed = [] → d.passed = []) →
      ∀ {c d : Cursor}, Relation.ReflTransGen (Round body.Leads none) c d →
        c.passed = [] → d.passed = [] := by
    intro body ih c d ht hc
    induction ht with
    | refl => exact hc
    | tail _ hone ihd =>
      obtain ⟨e, hlead, hpass⟩ := hone
      cases hpass
      exact ih hlead ihd
  induction n generalizing c d with
  | empty =>
    cases h
    exact hc
  | set s =>
    change c.consume? s = some d at h
    unfold Cursor.consume? at h
    split at h
    · cases h
    · split at h
      · cases h
        rfl
      · cases h
  | assertion a =>
    obtain ⟨_, rfl⟩ := h
    exact hc
  | group i body ih =>
    obtain ⟨e, hlead, rfl⟩ := h
    have hpassed := ih hn hlead hc
    exact hpassed
  | seq a b iha ihb =>
    obtain ⟨ha, hb⟩ := Bool.and_eq_true _ _ |>.mp hn
    obtain ⟨e, hleada, hleadb⟩ := h
    exact ihb hb hleadb (iha ha hleada hc)
  | alt a b iha ihb =>
    obtain ⟨ha, hb⟩ := Bool.and_eq_true _ _ |>.mp hn
    exact h.elim (fun h => iha ha h hc) (fun h => ihb hb h hc)
  | opt greedy body ih =>
    rcases h with rfl | h
    · exact hc
    · exact ih hn h hc
  | star m greedy body ih =>
    simp only [unmarked, Bool.and_eq_true, Option.isNone_iff_eq_none] at hn
    obtain ⟨⟨rfl, _⟩, hbody⟩ := hn
    obtain ⟨e, hpass, ht⟩ := h
    cases hpass
    exact hrounds (fun h => ih hbody h) ht hc
  | plus m greedy body ih =>
    simp only [unmarked, Bool.and_eq_true, Option.isNone_iff_eq_none] at hn
    obtain ⟨⟨rfl, _⟩, hbody⟩ := hn
    exact hrounds (fun h => ih hbody h) (Relation.TransGen.to_reflTransGen h) hc
  | mark m => cases hn

theorem Leads.within {n : Node} (hn : n.unmarked = true) {s c d : Cursor} (h : n.Leads c d)
    (hc : s.Within c) : s.Within d := by
  obtain ⟨x, hx⟩ := hc.reads
  obtain ⟨y, hy, _⟩ := h.reads
  exact ⟨⟨x ++ y, hx.trans hy⟩, h.passed hn hc.passed_eq⟩

theorem within_of_mem_ways {n : Node} (hn : n.unmarked = true) {s : Cursor} {cs : List Cursor}
    (hcs : ∀ c ∈ cs, s.Within c) {d : Cursor} (hd : d ∈ n.ways cs) : s.Within d := by
  obtain ⟨c, hc, hlead⟩ := leads_of_mem_ways n cs d hd
  exact hlead.within hn (hcs c hc)

/-- Of several ways to one place the first one decides. -/
theorem findSome?_distinct {s : Cursor} {cs : List Cursor} (hcs : ∀ c ∈ cs, s.Within c)
    {k : Cursor → Option α} (hk : Alike k k) :
    (Cursor.distinct cs).findSome? k = cs.findSome? k := by
  have hloop : ∀ as bs : List Cursor, (∀ c ∈ as, s.Within c) → (∀ c ∈ bs, s.Within c) →
      (List.eraseDupsBy.loop Cursor.meets as bs).findSome? k =
        (bs.reverse.findSome? k).or (as.findSome? k) := by
    intro as
    induction as with
    | nil =>
      intro bs _ _
      rw [List.findSome?_nil, Option.or_none]
      rfl
    | cons a as ih =>
      intro bs has hbs
      have hrest : ∀ c ∈ as, s.Within c := fun c hc => has c (List.mem_cons_of_mem a hc)
      have ha := has a List.mem_cons_self
      unfold List.eraseDupsBy.loop
      cases hany : bs.any a.meets with
      | true =>
        obtain ⟨b, hb, hab⟩ := List.any_eq_true.mp hany
        have hplace := ha.samePlace (hbs b hb) ((ha.meets_iff (hbs b hb)).mp hab)
        rw [List.findSome?_cons]
        refine (ih bs hrest hbs).trans ?_
        cases hfound : bs.reverse.findSome? k with
        | some r => rw [Option.some_or, Option.some_or]
        | none =>
          have hkb := List.findSome?_eq_none_iff.mp hfound b (List.mem_reverse.mpr hb)
          rw [(hk.none_iff hplace).mpr hkb]
      | false =>
        refine (ih (a :: bs) hrest ?_).trans ?_
        · intro c hc
          rcases List.mem_cons.mp hc with rfl | hc
          · exact ha
          · exact hbs c hc
        · rw [List.reverse_cons, List.findSome?_append, Option.or_assoc, List.findSome?_cons,
            List.findSome?_cons, List.findSome?_nil]
          cases k a with
          | some r => rfl
          | none => rfl
  exact (hloop cs [] hcs (fun c hc => absurd hc List.not_mem_nil)).trans (Option.none_or)

theorem findSome?_congr {γ : Type} {l : List γ} {f g : γ → Option α} (h : ∀ a ∈ l, f a = g a) :
    l.findSome? f = l.findSome? g := by
  induction l with
  | nil => rfl
  | cons a l ih =>
    rw [List.findSome?_cons, List.findSome?_cons, h a List.mem_cons_self,
      ih fun b hb => h b (List.mem_cons_of_mem a hb)]

theorem findSome?_singleton {γ : Type} (a : γ) (f : γ → Option α) : [a].findSome? f = f a := by
  rw [List.findSome?_cons, List.findSome?_nil]
  cases f a with
  | some r => rfl
  | none => rfl

theorem findSome?_cons_or {γ : Type} (a : γ) (l : List γ) (f : γ → Option α) :
    (a :: l).findSome? f = (f a).or (l.findSome? f) := by
  rw [List.findSome?_cons]
  cases f a with
  | some r => rfl
  | none => rfl

theorem findSome?_filterMap {γ δ : Type} (l : List γ) (f : γ → Option δ) (k : δ → Option α) :
    (l.filterMap f).findSome? k = l.findSome? fun a => (f a).bind k := by
  rw [← List.head?_filterMap, ← List.head?_filterMap, List.filterMap_filterMap]

theorem findSome?_flatMap {γ δ : Type} (l : List γ) (f : γ → List δ) (k : δ → Option α) :
    (l.flatMap f).findSome? k = l.findSome? fun a => (f a).findSome? k := by
  induction l with
  | nil => rfl
  | cons a l ih =>
    rw [List.flatMap_cons, List.findSome?_append, ih, List.findSome?_cons]
    cases (f a).findSome? k with
    | some r => rfl
    | none => rfl

end Node

end Dictation
