import Dictation.Proofs.Pattern.Backtracking
/-!
# The first way

In a pattern without marks, the first way of the search on which going on succeeds is the one that
backtracking takes. The argument is about repetitions: all places that a repetition has found so far
have been left for good, and if none of them succeeded then neither does any repetition from there.
-/
namespace Dictation.Node

open Cursor

variable {α : Type}

section
variable {s : Cursor} {body : Cursor → List Cursor}
  {run : (Cursor → Option α) → Cursor → Option α} {greedy : Bool} {k : Cursor → Option α}

/-- What the places found so far amount to; the last one found comes first. -/
def outcome (k : Cursor → Option α) (found : List Cursor) : Option α := found.reverse.findSome? k

theorem outcome_cons (k : Cursor → Option α) (found : List Cursor) (c : Cursor) :
    outcome k (c :: found) = (outcome k found).or (k c) := by
  unfold outcome
  rw [List.reverse_cons, List.findSome?_append, List.findSome?_cons, List.findSome?_nil]
  cases k c with
  | some r => rfl
  | none => rfl

/-- Whether repeating from a place of `found` is pointless unless one of `found` succeeds. -/
def Settled (k rep : Cursor → Option α) (found : List Cursor) (d : Cursor) : Prop :=
  outcome k found = none → rep d = none

/-- From `found` on, places from `least` on were found that amount to `r`, and they are settled. -/
structure Extends (s : Cursor) (k rep : Cursor → Option α) (least : Nat) (r : Option α)
    (found later : List Cursor) : Prop where
  outcome_eq : outcome k later = (outcome k found).or r
  mem : ∀ d ∈ later, d ∈ found ∨ s.Within d ∧ least ≤ d.used ∧ Settled k rep later d

namespace Extends

variable {rep : Cursor → Option α} {least : Nat} {r r' : Option α}
  {found later last : List Cursor}

protected theorem refl (found : List Cursor) : Extends s k rep least none found found :=
  ⟨Option.or_none.symm, fun _ hd => Or.inl hd⟩

theorem settled (h : Extends s k rep least r found later) {d : Cursor}
    (hd : Settled k rep found d) : Settled k rep later d := by
  intro hnone
  rw [h.outcome_eq, Option.or_eq_none_iff] at hnone
  exact hd hnone.1

protected theorem trans (h : Extends s k rep least r found later)
    (h' : Extends s k rep least r' later last) :
    Extends s k rep least (r.or r') found last where
  outcome_eq := by rw [h'.outcome_eq, h.outcome_eq, Option.or_assoc]
  mem d hd := by
    rcases h'.mem d hd with hd | hnew
    · exact (h.mem d hd).imp_right fun hnew => ⟨hnew.1, hnew.2.1, h'.settled hnew.2.2⟩
    · exact Or.inr hnew

theorem weaken {least' : Nat} (hle : least' ≤ least) (h : Extends s k rep least r found later) :
    Extends s k rep least' r found later where
  outcome_eq := h.outcome_eq
  mem d hd := (h.mem d hd).imp_right fun hnew => ⟨hnew.1, Nat.le_trans hle hnew.2.1, hnew.2.2⟩

theorem within (h : Extends s k rep least r found later) (hfound : ∀ d ∈ found, s.Within d) :
    ∀ d ∈ later, s.Within d :=
  fun d hd => (h.mem d hd).elim (hfound d) (fun hnew => hnew.1)

theorem settled_from (h : Extends s k rep least r found later)
    (hfound : ∀ d ∈ found, least ≤ d.used → Settled k rep found d) :
    ∀ d ∈ later, least ≤ d.used → Settled k rep later d :=
  fun d hd hle => (h.mem d hd).elim (fun hd => h.settled (hfound d hd hle)) fun hnew => hnew.2.2

end Extends

private theorem any_meets_iff {found : List Cursor} (hfound : ∀ d ∈ found, s.Within d)
    {c : Cursor} (hc : s.Within c) :
    found.any c.meets = true ↔ ∃ d ∈ found, c.used = d.used := by
  rw [List.any_eq_true]
  exact ⟨fun ⟨d, hd, h⟩ => ⟨d, hd, (hc.meets_iff (hfound d hd)).mp h⟩,
    fun ⟨d, hd, h⟩ => ⟨d, hd, (hc.meets_iff (hfound d hd)).mpr h⟩⟩

/-- Coming to a place settles it, if going on from there finds only later places. -/
private theorem enter_extends {more : List Cursor → Cursor → List Cursor} {found : List Cursor}
    {c : Cursor} (hrep : Alike (repeatFrom run greedy k) (repeatFrom run greedy k))
    (hfound : ∀ d ∈ found, s.Within d) (hc : s.Within c)
    (hsettled : ∀ d ∈ found, c.used ≤ d.used → Settled k (repeatFrom run greedy k) found d)
    (hmore : ∀ found, (∀ d ∈ found, s.Within d) →
      (∀ d ∈ found, c.used + 1 ≤ d.used → Settled k (repeatFrom run greedy k) found d) →
      Extends s k (repeatFrom run greedy k) (c.used + 1) (repeatAgain run greedy k c) found
        (more found c)) :
    Extends s k (repeatFrom run greedy k) c.used (repeatFrom run greedy k c) found
      (enter more greedy found c) := by
  unfold enter
  by_cases hany : found.any c.meets = true
  · rw [if_pos hany]
    obtain ⟨d, hd, hused⟩ := (any_meets_iff hfound hc).mp hany
    refine ⟨?_, fun e he => Or.inl he⟩
    cases hout : outcome k found with
    | some r => rfl
    | none =>
      have hrepd := hsettled d hd (Nat.le_of_eq hused) hout
      have hplace := hc.samePlace (hfound d hd) hused
      rw [(hrep.none_iff hplace).mpr hrepd]
      rfl
  · rw [if_neg hany]
    cases greedy with
    | true =>
      rw [if_pos rfl]
      have hext := hmore found hfound
        (fun d hd hle => hsettled d hd (Nat.le_of_succ_le hle))
      have hany' : ¬ (more found c).any c.meets = true := by
        intro h
        obtain ⟨d, hd, hused⟩ := (any_meets_iff (hext.within hfound) hc).mp h
        rcases hext.mem d hd with hd | hnew
        · exact hany ((any_meets_iff hfound hc).mpr ⟨d, hd, hused⟩)
        · have hle := hnew.2.1
          omega
      have hout : outcome k (c :: more found c) =
          (outcome k found).or (repeatFrom run true k c) := by
        rw [outcome_cons, hext.outcome_eq, Option.or_assoc, repeatFrom_eq, if_pos rfl]
      unfold addTo
      rw [if_neg hany']
      refine ⟨hout, fun d hd => ?_⟩
      rcases List.mem_cons.mp hd with rfl | hd
      · refine Or.inr ⟨hc, Nat.le_refl _, fun hnone => ?_⟩
        rw [hout, Option.or_eq_none_iff] at hnone
        exact hnone.2
      · refine (hext.mem d hd).imp_right fun hnew => ⟨hnew.1, Nat.le_of_succ_le hnew.2.1, ?_⟩
        intro hnone
        rw [outcome_cons, Option.or_eq_none_iff] at hnone
        exact hnew.2.2 hnone.1
    | false =>
      rw [if_neg Bool.false_ne_true]
      have hwithin : ∀ d ∈ c :: found, s.Within d := by
        intro d hd
        rcases List.mem_cons.mp hd with rfl | hd
        · exact hc
        · exact hfound d hd
      have hext := hmore (c :: found) hwithin (fun d hd hle => by
        rcases List.mem_cons.mp hd with rfl | hd
        · omega
        · intro hnone
          rw [outcome_cons, Option.or_eq_none_iff] at hnone
          exact hsettled d hd (Nat.le_of_succ_le hle) hnone.1)
      have hout : outcome k (more (c :: found) c) =
          (outcome k found).or (repeatFrom run false k c) := by
        rw [hext.outcome_eq, outcome_cons, Option.or_assoc, repeatFrom_eq,
          if_neg Bool.false_ne_true]
      refine ⟨hout, fun d hd => ?_⟩
      rcases hext.mem d hd with hd | hnew
      · rcases List.mem_cons.mp hd with rfl | hd
        · refine Or.inr ⟨hc, Nat.le_refl _, fun hnone => ?_⟩
          rw [hout, Option.or_eq_none_iff] at hnone
          exact hnone.2
        · exact Or.inl hd
      · exact Or.inr ⟨hnew.1, Nat.le_of_succ_le hnew.2.1, hnew.2.2⟩

private theorem foldl_extends {step : List Cursor → Cursor → List Cursor}
    {rep answer : Cursor → Option α} {least : Nat} {cs : List Cursor}
    (hstep : ∀ c ∈ cs, ∀ found, (∀ d ∈ found, s.Within d) →
      (∀ d ∈ found, least ≤ d.used → Settled k rep found d) →
      Extends s k rep least (answer c) found (step found c))
    (found : List Cursor) (hfound : ∀ d ∈ found, s.Within d)
    (hsettled : ∀ d ∈ found, least ≤ d.used → Settled k rep found d) :
    Extends s k rep least (cs.findSome? answer) found (cs.foldl step found) := by
  induction cs generalizing found with
  | nil => exact .refl found
  | cons c cs ih =>
    have hone := hstep c List.mem_cons_self found hfound hsettled
    have hrest := ih (fun c' hc' => hstep c' (List.mem_cons_of_mem c hc')) (step found c)
      (hone.within hfound) (hone.settled_from hsettled)
    have hall := hone.trans hrest
    rw [List.foldl_cons, List.findSome?_cons]
    cases hanswer : answer c with
    | some r =>
      rw [hanswer, Option.some_or] at hall
      exact hall
    | none =>
      rw [hanswer, Option.none_or] at hall
      exact hall

variable (hfind : ∀ k : Cursor → Option α, Alike k k →
    ∀ c, s.Within c → (body c).findSome? k = run k c)
  (hmem : ∀ c, s.Within c → ∀ d ∈ body c, s.Within d ∧ c.used < d.used)
  (hrun : ∀ k k' : Cursor → Option α, Alike k k' → Alike (run k) (run k'))
  (hk : Alike k k)
include hfind hmem hrun hk

private theorem repeatAgain_eq {c : Cursor} (hc : s.Within c) :
    repeatAgain run greedy k c = (body c).findSome? (repeatFrom run greedy k) := by
  unfold repeatAgain
  rw [← hfind _ (alike_below c.rest.length (alike_repeatFrom hrun hk)) c hc]
  -- Every repetition consumes, so less is left behind it.
  have hshorter : ∀ d ∈ body c, d.rest.length < c.rest.length := by
    intro d hd
    obtain ⟨hwithin, hused⟩ := hmem c hc d hd
    obtain ⟨x, hx⟩ := hc.reads
    obtain ⟨y, hy⟩ := hwithin.reads
    have hcl := hx.length_eq
    have hcu := hx.used_eq
    have hdl := hy.length_eq
    have hdu := hy.used_eq
    omega
  exact findSome?_congr fun d hd => if_pos (hshorter d hd)

private theorem iterate_extends (bound : Nat) (found : List Cursor) {c : Cursor}
    (hc : s.Within c) (hbound : c.rest.length < bound) (hfound : ∀ d ∈ found, s.Within d)
    (hsettled : ∀ d ∈ found, c.used + 1 ≤ d.used →
      Settled k (repeatFrom run greedy k) found d) :
    Extends s k (repeatFrom run greedy k) (c.used + 1) (repeatAgain run greedy k c) found
      (iterate body none greedy bound found c) := by
  induction bound generalizing found c with
  | zero => omega
  | succ bound ih =>
    have hbody : (body c).filterMap (·.passAny? none) = body c := List.filterMap_some
    rw [iterate_succ, hbody, repeatAgain_eq hfind hmem hrun hk hc]
    refine foldl_extends (fun d hd found hfound hsettled => ?_) found hfound hsettled
    obtain ⟨hwithin, hused⟩ := hmem c hc d hd
    refine (enter_extends (alike_repeatFrom hrun hk) hfound hwithin
      (fun e he hle => hsettled e he (Nat.le_trans hused hle)) ?_).weaken hused
    intro found hfound hsettled
    simp only [if_pos hused]
    refine ih found hwithin ?_ hfound hsettled
    obtain ⟨x, hx⟩ := hc.reads
    obtain ⟨y, hy⟩ := hwithin.reads
    have hcl := hx.length_eq
    have hcu := hx.used_eq
    have hdl := hy.length_eq
    have hdu := hy.used_eq
    omega

private theorem findSome?_iterateAll {zero : Bool} {cs : List Cursor}
    (hcs : ∀ c ∈ cs, s.Within c) :
    (iterateAll body none greedy zero cs).findSome? k =
      cs.findSome? (if zero then repeatFrom run greedy k else repeatAgain run greedy k) := by
  have hmore : ∀ c ∈ cs, ∀ found, (∀ d ∈ found, s.Within d) →
      (∀ d ∈ found, c.used + 1 ≤ d.used → Settled k (repeatFrom run greedy k) found d) →
      Extends s k (repeatFrom run greedy k) (c.used + 1) (repeatAgain run greedy k c) found
        (iterate body none greedy (c.rest.length + 1) found c) :=
    fun c hc found hfound hsettled =>
      iterate_extends hfind hmem hrun hk _ found (hcs c hc) (Nat.lt_succ_self _) hfound hsettled
  have hnil : ∀ d ∈ ([] : List Cursor), s.Within d := fun d hd => absurd hd List.not_mem_nil
  cases zero with
  | true =>
    have hext := foldl_extends (fun c hc found hfound hsettled =>
      (enter_extends (alike_repeatFrom hrun hk) hfound (hcs c hc)
        (fun d hd _ => hsettled d hd (Nat.zero_le _)) (hmore c hc)).weaken (Nat.zero_le _))
      [] hnil (fun d hd => absurd hd List.not_mem_nil)
    rw [iterateAll_zero, if_pos rfl]
    exact hext.outcome_eq
  | false =>
    have hext := foldl_extends (fun c hc found hfound hsettled =>
      (hmore c hc found hfound (fun d hd _ => hsettled d hd (Nat.zero_le _))).weaken
        (Nat.zero_le _))
      [] hnil (fun d hd => absurd hd List.not_mem_nil)
    rw [iterateAll_one, if_neg Bool.false_ne_true]
    exact hext.outcome_eq

end

/-- Of the ways through a node, the first one on which going on succeeds is the one that backtracking
takes. -/
theorem findSome?_ways (n : Node) (hn : n.unmarked = true) {s : Cursor} {cs : List Cursor}
    (hcs : ∀ c ∈ cs, s.Within c) {k : Cursor → Option α} (hk : Alike k k) :
    (n.ways cs).findSome? k = cs.findSome? (n.run k) := by
  have hone : ∀ {c : Cursor}, s.Within c → ∀ d ∈ [c], s.Within d := by
    intro c hc d hd
    rw [List.mem_singleton.mp hd]
    exact hc
  have hways : ∀ {body : Node}, body.unmarked = true → ∀ {c : Cursor}, s.Within c →
      ∀ d ∈ body.ways [c], s.Within d :=
    fun hbody _ hc _ hd => within_of_mem_ways hbody (hone hc) hd
  induction n generalizing cs k with
  | empty => rfl
  | set set => exact findSome?_filterMap cs _ k
  | assertion a =>
    unfold ways
    rw [← List.filterMap_eq_filter, findSome?_filterMap]
    refine findSome?_congr fun c _ => ?_
    rw [run_assertion]
    unfold Option.guard
    by_cases hholds : a.holds c.before c.rest = true
    · rw [if_pos hholds, if_pos hholds]
      rfl
    · rw [if_neg hholds, if_neg hholds]
      rfl
  | group i body ih =>
    have hall : ∀ d ∈ cs.flatMap (fun c => (body.ways [c]).map (remember i c)), s.Within d := by
      intro d hd
      obtain ⟨c, hc, hd⟩ := List.mem_flatMap.mp hd
      obtain ⟨e, he, rfl⟩ := List.mem_map.mp hd
      have hwithin : s.Within e := hways (show body.unmarked = true from hn) (hcs c hc) e he
      obtain ⟨x, hx⟩ := hwithin.reads
      exact ⟨⟨x, hx.rest_eq, hx.used_eq, hx.before_eq⟩, hwithin.passed_eq⟩
    unfold ways
    rw [findSome?_distinct hall hk, findSome?_flatMap]
    refine findSome?_congr fun c hc => ?_
    have hgroup : Alike (fun later => k (remember i c later))
        (fun later => k (remember i c later)) :=
      fun e f hef => hk _ _ ⟨hef.before_eq, hef.rest_eq⟩
    rw [List.findSome?_map]
    exact (ih hn (hone (hcs c hc)) hgroup).trans (findSome?_singleton c _)
  | seq a b iha ihb =>
    obtain ⟨ha, hb⟩ := Bool.and_eq_true _ _ |>.mp hn
    exact (ihb hb (fun d hd => within_of_mem_ways ha hcs hd) hk).trans
      (iha ha hcs (alike_run b hb hk))
  | alt a b iha ihb =>
    obtain ⟨ha, hb⟩ := Bool.and_eq_true _ _ |>.mp hn
    have hall : ∀ d ∈ cs.flatMap (fun c => a.ways [c] ++ b.ways [c]), s.Within d := by
      intro d hd
      obtain ⟨c, hc, hd⟩ := List.mem_flatMap.mp hd
      exact (List.mem_append.mp hd).elim (hways ha (hcs c hc) d) (hways hb (hcs c hc) d)
    unfold ways
    rw [findSome?_distinct hall hk, findSome?_flatMap]
    refine findSome?_congr fun c hc => ?_
    rw [List.findSome?_append, iha ha (hone (hcs c hc)) hk, ihb hb (hone (hcs c hc)) hk,
      findSome?_singleton, findSome?_singleton, run_alt]
  | opt greedy body ih =>
    have hall : ∀ d ∈ cs.flatMap
        (fun c => if greedy then body.ways [c] ++ [c] else c :: body.ways [c]), s.Within d := by
      intro d hd
      obtain ⟨c, hc, hd⟩ := List.mem_flatMap.mp hd
      have hboth : d ∈ body.ways [c] ∨ d = c := by
        cases greedy with
        | true => exact (List.mem_append.mp hd).imp_right List.mem_singleton.mp
        | false => exact (List.mem_cons.mp hd).symm
      rcases hboth with hd | rfl
      · exact hways (show body.unmarked = true from hn) (hcs c hc) d hd
      · exact hcs d hc
    unfold ways
    rw [findSome?_distinct hall hk, findSome?_flatMap]
    refine findSome?_congr fun c hc => ?_
    have hbody := (ih hn (hone (hcs c hc)) hk).trans (findSome?_singleton c _)
    cases greedy with
    | true => rw [if_pos rfl, List.findSome?_append, hbody, findSome?_singleton, run_opt_greedy]
    | false => rw [if_neg Bool.false_ne_true, findSome?_cons_or, hbody, run_opt_lazy]
  | star m greedy body ih =>
    simp only [unmarked, Bool.and_eq_true, Option.isNone_iff_eq_none] at hn
    obtain ⟨⟨rfl, hconsumes⟩, hbody⟩ := hn
    have hcs' : cs.filterMap (·.passAny? none) = cs := List.filterMap_some
    unfold ways
    rw [hcs']
    exact findSome?_iterateAll
      (fun k hk c hc => (ih hbody (hone hc) hk).trans (findSome?_singleton c _))
      (fun c hc d hd => ⟨hways hbody hc d hd, used_lt_of_mem_ways hconsumes hd⟩)
      (fun k k' => alike_run body hbody) hk hcs
  | plus m greedy body ih =>
    simp only [unmarked, Bool.and_eq_true, Option.isNone_iff_eq_none] at hn
    obtain ⟨⟨rfl, hconsumes⟩, hbody⟩ := hn
    exact findSome?_iterateAll
      (fun k hk c hc => (ih hbody (hone hc) hk).trans (findSome?_singleton c _))
      (fun c hc d hd => ⟨hways hbody hc d hd, used_lt_of_mem_ways hconsumes hd⟩)
      (fun k k' => alike_run body hbody) hk hcs
  | mark m => cases hn

theorem matchAt?_eq_run {n : Node} (hn : n.unmarked = true) (before : Option Char) (t : Text) :
    n.matchAt? before t =
      (n.run some (start before t)).map fun later =>
        ⟨(start before t).textTo later, later.groups⟩ := by
  have hstart : ∀ c ∈ [start before t], (start before t).Within c := by
    intro c hc
    rw [List.mem_singleton.mp hc]
    exact ⟨⟨[], .refl _⟩, rfl⟩
  have hfirst := findSome?_ways n hn hstart (fun c d _ => rfl : Alike some some)
  rw [findSome?_singleton, ← List.head?_filterMap, List.filterMap_some] at hfirst
  unfold matchAt?
  rw [← hfirst]

end Dictation.Node
