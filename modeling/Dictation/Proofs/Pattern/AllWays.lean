import Dictation.Proofs.Pattern.Scanning
/-!
# All ways are found

What a node matches is told without marks and without an order of preference. The search finds a way to the end of
every match. Marks rule out only detours: since each mark stands at one point of the pattern, what is read between
two passages of it at one place can be left out. And where two ways meet the search goes on with one of them only,
but nothing depends on the other.
-/
namespace Dictation

open Text

namespace Node

/-- Whether a node matches `x` between the character before it and the rest. -/
inductive Matches : Node → Option Char → Text → Text → Prop
  | empty {b rest} : Matches empty b [] rest
  | set {s c b rest} (h : s.contains c = true) : Matches (set s) b [c] rest
  | assertion {a b rest} (h : a.holds b rest = true) : Matches (assertion a) b [] rest
  | mark {m b rest} : Matches (mark m) b [] rest
  | group {i body b x rest} (h : Matches body b x rest) : Matches (group i body) b x rest
  | seq {m n b x y rest} (h : Matches m b x (y ++ rest)) (h' : Matches n (lastOf b x) y rest) :
      Matches (seq m n) b (x ++ y) rest
  | left {m n b x rest} (h : Matches m b x rest) : Matches (alt m n) b x rest
  | right {m n b x rest} (h : Matches n b x rest) : Matches (alt m n) b x rest
  | skip {greedy body b rest} : Matches (opt greedy body) b [] rest
  | opt {greedy body b x rest} (h : Matches body b x rest) : Matches (opt greedy body) b x rest
  | done {m greedy body b rest} : Matches (star m greedy body) b [] rest
  | again {m greedy body b x y rest} (h : Matches body b x (y ++ rest))
      (h' : Matches (star m greedy body) (lastOf b x) y rest) : Matches (star m greedy body) b (x ++ y) rest
  | once {m greedy body b x rest} (h : Matches body b x rest) : Matches (plus m greedy body) b x rest
  | more {m greedy body b x y rest} (h : Matches body b x (y ++ rest))
      (h' : Matches (plus m greedy body) (lastOf b x) y rest) : Matches (plus m greedy body) b (x ++ y) rest

open Relation in
private theorem matches_of_rounds {body : Node} {m : Option Nat} (greedy : Bool)
    (hbody : ∀ c d, body.Leads c d → ∃ x, c.Reads x d ∧ body.Matches c.before x d.rest) {c d : Cursor}
    (h : TransGen (Round body.Leads m) c d) :
    ∃ x, c.Reads x d ∧ (plus m greedy body).Matches c.before x d.rest := by
  have hround {c d : Cursor} (h : Round body.Leads m c d) : ∃ x, c.Reads x d ∧ body.Matches c.before x d.rest := by
    obtain ⟨e, hlead, hpass⟩ := h
    obtain ⟨x, hx, hmatch⟩ := hbody c e hlead
    have hread := hx.trans (Cursor.reads_passAny? hpass)
    rw [List.append_nil] at hread
    have hrest : e.rest = d.rest := (Cursor.reads_passAny? hpass).rest_eq
    exact ⟨x, hread, hrest ▸ hmatch⟩
  induction h using TransGen.head_induction_on with
  | single hone =>
    obtain ⟨x, hx, hmatch⟩ := hround hone
    exact ⟨x, hx, .once hmatch⟩
  | head hone _ ih =>
    obtain ⟨x, hx, hmatch⟩ := hround hone
    obtain ⟨y, hy, hrest⟩ := ih
    refine ⟨x ++ y, hx.trans hy, .more (hy.rest_eq ▸ hmatch) ?_⟩
    rw [lastOf, ← hx.before_eq]
    exact hrest

theorem star_of_plus {m : Option Nat} {greedy : Bool} {body : Node} {b : Option Char} {x rest : Text}
    (h : (plus m greedy body).Matches b x rest) : (star m greedy body).Matches b x rest := by
  generalize hn : plus m greedy body = n at h
  induction h with
  | once h =>
    cases hn
    have hdone (b rest) : (star m greedy body).Matches b [] rest := .done
    have hagain := Matches.again (y := []) h (hdone _ _)
    rwa [List.append_nil] at hagain
  | more h h' _ ih =>
    cases hn
    exact .again h (ih rfl)
  | _ => cases hn

/-- Where a node leads it has matched what lies between. -/
theorem Leads.matches {n : Node} {c d : Cursor} (h : n.Leads c d) :
    ∃ x, c.Reads x d ∧ n.Matches c.before x d.rest := by
  induction n generalizing c d with
  | empty =>
    cases h
    exact ⟨[], .refl c, .empty⟩
  | set s =>
    obtain ⟨a, ha, hread⟩ := Cursor.reads_consume? h
    exact ⟨[a], hread, .set ha⟩
  | assertion a =>
    obtain ⟨hholds, rfl⟩ := h
    exact ⟨[], .refl d, .assertion hholds⟩
  | group i body ih =>
    obtain ⟨e, hlead, rfl⟩ := h
    obtain ⟨x, hx, hmatch⟩ := ih hlead
    exact ⟨x, hx.remember i, .group hmatch⟩
  | seq a b iha ihb =>
    obtain ⟨e, ha, hb⟩ := h
    obtain ⟨x, hx, hmatch⟩ := iha ha
    obtain ⟨y, hy, hrest⟩ := ihb hb
    refine ⟨x ++ y, hx.trans hy, .seq (hy.rest_eq ▸ hmatch) ?_⟩
    rw [lastOf, ← hx.before_eq]
    exact hrest
  | alt a b iha ihb =>
    rcases h with h | h
    · obtain ⟨x, hx, hmatch⟩ := iha h
      exact ⟨x, hx, .left hmatch⟩
    · obtain ⟨x, hx, hmatch⟩ := ihb h
      exact ⟨x, hx, .right hmatch⟩
  | opt greedy body ih =>
    rcases h with rfl | h
    · exact ⟨[], .refl d, .skip⟩
    · obtain ⟨x, hx, hmatch⟩ := ih h
      exact ⟨x, hx, .opt hmatch⟩
  | star m greedy body ih =>
    obtain ⟨e, hpass, hrounds⟩ := h
    have hstart := Cursor.reads_passAny? hpass
    rcases Relation.reflTransGen_iff_eq_or_transGen.mp hrounds with rfl | hrounds
    · exact ⟨[], hstart, .done⟩
    · obtain ⟨x, hx, hmatch⟩ := matches_of_rounds greedy (fun _ _ => ih) hrounds
      refine ⟨[] ++ x, hstart.trans hx, star_of_plus ?_⟩
      rw [hstart.before_eq] at hmatch
      exact hmatch
  | plus m greedy body ih => exact matches_of_rounds greedy (fun _ _ => ih) h
  | mark m => exact ⟨[], Cursor.reads_pass? h, .mark⟩

end Node

/-- What happens on the way through a pattern. -/
inductive Event where
  | read
  | pass (m : Nat)
  deriving DecidableEq

/-- The character before a place and what follows it. -/
abbrev Spot := Option Char × Text

namespace Spot

/-- Where an event leads. -/
def after (s : Spot) : Event → Spot
  | .pass _ => s
  | .read =>
    match s.2 with
    | c :: rest => (some c, rest)
    | [] => s

def afterAll (s : Spot) (t : List Event) : Spot := t.foldl after s

theorem afterAll_append (s : Spot) (t u : List Event) : s.afterAll (t ++ u) = (s.afterAll t).afterAll u :=
  List.foldl_append

theorem afterAll_pass (s : Spot) (t : List Event) (m : Nat) (u : List Event) :
    s.afterAll (t ++ .pass m :: u) = (s.afterAll t).afterAll u := by
  rw [afterAll_append]
  rfl

theorem afterAll_of_not_mem {s : Spot} {t : List Event} (h : Event.read ∉ t) : s.afterAll t = s := by
  induction t generalizing s with
  | nil => rfl
  | cons e t ih =>
    cases e with
    | read => exact absurd List.mem_cons_self h
    | pass m => exact ih fun hmem => h (List.mem_cons_of_mem _ hmem)

end Spot

namespace Node

open Event (read pass)

def passing (m : Option Nat) : List Event := m.toList.map .pass

inductive Rounds (round : Spot → List Event → Spot → Prop) : Spot → List Event → Spot → Prop
  | nil {s} : Rounds round s [] s
  | cons {s t e u d} (h : round s t e) (h' : Rounds round e u d) : Rounds round s (t ++ u) d

/-- A round of a repetition, with the mark behind it. -/
def Circuit (run : Spot → List Event → Spot → Prop) (m : Option Nat) (s : Spot) (t : List Event) (e : Spot) : Prop :=
  ∃ u, run s u e ∧ t = u ++ passing m

/-- The traces of a node from one place to another. -/
def Runs : Node → Spot → List Event → Spot → Prop
  | empty, s, t, e => t = [] ∧ e = s
  | set cs, s, t, e => t = [read] ∧ ∃ c, cs.contains c = true ∧ s.2 = c :: e.2 ∧ e.1 = some c
  | assertion a, s, t, e => a.holds s.1 s.2 = true ∧ t = [] ∧ e = s
  | mark m, s, t, e => t = [pass m] ∧ e = s
  | group _ body, s, t, e => body.Runs s t e
  | seq a b, s, t, e => ∃ u f v, a.Runs s u f ∧ b.Runs f v e ∧ t = u ++ v
  | alt a b, s, t, e => a.Runs s t e ∨ b.Runs s t e
  | opt _ body, s, t, e => t = [] ∧ e = s ∨ body.Runs s t e
  | star m _ body, s, t, e => ∃ u, Rounds (Circuit body.Runs m) s u e ∧ t = passing m ++ u
  | plus m _ body, s, t, e => ∃ u f v, Circuit body.Runs m s u f ∧ Rounds (Circuit body.Runs m) f v e ∧ t = u ++ v

def marks : Node → List Nat
  | empty | set _ | assertion _ => []
  | mark m => [m]
  | group _ body | opt _ body => body.marks
  | seq a b | alt a b => a.marks ++ b.marks
  | star m _ body | plus m _ body => m.toList ++ body.marks

theorem afterAll_passing (s : Spot) (m : Option Nat) : s.afterAll (passing m) = s := by cases m <;> rfl

theorem Rounds.afterAll_eq {round : Spot → List Event → Spot → Prop}
    (hround : ∀ {s t e}, round s t e → e = s.afterAll t) {s e : Spot} {t : List Event} (h : Rounds round s t e) :
    e = s.afterAll t := by
  induction h with
  | nil => rfl
  | cons h _ ih => rw [Spot.afterAll_append, ← hround h, ih]

theorem Circuit.afterAll_eq {run : Spot → List Event → Spot → Prop} {m : Option Nat}
    (hrun : ∀ {s t e}, run s t e → e = s.afterAll t) {s e : Spot} {t : List Event} (h : Circuit run m s t e) :
    e = s.afterAll t := by
  obtain ⟨u, hu, rfl⟩ := h
  rw [Spot.afterAll_append, ← hrun hu, afterAll_passing]

/-- A trace says where it leads. -/
theorem Runs.afterAll_eq {n : Node} {s e : Spot} {t : List Event} (h : n.Runs s t e) : e = s.afterAll t := by
  induction n generalizing s t e with
  | empty =>
    obtain ⟨rfl, rfl⟩ := h
    rfl
  | set cs =>
    obtain ⟨rfl, c, _, hrest, hbefore⟩ := h
    obtain ⟨before, rest⟩ := s
    cases hrest
    exact Prod.ext hbefore rfl
  | assertion a =>
    obtain ⟨_, rfl, rfl⟩ := h
    rfl
  | mark m =>
    obtain ⟨rfl, rfl⟩ := h
    rfl
  | group i body ih => exact ih h
  | seq a b iha ihb =>
    obtain ⟨u, f, v, ha, hb, rfl⟩ := h
    rw [Spot.afterAll_append, ← iha ha, ihb hb]
  | alt a b iha ihb => exact h.elim iha ihb
  | opt greedy body ih =>
    rcases h with ⟨rfl, rfl⟩ | h
    · rfl
    · exact ih h
  | star m greedy body ih =>
    obtain ⟨u, hrounds, rfl⟩ := h
    rw [Spot.afterAll_append, afterAll_passing]
    exact hrounds.afterAll_eq (Circuit.afterAll_eq ih)
  | plus m greedy body ih =>
    obtain ⟨u, f, v, hfirst, hrounds, rfl⟩ := h
    rw [Spot.afterAll_append, ← hfirst.afterAll_eq ih]
    exact hrounds.afterAll_eq (Circuit.afterAll_eq ih)

/-- What a node matches it runs through. -/
theorem Matches.exists_runs {n : Node} {b : Option Char} {x rest : Text} (h : n.Matches b x rest) :
    ∃ t, n.Runs (b, x ++ rest) t (lastOf b x, rest) := by
  induction h with
  | empty => exact ⟨[], rfl, rfl⟩
  | set h => exact ⟨[read], rfl, _, h, rfl, rfl⟩
  | assertion h => exact ⟨[], h, rfl, rfl⟩
  | mark => exact ⟨[pass _], rfl, rfl⟩
  | group _ ih => exact ih
  | seq _ _ ih ih' =>
    obtain ⟨u, hu⟩ := ih
    obtain ⟨v, hv⟩ := ih'
    rw [List.append_assoc, lastOf_append]
    exact ⟨u ++ v, u, _, v, hu, hv, rfl⟩
  | left _ ih => exact ih.imp fun _ => .inl
  | right _ ih => exact ih.imp fun _ => .inr
  | skip => exact ⟨[], .inl ⟨rfl, rfl⟩⟩
  | opt _ ih => exact ih.imp fun _ => .inr
  | done => exact ⟨_, [], .nil, rfl⟩
  | again _ _ ih ih' =>
    obtain ⟨u, hu⟩ := ih
    obtain ⟨_, v, hv, rfl⟩ := ih'
    rw [List.append_assoc, lastOf_append]
    exact ⟨_, _, .cons ⟨u, hu, rfl⟩ hv, rfl⟩
  | once _ ih =>
    obtain ⟨u, hu⟩ := ih
    exact ⟨_, _, _, [], ⟨u, hu, rfl⟩, .nil, rfl⟩
  | more _ _ ih ih' =>
    obtain ⟨u, hu⟩ := ih
    obtain ⟨_, v, f, w, hv, hw, rfl⟩ := ih'
    rw [List.append_assoc, lastOf_append]
    exact ⟨_, _, _, _, ⟨u, hu, rfl⟩, .cons hv hw, rfl⟩

theorem append_cons_eq_append {α : Type} {x : α} {u w t v : List α} (h : t ++ v = u ++ x :: w) :
    (∃ y, t = u ++ x :: y ∧ w = y ++ v) ∨ ∃ y, u = t ++ y ∧ v = y ++ x :: w := by
  rcases List.append_eq_append_iff.mp h with ⟨y, hu, hv⟩ | ⟨y, ht, hy⟩
  · exact .inr ⟨y, hu, hv⟩
  · cases y with
    | nil => exact .inr ⟨[], by rw [ht, List.append_nil, List.append_nil], hy.symm⟩
    | cons z y =>
      obtain ⟨rfl, rfl⟩ := List.cons.inj hy
      exact .inl ⟨y, ht, rfl⟩

theorem passing_eq_append {m : Option Nat} {k : Nat} {u w : List Event} (h : passing m = u ++ pass k :: w) :
    m = some k ∧ u = [] ∧ w = [] := by
  cases m with
  | none => exact absurd h.symm (List.append_ne_nil_of_right_ne_nil u (List.cons_ne_nil _ w))
  | some j =>
    obtain ⟨rfl, hu⟩ | ⟨hu, hnil⟩ := List.singleton_eq_append_iff.mp h
    · cases hu
      exact ⟨rfl, rfl, rfl⟩
    · cases hnil

/-- Whether two traces that pass a mark at one place may go on as each other behind it. -/
def Crosses (run : Spot → List Event → Spot → Prop) (k : Nat) : Prop :=
  ∀ (s : Spot) (u w : List Event) (e s' : Spot) (u' w' : List Event) (e' : Spot),
    run s (u ++ pass k :: w) e → run s' (u' ++ pass k :: w') e' → s.afterAll u = s'.afterAll u' →
      run s (u ++ pass k :: w') e'

section
variable {round : Spot → List Event → Spot → Prop}

theorem Rounds.append {s e d : Spot} {t u : List Event} (h : Rounds round s t e) (h' : Rounds round e u d) :
    Rounds round s (t ++ u) d := by
  induction h with
  | nil => exact h'
  | cons hone _ ih => exact List.append_assoc _ _ _ ▸ .cons hone (ih h')

theorem Rounds.exists_round {s e : Spot} {t : List Event} (h : Rounds round s t e) {u w : List Event} {x : Event}
    (ht : t = u ++ x :: w) : ∃ u₁ f u₂ w₁ g w₂, Rounds round s u₁ f ∧ round f (u₂ ++ x :: w₁) g ∧
      Rounds round g w₂ e ∧ u = u₁ ++ u₂ ∧ w = w₁ ++ w₂ := by
  induction h generalizing u with
  | nil => exact absurd ht.symm (List.append_ne_nil_of_right_ne_nil u (List.cons_ne_nil x w))
  | cons hone hrest ih =>
    rcases append_cons_eq_append ht with ⟨y, rfl, rfl⟩ | ⟨y, rfl, hy⟩
    · exact ⟨[], _, u, y, _, _, .nil, hone, hrest, rfl, rfl⟩
    · obtain ⟨u₁, f, u₂, w₁, g, w₂, hfirst, hmid, hlast, rfl, rfl⟩ := ih hy
      exact ⟨_, f, u₂, w₁, g, w₂, .cons hone hfirst, hmid, hlast, (List.append_assoc _ _ _).symm, rfl⟩

theorem Rounds.crosses (hend : ∀ {s t e}, round s t e → e = s.afterAll t) {k : Nat} (hround : Crosses round k) :
    Crosses (Rounds round) k := by
  intro s u w e s' u' w' e' h h' hmeet
  obtain ⟨u₁, f, u₂, w₁, g, w₂, hfirst, hmid, _, rfl, rfl⟩ := h.exists_round rfl
  obtain ⟨u₁', f', u₂', w₁', g', w₂', hfirst', hmid', hlast', rfl, rfl⟩ := h'.exists_round rfl
  rw [Spot.afterAll_append, Spot.afterAll_append, ← hfirst.afterAll_eq hend, ← hfirst'.afterAll_eq hend] at hmeet
  have hcrossed := hfirst.append (.cons (hround _ _ _ _ _ _ _ _ hmid hmid' hmeet) hlast')
  simpa using hcrossed

end

theorem Circuit.cases_of_pass {run : Spot → List Event → Spot → Prop} {m : Option Nat} {k : Nat} {s e : Spot}
    {u w : List Event} (h : Circuit run m s (u ++ pass k :: w) e) :
    (∃ v, run s (u ++ pass k :: v) e ∧ w = v ++ passing m) ∨ m = some k ∧ w = [] ∧ run s u e := by
  obtain ⟨t, hrun, ht⟩ := h
  rcases append_cons_eq_append ht.symm with ⟨v, rfl, rfl⟩ | ⟨v, rfl, hv⟩
  · exact .inl ⟨v, hrun, rfl⟩
  · obtain ⟨hm, rfl, rfl⟩ := passing_eq_append hv
    exact .inr ⟨hm, rfl, (List.append_nil t).symm ▸ hrun⟩

theorem Runs.mem_marks {n : Node} {s e : Spot} {t : List Event} (h : n.Runs s t e) {k : Nat} (hk : pass k ∈ t) :
    k ∈ n.marks := by
  have hpassing {m : Option Nat} (h : pass k ∈ passing m) : k ∈ m.toList := by
    obtain ⟨j, hj, hsame⟩ := List.mem_map.mp h
    cases hsame
    exact hj
  have hrounds {body : Node} {m : Option Nat} (ih : ∀ {s t e}, body.Runs s t e → pass k ∈ t → k ∈ body.marks)
      {s t e} (h : Rounds (Circuit body.Runs m) s t e) (hk : pass k ∈ t) : k ∈ m.toList ++ body.marks := by
    obtain ⟨u, w, rfl⟩ := List.append_of_mem hk
    obtain ⟨_, _, _, _, _, _, _, hmid, _⟩ := h.exists_round rfl
    rcases hmid.cases_of_pass with ⟨v, hrun, _⟩ | ⟨rfl, _⟩
    · exact List.mem_append_right _ (ih hrun (by simp))
    · simp
  induction n generalizing s t e with
  | empty => rw [h.1] at hk; cases hk
  | set cs => rw [h.1] at hk; simp at hk
  | assertion a => rw [h.2.1] at hk; cases hk
  | mark m =>
    rw [h.1] at hk
    exact List.mem_singleton.mpr (Event.pass.inj (List.mem_singleton.mp hk))
  | group i body ih => exact ih h hk
  | seq a b iha ihb =>
    obtain ⟨u, f, v, ha, hb, rfl⟩ := h
    exact List.mem_append.mpr ((List.mem_append.mp hk).imp (iha ha) (ihb hb))
  | alt a b iha ihb => exact List.mem_append.mpr (h.imp (iha · hk) (ihb · hk))
  | opt greedy body ih =>
    rcases h with ⟨rfl, _⟩ | h
    · cases hk
    · exact ih h hk
  | star m greedy body ih =>
    obtain ⟨u, h, rfl⟩ := h
    rcases List.mem_append.mp hk with hk | hk
    · exact List.mem_append_left _ (hpassing hk)
    · exact hrounds ih h hk
  | plus m greedy body ih =>
    obtain ⟨u, f, v, hfirst, h, rfl⟩ := h
    exact hrounds ih (.cons hfirst h) hk

section
variable {body : Node} {m : Option Nat} (hmarks : (m.toList ++ body.marks).Nodup) {k : Nat}
include hmarks

theorem ne_some_of_mem_marks (hk : k ∈ body.marks) : m ≠ some k := by
  rintro rfl
  exact (List.nodup_cons.mp hmarks).1 hk

theorem Circuit.crosses (hbody : Crosses body.Runs k) : Crosses (Circuit body.Runs m) k := by
  intro s u w e s' u' w' e' h h' hmeet
  rcases h.cases_of_pass with ⟨v, hrun, rfl⟩ | ⟨hm, rfl, hrun⟩ <;>
    rcases h'.cases_of_pass with ⟨v', hrun', rfl⟩ | ⟨hm', rfl, hrun'⟩
  · exact ⟨_, hbody _ _ _ _ _ _ _ _ hrun hrun' hmeet, (List.append_assoc u (pass k :: v') _).symm⟩
  · exact absurd hm' (ne_some_of_mem_marks hmarks (hrun.mem_marks (by simp)))
  · exact absurd hm (ne_some_of_mem_marks hmarks (hrun'.mem_marks (by simp)))
  · have hsame : e' = e := by rw [hrun.afterAll_eq, hrun'.afterAll_eq, hmeet]
    exact hsame ▸ h

theorem Rounds.of_own_mark (hm : m = some k) {s e : Spot} {u w : List Event}
    (h : Rounds (Circuit body.Runs m) s (u ++ pass k :: w) e) :
    Rounds (Circuit body.Runs m) s (u ++ [pass k]) (s.afterAll u) ∧
      Rounds (Circuit body.Runs m) (s.afterAll u) w e := by
  obtain ⟨u₁, f, u₂, w₁, g, w₂, hfirst, hmid, hlast, rfl, rfl⟩ := h.exists_round rfl
  rcases hmid.cases_of_pass with ⟨v, hrun, _⟩ | ⟨_, rfl, hrun⟩
  · exact absurd hm (ne_some_of_mem_marks hmarks (hrun.mem_marks (by simp)))
  · have hg : s.afterAll (u₁ ++ u₂) = g := by
      rw [Spot.afterAll_append, ← hfirst.afterAll_eq (Circuit.afterAll_eq Runs.afterAll_eq), hrun.afterAll_eq]
    rw [hg, List.append_assoc]
    exact ⟨hfirst.append (List.append_nil (u₂ ++ [pass k]) ▸ .cons hmid .nil), hlast⟩

end

theorem runs_plus_of_rounds (greedy : Bool) {m : Option Nat} {body : Node} {s f g e : Spot} {u v w : List Event}
    (hfirst : Rounds (Circuit body.Runs m) s u f) (hmid : Circuit body.Runs m f v g)
    (hlast : Rounds (Circuit body.Runs m) g w e) : (plus m greedy body).Runs s (u ++ (v ++ w)) e := by
  cases hfirst with
  | nil => exact ⟨v, g, w, hmid, hlast, rfl⟩
  | cons hone hrest =>
    exact ⟨_, _, _, hone, hrest.append (.cons hmid hlast), List.append_assoc _ _ _⟩

/-- Where each mark stands at one point only, what follows a mark depends on the place only. -/
theorem Runs.crosses {n : Node} (hn : n.marks.Nodup) (k : Nat) : Crosses n.Runs k := by
  have hend {body : Node} {m : Option Nat} {s e : Spot} {t : List Event} (h : Circuit body.Runs m s t e) :
      e = s.afterAll t := h.afterAll_eq Runs.afterAll_eq
  induction n with
  | empty =>
    intro s u w e s' u' w' e' h
    exact absurd h.1 (by simp)
  | set cs =>
    intro s u w e s' u' w' e' h
    exact absurd h.1 (by simp [List.append_eq_singleton_iff])
  | assertion a =>
    intro s u w e s' u' w' e' h
    exact absurd h.2.1 (by simp)
  | mark m =>
    rintro s u w e s' u' w' e' ⟨ht, rfl⟩ ⟨ht', rfl⟩ hmeet
    obtain ⟨hm, rfl, rfl⟩ := passing_eq_append (m := some m) ht.symm
    obtain ⟨_, rfl, rfl⟩ := passing_eq_append (m := some m) ht'.symm
    cases hm
    exact ⟨rfl, hmeet.symm⟩
  | group i body ih => exact ih hn
  | seq a b iha ihb =>
    obtain ⟨hna, hnb, hdisjoint⟩ := List.nodup_append.mp hn
    have hside {f g f' g'} {t t' : List Event} (ha : a.Runs f t g) (hb : b.Runs f' t' g') (hk : pass k ∈ t) :
        pass k ∉ t' := fun hk' => hdisjoint k (ha.mem_marks hk) k (hb.mem_marks hk') rfl
    rintro s u w e s' u' w' e' ⟨t, f, v, ha, hb, ht⟩ ⟨t', f', v', ha', hb', ht'⟩ hmeet
    rcases append_cons_eq_append ht.symm with ⟨y, rfl, rfl⟩ | ⟨y, rfl, rfl⟩ <;>
      rcases append_cons_eq_append ht'.symm with ⟨y', rfl, rfl⟩ | ⟨y', rfl, rfl⟩
    · exact ⟨_, f', v', iha hna _ _ _ _ _ _ _ _ ha ha' hmeet, hb', (List.append_assoc u (pass k :: y') _).symm⟩
    · exact absurd (by simp) (hside ha hb' (by simp))
    · exact absurd (by simp) (hside ha' hb (by simp))
    · rw [Spot.afterAll_append, Spot.afterAll_append, ← ha.afterAll_eq, ← ha'.afterAll_eq] at hmeet
      exact ⟨t, f, _, ha, ihb hnb _ _ _ _ _ _ _ _ hb hb' hmeet, List.append_assoc t y _⟩
  | alt a b iha ihb =>
    obtain ⟨hna, hnb, hdisjoint⟩ := List.nodup_append.mp hn
    rintro s u w e s' u' w' e' (ha | hb) (ha' | hb') hmeet
    · exact .inl (iha hna _ _ _ _ _ _ _ _ ha ha' hmeet)
    · exact absurd rfl (hdisjoint k (ha.mem_marks (by simp)) k (hb'.mem_marks (by simp)))
    · exact absurd rfl (hdisjoint k (ha'.mem_marks (by simp)) k (hb.mem_marks (by simp)))
    · exact .inr (ihb hnb _ _ _ _ _ _ _ _ hb hb' hmeet)
  | opt greedy body ih =>
    rintro s u w e s' u' w' e' (⟨ht, _⟩ | h) (⟨ht', _⟩ | h') hmeet
    · exact absurd ht (by simp)
    · exact absurd ht (by simp)
    · exact absurd ht' (by simp)
    · exact .inr (ih hn _ _ _ _ _ _ _ _ h h' hmeet)
  | star m greedy body ih =>
    have hrounds := Rounds.crosses hend (Circuit.crosses hn (ih (List.nodup_append.mp hn).2.1))
    rintro s u w e s' u' w' e' ⟨v, h, ht⟩ ⟨v', h', ht'⟩ hmeet
    rcases append_cons_eq_append ht.symm with ⟨y, hm, rfl⟩ | ⟨y, rfl, rfl⟩ <;>
      rcases append_cons_eq_append ht'.symm with ⟨y', hm', rfl⟩ | ⟨y', rfl, rfl⟩
    · obtain ⟨rfl, rfl, rfl⟩ := passing_eq_append hm
      obtain ⟨_, rfl, rfl⟩ := passing_eq_append hm'
      cases hmeet
      exact ⟨_, h', rfl⟩
    · obtain ⟨rfl, rfl, rfl⟩ := passing_eq_append hm
      rw [Spot.afterAll_append, afterAll_passing] at hmeet
      cases hmeet
      exact ⟨_, (h'.of_own_mark hn rfl).2, rfl⟩
    · obtain ⟨rfl, rfl, rfl⟩ := passing_eq_append hm'
      rw [Spot.afterAll_append, afterAll_passing] at hmeet
      cases hmeet
      exact ⟨_, (h.of_own_mark hn rfl).1.append h', by simp⟩
    · rw [Spot.afterAll_append, Spot.afterAll_append, afterAll_passing, afterAll_passing] at hmeet
      exact ⟨_, hrounds _ _ _ _ _ _ _ _ h h' hmeet, List.append_assoc _ _ _⟩
  | plus m greedy body ih =>
    have hround := Circuit.crosses hn (ih (List.nodup_append.mp hn).2.1)
    rintro s u w e s' u' w' e' ⟨t, f, v, hone, hrest, ht⟩ ⟨t', f', v', hone', hrest', ht'⟩ hmeet
    obtain ⟨u₁, g, u₂, w₁, _, _, hfirst, hmid, _, rfl, rfl⟩ := (Rounds.cons hone hrest).exists_round ht.symm
    obtain ⟨u₁', g', u₂', w₁', _, w₂', hfirst', hmid', hlast', rfl, rfl⟩ :=
      (Rounds.cons hone' hrest').exists_round ht'.symm
    rw [Spot.afterAll_append, Spot.afterAll_append, ← hfirst.afterAll_eq hend, ← hfirst'.afterAll_eq hend] at hmeet
    have hcrossed := runs_plus_of_rounds greedy hfirst (hround _ _ _ _ _ _ _ _ hmid hmid' hmeet) hlast'
    simpa using hcrossed

/-- The marks passed since the last character, where `passed` were passed before. -/
def passAll (passed : List Nat) : List Event → List Nat
  | [] => passed
  | .read :: t => passAll [] t
  | .pass m :: t => passAll (m :: passed) t

/-- Whether no mark is passed twice between characters. -/
def Fresh (passed : List Nat) : List Event → Prop
  | [] => True
  | .read :: t => Fresh [] t
  | .pass m :: t => m ∉ passed ∧ Fresh (m :: passed) t

theorem passAll_append (passed : List Nat) (t u : List Event) :
    passAll passed (t ++ u) = passAll (passAll passed t) u := by
  induction t generalizing passed with
  | nil => rfl
  | cons e t ih => cases e <;> exact ih _

theorem fresh_append {passed : List Nat} {t u : List Event} :
    Fresh passed (t ++ u) ↔ Fresh passed t ∧ Fresh (passAll passed t) u := by
  induction t generalizing passed with
  | nil => exact (true_and _).symm ▸ Iff.rfl
  | cons e t ih =>
    cases e with
    | read => exact ih
    | pass m =>
      rw [List.cons_append, Fresh, Fresh, passAll, ih, and_assoc]

theorem Fresh.mono {passed passed' : List Nat} {t : List Event} (h : Fresh passed t)
    (hsub : ∀ m ∈ passed', m ∈ passed) : Fresh passed' t := by
  induction t generalizing passed passed' with
  | nil => trivial
  | cons e t ih =>
    cases e with
    | read => exact h
    | pass m =>
      refine ⟨fun hm => h.1 (hsub m hm), ih h.2 fun k hk => ?_⟩
      rcases List.mem_cons.mp hk with rfl | hk
      · exact List.mem_cons_self
      · exact List.mem_cons_of_mem m (hsub k hk)

theorem passAll_of_read {t : List Event} (h : read ∈ t) (passed passed' : List Nat) :
    passAll passed t = passAll passed' t := by
  induction t generalizing passed passed' with
  | nil => cases h
  | cons e t ih =>
    cases e with
    | read => rfl
    | pass m => exact ih ((List.mem_cons.mp h).resolve_left nofun) _ _

theorem mem_passAll {t : List Event} (h : read ∉ t) {passed : List Nat} {m : Nat} :
    m ∈ passAll passed t ↔ m ∈ passed ∨ pass m ∈ t := by
  induction t generalizing passed with
  | nil => simp [passAll]
  | cons e t ih =>
    cases e with
    | read => exact absurd List.mem_cons_self h
    | pass k =>
      rw [passAll, ih fun hmem => h (List.mem_cons_of_mem _ hmem), List.mem_cons, List.mem_cons, Event.pass.injEq,
        or_comm (a := m = k), or_assoc]

/-- A trace that is not fresh passes a mark again. -/
theorem exists_of_not_fresh {passed : List Nat} {t : List Event} (h : ¬Fresh passed t) :
    (∃ k ∈ passed, ∃ v w, t = v ++ pass k :: w ∧ read ∉ v) ∨
      ∃ u k v w, t = u ++ pass k :: (v ++ pass k :: w) ∧ read ∉ v := by
  induction t generalizing passed with
  | nil => exact absurd trivial h
  | cons e t ih =>
    cases e with
    | read =>
      rcases ih h with ⟨k, hk, _⟩ | ⟨u, k, v, w, rfl, hv⟩
      · cases hk
      · exact .inr ⟨.read :: u, k, v, w, rfl, hv⟩
    | pass m =>
      by_cases hm : m ∈ passed
      · exact .inl ⟨m, hm, [], t, rfl, List.not_mem_nil⟩
      · rcases ih fun hfresh => h ⟨hm, hfresh⟩ with ⟨k, hk, v, w, rfl, hv⟩ | ⟨u, k, v, w, rfl, hv⟩
        · rcases List.mem_cons.mp hk with rfl | hk
          · exact .inr ⟨[], k, v, w, rfl, hv⟩
          · exact .inl ⟨k, hk, pass m :: v, w, rfl, by simpa using hv⟩
        · exact .inr ⟨pass m :: u, k, v, w, rfl, hv⟩

/-- Detours can be left out: what is read between two passages of a mark at one place is nothing. -/
theorem Runs.exists_fresh {n : Node} (hn : n.marks.Nodup) {s e : Spot} {t : List Event} (h : n.Runs s t e) :
    ∃ t', n.Runs s t' e ∧ Fresh [] t' := by
  by_cases hfresh : Fresh [] t
  · exact ⟨t, h, hfresh⟩
  · obtain ⟨u, k, v, w, rfl, hv⟩ := (exists_of_not_fresh hfresh).resolve_left fun ⟨_, hk, _⟩ => by cases hk
    have hlater : n.Runs s ((u ++ pass k :: v) ++ pass k :: w) e := by
      rw [List.append_assoc]
      exact h
    have hmeet : s.afterAll u = s.afterAll (u ++ pass k :: v) := by
      rw [Spot.afterAll_pass, Spot.afterAll_of_not_mem hv]
    exact exists_fresh hn (Runs.crosses hn k _ _ _ _ _ _ _ _ h hlater hmeet)
termination_by t.length
decreasing_by
  subst_vars
  simp only [List.length_append, List.length_cons]
  omega

/-- Rounds of which all but the last read something. -/
inductive Chain (round : Spot → List Event → Spot → Prop) : Spot → List Event → Spot → Prop
  | one {s t e} (h : round s t e) : Chain round s t e
  | more {s t e u d} (h : round s t e) (hread : Event.read ∈ t) (h' : Chain round e u d) : Chain round s (t ++ u) d

/-- Rounds that read nothing can be left out, unless there is only one round. -/
theorem exists_chain {round : Spot → List Event → Spot → Prop} {s f e : Spot} {t u : List Event}
    (hend : ∀ {s t e}, round s t e → e = s.afterAll t)
    (hidle : ∀ {passed s t e f u}, round s t e → round e u f → Fresh passed (t ++ u) → Event.read ∈ t ∨ Event.read ∈ u)
    (hone : round s t f) (hrest : Rounds round f u e) {passed : List Nat} (hfresh : Fresh passed (t ++ u)) :
    ∃ v, Chain round s v e ∧ Fresh passed v ∧ passAll passed v = passAll passed (t ++ u) ∧
      v.count .read = (t ++ u).count .read := by
  induction hrest generalizing s t passed with
  | nil =>
    rw [List.append_nil] at hfresh ⊢
    exact ⟨t, .one hone, hfresh, rfl, rfl⟩
  | cons hnext hrest ih =>
    obtain ⟨ht, hlater⟩ := fresh_append.mp hfresh
    by_cases hread : Event.read ∈ t
    · obtain ⟨v, hchain, hv, hpass, hcount⟩ := ih hnext hlater
      refine ⟨t ++ v, .more hone hread hchain, fresh_append.mpr ⟨ht, hv⟩, ?_, ?_⟩
      · rw [passAll_append, passAll_append, hpass]
      · rw [List.count_append, List.count_append, hcount]
    · obtain rfl : _ = s := (hend hone).trans (Spot.afterAll_of_not_mem hread)
      rw [← List.append_assoc] at hfresh
      have hnextRead := (hidle hone hnext (fresh_append.mp hfresh).1).resolve_left hread
      obtain ⟨v, hchain, hv, hpass, hcount⟩ :=
        ih hnext (hlater.mono fun m hm => (mem_passAll hread).mpr (.inl hm))
      refine ⟨v, hchain, hv, ?_, ?_⟩
      · rw [hpass, passAll_append _ t]
        exact passAll_of_read (List.mem_append_left _ hnextRead) _ _
      · have hzero : t.count .read = 0 := List.count_eq_zero.mpr hread
        simp only [hcount, List.count_append, hzero, Nat.zero_add]

end Node

namespace Cursor

def spot (c : Cursor) : Spot := (c.before, c.rest)

/-- Whether a place lies in the text `t` behind `b`. -/
def IsIn (b : Option Char) (t : Text) (c : Cursor) : Prop := ∃ x, (start b t).Reads x c

/-- Whether a way leads from a place where a trace leads. -/
structure Lands (c : Cursor) (t : List Event) (d : Cursor) : Prop where
  used_eq : d.used = c.used + t.count .read
  passed_eq : d.passed = Node.passAll c.passed t
  spot_eq : d.spot = c.spot.afterAll t

theorem meets_iff {c d : Cursor} : c.meets d = true ↔ c.used = d.used ∧ c.passed = d.passed := by
  rw [meets, Bool.and_eq_true, decide_eq_true_iff, decide_eq_true_iff]

namespace IsIn

variable {b : Option Char} {t : Text} {c d : Cursor}

theorem length_eq (h : c.IsIn b t) : c.used + c.rest.length = t.length := by
  obtain ⟨x, hx⟩ := h
  have hused : c.used = 0 + x.length := hx.used_eq
  have hlength : t.length = x.length + c.rest.length := hx.length_eq
  omega

theorem of_reads (h : c.IsIn b t) {x : Text} (hx : c.Reads x d) : d.IsIn b t := by
  obtain ⟨y, hy⟩ := h
  exact ⟨y ++ x, hy.trans hx⟩

theorem spot_eq (hc : c.IsIn b t) (hd : d.IsIn b t) (hused : c.used = d.used) : c.spot = d.spot := by
  obtain ⟨x, hx⟩ := hc
  obtain ⟨y, hy⟩ := hd
  have hlength : x.length = y.length := by
    have hxu : c.used = 0 + x.length := hx.used_eq
    have hyu : d.used = 0 + y.length := hy.used_eq
    omega
  obtain ⟨hxy, hrest⟩ := List.append_inj (hx.rest_eq.symm.trans hy.rest_eq) hlength
  exact Prod.ext (by rw [spot, spot, hx.before_eq, hy.before_eq, hxy]) hrest

end IsIn

theorem mem_distinct {cs : List Cursor} {c : Cursor} (h : c ∈ cs) : ∃ d ∈ distinct cs, c.meets d = true := by
  have hloop : ∀ as bs : List Cursor, c ∈ as ∨ (∃ d ∈ bs, c.meets d = true) →
      ∃ d ∈ List.eraseDupsBy.loop meets as bs, c.meets d = true := by
    intro as
    induction as with
    | nil =>
      rintro bs (h | ⟨d, hd, hmeets⟩)
      · cases h
      · exact ⟨d, List.mem_reverse.mpr hd, hmeets⟩
    | cons a as ih =>
      intro bs h
      rw [List.eraseDupsBy.loop]
      cases hany : bs.any a.meets with
      | true =>
        obtain ⟨d, hd, hmeets⟩ := List.any_eq_true.mp hany
        refine ih bs ?_
        rcases h with h | h
        · rcases List.mem_cons.mp h with rfl | h
          · exact .inr ⟨d, hd, hmeets⟩
          · exact .inl h
        · exact .inr h
      | false =>
        refine ih (a :: bs) ?_
        rcases h with h | ⟨d, hd, hmeets⟩
        · rcases List.mem_cons.mp h with rfl | h
          · exact .inr ⟨c, List.mem_cons_self, meets_iff.mpr ⟨rfl, rfl⟩⟩
          · exact .inl h
        · exact .inr ⟨d, List.mem_cons_of_mem a hd, hmeets⟩
  exact hloop cs [] (.inl h)

theorem mem_addTo_of_mem {found : List Cursor} {c d : Cursor} (h : d ∈ found) : d ∈ addTo found c := by
  unfold addTo
  split
  · exact h
  · exact List.mem_cons_of_mem c h

theorem exists_mem_addTo (found : List Cursor) (c : Cursor) : ∃ d ∈ addTo found c, c.meets d = true := by
  unfold addTo
  split
  case isTrue hany =>
    obtain ⟨d, hd, hmeets⟩ := List.any_eq_true.mp hany
    exact ⟨d, hd, hmeets⟩
  case isFalse => exact ⟨c, List.mem_cons_self, meets_iff.mpr ⟨rfl, rfl⟩⟩

end Cursor

namespace Node

open Event (read pass)
open Cursor (IsIn Lands)

section
variable {b : Option Char} {t : Text} {round : Spot → List Event → Spot → Prop} {body : Cursor → List Cursor}
  {m : Option Nat} {greedy : Bool}

/-- The places behind a round of a repetition. -/
def later (body : Cursor → List Cursor) (m : Option Nat) (c : Cursor) : List Cursor :=
  (body c).filterMap (·.passAny? m)

/-- Whether wherever a chain of rounds leads from a place one of those found lies. -/
def Closed (round : Spot → List Event → Spot → Prop) (found : List Cursor) (c : Cursor) : Prop :=
  ∀ tr e, Chain round c.spot tr e → Fresh c.passed tr → ∃ d ∈ found, c.Lands tr d

theorem Closed.mono {found found' : List Cursor} {c : Cursor} (h : Closed round found c)
    (hsub : ∀ d ∈ found, d ∈ found') : Closed round found' c := by
  intro tr e hchain hfresh
  obtain ⟨d, hd, hlands⟩ := h tr e hchain hfresh
  exact ⟨d, hsub d hd, hlands⟩

theorem Closed.of_meets {found : List Cursor} {c d : Cursor} (hc : c.IsIn b t) (hd : d.IsIn b t)
    (hmeets : c.meets d = true) (h : Closed round found d) : Closed round found c := by
  obtain ⟨hused, hpassed⟩ := Cursor.meets_iff.mp hmeets
  have hspot := hc.spot_eq hd hused
  intro tr e hchain hfresh
  rw [hspot] at hchain
  rw [hpassed] at hfresh
  obtain ⟨x, hx, hlands⟩ := h tr e hchain hfresh
  exact ⟨x, hx, by rw [hused]; exact hlands.used_eq, by rw [hpassed]; exact hlands.passed_eq,
    by rw [hspot]; exact hlands.spot_eq⟩

/-- What exploring a place adds to what was found: from all of it, and from the place, everything that chains lead
to is found. -/
structure Explores (b : Option Char) (t : Text) (round : Spot → List Event → Spot → Prop) (found found' : List Cursor)
    (c : Cursor) : Prop where
  kept : ∀ d ∈ found, d ∈ found'
  isIn : ∀ d ∈ found', d.IsIn b t
  settled : ∀ d ∈ found', d ∈ found ∨ Closed round found' d
  closed : Closed round found' c

/-- Whether places in a text are settled as far as more was read than at a place. -/
structure Ready (b : Option Char) (t : Text) (round : Spot → List Event → Spot → Prop) (found : List Cursor)
    (least : Nat) : Prop where
  isIn : ∀ d ∈ found, d.IsIn b t
  closed : ∀ d ∈ found, least ≤ d.used → Closed round found d

/-- Coming to a place explores it if what goes on from there does. -/
theorem enter_explores (greedy : Bool) {more : List Cursor → Cursor → List Cursor} {found : List Cursor} {c : Cursor}
    (hc : c.IsIn b t) (hfound : Ready b t round found c.used)
    (hmore : ∀ found, Ready b t round found (c.used + 1) → Explores b t round found (more found c) c) :
    Explores b t round found (enter more greedy found c) c ∧ ∃ d ∈ enter more greedy found c, c.meets d = true := by
  have hready : Ready b t round found (c.used + 1) :=
    ⟨hfound.isIn, fun d hd hle => hfound.closed d hd (Nat.le_of_succ_le hle)⟩
  unfold enter
  split
  case isTrue hany =>
    obtain ⟨d, hd, hmeets⟩ := List.any_eq_true.mp hany
    have hclosed := hfound.closed d hd (Nat.le_of_eq (Cursor.meets_iff.mp hmeets).1)
    exact ⟨⟨fun _ h => h, hfound.isIn, fun _ h => .inl h, hclosed.of_meets hc (hfound.isIn d hd) hmeets⟩, d, hd, hmeets⟩
  case isFalse =>
    cases greedy with
    | true =>
      rw [if_pos rfl]
      have hexplored := hmore found hready
      refine ⟨⟨fun d hd => Cursor.mem_addTo_of_mem (hexplored.kept d hd), fun d hd => ?_, fun d hd => ?_,
        hexplored.closed.mono fun d hd => Cursor.mem_addTo_of_mem hd⟩, Cursor.exists_mem_addTo _ c⟩
      · rcases Cursor.mem_addTo hd with hd | rfl
        · exact hexplored.isIn d hd
        · exact hc
      · rcases Cursor.mem_addTo hd with hd | rfl
        · exact (hexplored.settled d hd).imp_right fun h => h.mono fun d hd => Cursor.mem_addTo_of_mem hd
        · exact .inr (hexplored.closed.mono fun d hd => Cursor.mem_addTo_of_mem hd)
    | false =>
      rw [if_neg Bool.false_ne_true]
      have hcons : Ready b t round (c :: found) (c.used + 1) := by
        refine ⟨fun d hd => ?_, fun d hd hle => ?_⟩
        · rcases List.mem_cons.mp hd with rfl | hd
          · exact hc
          · exact hfound.isIn d hd
        · rcases List.mem_cons.mp hd with rfl | hd
          · exact absurd hle (Nat.not_succ_le_self _)
          · exact (hready.closed d hd hle).mono fun d hd => List.mem_cons_of_mem c hd
      have hexplored := hmore (c :: found) hcons
      refine ⟨⟨fun d hd => hexplored.kept d (List.mem_cons_of_mem c hd), hexplored.isIn, fun d hd => ?_,
        hexplored.closed⟩, c, hexplored.kept c List.mem_cons_self, Cursor.meets_iff.mpr ⟨rfl, rfl⟩⟩
      rcases hexplored.settled d hd with hd | hd
      · rcases List.mem_cons.mp hd with rfl | hd
        · exact .inr hexplored.closed
        · exact .inl hd
      · exact .inr hd

/-- What a search for the rounds of a repetition has to find and what it may find. -/
structure FindsRounds (b : Option Char) (t : Text) (round : Spot → List Event → Spot → Prop)
    (body : Cursor → List Cursor) (m : Option Nat) : Prop where
  afterAll_eq {s tr e} (h : round s tr e) : e = s.afterAll tr
  exists_mem (c : Cursor) (hc : c.IsIn b t) (tr e) (h : round c.spot tr e) (hfresh : Fresh c.passed tr) :
    ∃ d ∈ later body m c, c.Lands tr d
  isIn (c : Cursor) (hc : c.IsIn b t) (d) (hd : d ∈ later body m c) : d.IsIn b t
  used_le (c : Cursor) (d) (hd : d ∈ later body m c) : c.used ≤ d.used
  /-- Behind a round that reads nothing the next one reads something. -/
  idle (c : Cursor) (d) (hd : d ∈ later body m c) (hused : d.used = c.used) :
    (∀ k ∈ c.passed, k ∈ d.passed) ∧ ∀ tr e, round d.spot tr e → Fresh d.passed tr → Event.read ∈ tr

theorem lands_append {c d e : Cursor} {u v : List Event} (h : c.Lands u d) (h' : d.Lands v e) : c.Lands (u ++ v) e where
  used_eq := by rw [h'.used_eq, h.used_eq, List.count_append, Nat.add_assoc]
  passed_eq := by rw [h'.passed_eq, h.passed_eq, passAll_append]
  spot_eq := by rw [h'.spot_eq, h.spot_eq, Spot.afterAll_append]

theorem lands_of_meets {c d e : Cursor} {u : List Event} (hd : d.IsIn b t) (he : e.IsIn b t) (h : c.Lands u d)
    (hmeets : d.meets e = true) : c.Lands u e := by
  obtain ⟨hused, hpassed⟩ := Cursor.meets_iff.mp hmeets
  exact ⟨hused ▸ h.used_eq, hpassed ▸ h.passed_eq, (hd.spot_eq he hused) ▸ h.spot_eq⟩

/-- What was found while the rounds from a place are explored. -/
structure Exploring (b : Option Char) (t : Text) (round : Spot → List Event → Spot → Prop)
    (body : Cursor → List Cursor) (m : Option Nat) (c : Cursor) (found found' : List Cursor) : Prop where
  kept : ∀ d ∈ found, d ∈ found'
  isIn : ∀ d ∈ found', d.IsIn b t
  settled : ∀ d ∈ found', d ∈ found ∨ Closed round found' d ∨ d ∈ later body m c ∧ d.used = c.used

theorem Exploring.ready {c : Cursor} {found found' : List Cursor} (h : Exploring b t round body m c found found')
    (hfound : Ready b t round found (c.used + 1)) : Ready b t round found' (c.used + 1) := by
  refine ⟨h.isIn, fun d hd hle => ?_⟩
  rcases h.settled d hd with hd | hd | ⟨_, hused⟩
  · exact (hfound.closed d hd hle).mono h.kept
  · exact hd
  · omega

theorem Exploring.enter (greedy : Bool) {c d : Cursor} {found found' : List Cursor}
    {more : List Cursor → Cursor → List Cursor} (h : Exploring b t round body m c found found')
    (hfound : Ready b t round found (c.used + 1))
    (hd : d ∈ later body m c) (hin : d.IsIn b t) (hle : c.used ≤ d.used)
    (hidle : d.used = c.used → ∀ found, more found d = found)
    (hmore : c.used < d.used → ∀ found, Ready b t round found (d.used + 1) →
      Explores b t round found (more found d) d) :
    Exploring b t round body m c found (Node.enter more greedy found' d) ∧
      (∀ x ∈ found', x ∈ Node.enter more greedy found' d) ∧
      (∃ x ∈ Node.enter more greedy found' d, d.meets x = true) ∧
      (c.used < d.used → Closed round (Node.enter more greedy found' d) d) := by
  have hready := h.ready hfound
  rcases Nat.lt_or_eq_of_le hle with hlt | heq
  · obtain ⟨hexplored, hmeets⟩ := enter_explores greedy hin
      ⟨hready.isIn, fun x hx hxle => hready.closed x hx (Nat.le_trans hlt hxle)⟩ (hmore hlt)
    refine ⟨⟨fun x hx => hexplored.kept x (h.kept x hx), hexplored.isIn, fun x hx => ?_⟩, hexplored.kept, hmeets,
      fun _ => hexplored.closed⟩
    rcases hexplored.settled x hx with hx | hx
    · exact (h.settled x hx).imp_right (.imp_left fun hclosed => hclosed.mono hexplored.kept)
    · exact .inr (.inl hx)
  · -- Nothing goes on from here, so the place is added at most.
    have hcases : Node.enter more greedy found' d = found' ∧ (∃ x ∈ found', d.meets x = true) ∨
        Node.enter more greedy found' d = d :: found' := by
      unfold Node.enter Cursor.addTo
      rw [hidle heq.symm, hidle heq.symm]
      cases hany : found'.any d.meets with
      | true =>
        obtain ⟨x, hx, hmeets⟩ := List.any_eq_true.mp hany
        exact .inl ⟨rfl, x, hx, hmeets⟩
      | false => exact .inr (by cases greedy <;> rfl)
    rcases hcases with ⟨hsame, hmeets⟩ | hsame
    · rw [hsame]
      exact ⟨h, fun _ hx => hx, hmeets, fun hlt => absurd heq (Nat.ne_of_lt hlt)⟩
    · rw [hsame]
      refine ⟨⟨fun x hx => List.mem_cons_of_mem d (h.kept x hx), fun x hx => ?_, fun x hx => ?_⟩,
        fun x hx => List.mem_cons_of_mem d hx, ⟨d, List.mem_cons_self, Cursor.meets_iff.mpr ⟨rfl, rfl⟩⟩,
        fun hlt => absurd heq (Nat.ne_of_lt hlt)⟩
      · rcases List.mem_cons.mp hx with rfl | hx
        · exact hin
        · exact h.isIn x hx
      · rcases List.mem_cons.mp hx with rfl | hx
        · exact .inr (.inr ⟨hd, heq.symm⟩)
        · exact (h.settled x hx).imp_right (.imp_left fun hclosed => hclosed.mono fun y hy => List.mem_cons_of_mem d hy)

theorem Exploring.foldl (greedy : Bool) (more : List Cursor → Cursor → List Cursor) (ds : List Cursor) {c : Cursor}
    {found found' : List Cursor} (hds : ∀ d ∈ ds, d ∈ later body m c) (hbody : FindsRounds b t round body m)
    (hc : c.IsIn b t)
    (h : Exploring b t round body m c found found') (hfound : Ready b t round found (c.used + 1))
    (hidle : ∀ d ∈ ds, d.used = c.used → ∀ found, more found d = found)
    (hmore : ∀ d ∈ ds, c.used < d.used → ∀ found, Ready b t round found (d.used + 1) →
      Explores b t round found (more found d) d) :
    Exploring b t round body m c found (ds.foldl (Node.enter more greedy) found') ∧
      (∀ x ∈ found', x ∈ ds.foldl (Node.enter more greedy) found') ∧
      ∀ d ∈ ds, (∃ x ∈ ds.foldl (Node.enter more greedy) found', d.meets x = true) ∧
        (c.used < d.used → Closed round (ds.foldl (Node.enter more greedy) found') d) := by
  induction ds generalizing found' with
  | nil => exact ⟨h, fun _ hx => hx, nofun⟩
  | cons d ds ih =>
    have hd := hds d List.mem_cons_self
    obtain ⟨hone, hkept, ⟨x, hx, hmeets⟩, hclosed⟩ := h.enter greedy hfound hd (hbody.isIn c hc d hd)
      (hbody.used_le c d hd) (hidle d List.mem_cons_self) (hmore d List.mem_cons_self)
    obtain ⟨hall, hkept', hrest⟩ := ih (fun e he => hds e (List.mem_cons_of_mem d he)) hone
      (fun e he => hidle e (List.mem_cons_of_mem d he)) (fun e he => hmore e (List.mem_cons_of_mem d he))
    refine ⟨hall, fun y hy => hkept' y (hkept y hy), fun e he => ?_⟩
    rcases List.mem_cons.mp he with rfl | he
    · exact ⟨⟨x, hkept' x hx, hmeets⟩, fun hlt => (hclosed hlt).mono hkept'⟩
    · exact hrest e he

/-- When all places behind a round are come to, everything that chains lead to is found. -/
theorem Exploring.explores {c : Cursor} {found found' : List Cursor} (hbody : FindsRounds b t round body m)
    (hc : c.IsIn b t) (h : Exploring b t round body m c found found')
    (hall : ∀ d ∈ later body m c, (∃ x ∈ found', d.meets x = true) ∧ (c.used < d.used → Closed round found' d)) :
    Explores b t round found found' c := by
  have hclosed : Closed round found' c := by
    intro tr e hchain hfresh
    cases hchain with
    | one hround =>
      obtain ⟨d, hd, hlands⟩ := hbody.exists_mem c hc tr e hround hfresh
      obtain ⟨⟨x, hx, hmeets⟩, _⟩ := hall d hd
      exact ⟨x, hx, lands_of_meets (hbody.isIn c hc d hd) (h.isIn x hx) hlands hmeets⟩
    | more hround hread hrest =>
      obtain ⟨hfirst, hlater⟩ := fresh_append.mp hfresh
      obtain ⟨d, hd, hlands⟩ := hbody.exists_mem c hc _ _ hround hfirst
      have hlt : c.used < d.used := by
        have hcount := List.count_pos_iff.mpr hread
        have hused := hlands.used_eq
        omega
      rw [hbody.afterAll_eq hround, ← hlands.spot_eq] at hrest
      rw [← hlands.passed_eq] at hlater
      obtain ⟨x, hx, hlands'⟩ := (hall d hd).2 hlt _ _ hrest hlater
      exact ⟨x, hx, lands_append hlands hlands'⟩
  refine ⟨h.kept, h.isIn, fun d hd => ?_, hclosed⟩
  rcases h.settled d hd with hd | hd | ⟨hd, hused⟩
  · exact .inl hd
  · exact .inr hd
  · -- Behind a round that read nothing, chains lead where they lead from the place itself.
    obtain ⟨hsub, hidle⟩ := hbody.idle c d hd hused
    have hspot := (hbody.isIn c hc d hd).spot_eq hc hused
    refine .inr fun tr e hchain hfresh => ?_
    have hread : Event.read ∈ tr := by
      cases hchain with
      | one hround => exact hidle _ _ hround hfresh
      | more _ hread _ => exact List.mem_append_left _ hread
    rw [hspot] at hchain
    obtain ⟨x, hx, hlands⟩ := hclosed tr e hchain (hfresh.mono hsub)
    exact ⟨x, hx, hused ▸ hlands.used_eq, (passAll_of_read hread _ _).trans hlands.passed_eq.symm |>.symm,
      hspot ▸ hlands.spot_eq⟩

theorem iterate_explores (hbody : FindsRounds b t round body m) (bound : Nat) {found : List Cursor} {c : Cursor}
    (hc : c.IsIn b t) (hbound : c.rest.length < bound) (hfound : Ready b t round found (c.used + 1)) :
    Explores b t round found (iterate body m greedy bound found c) c := by
  induction bound generalizing found c with
  | zero => exact absurd hbound (Nat.not_lt_zero _)
  | succ bound ih =>
    rw [iterate_succ]
    have hstart : Exploring b t round body m c found found :=
      ⟨fun _ hd => hd, hfound.isIn, fun _ hd => .inl hd⟩
    obtain ⟨hexploring, _, hall⟩ := Exploring.foldl greedy
      (fun found d => if c.used < d.used then iterate body m greedy bound found d else found) (later body m c)
      (fun _ hd => hd) hbody hc hstart hfound
      (fun d _ hused found => if_neg (by omega))
      (fun d hd hlt found hready => by
        have hin := hbody.isIn c hc d hd
        rw [if_pos hlt]
        refine ih hin ?_ hready
        have hlength := hin.length_eq
        have hlength' := hc.length_eq
        omega)
    exact hexploring.explores hbody hc hall

theorem Explores.ready {c : Cursor} {found found' : List Cursor} (h : Explores b t round found found' c)
    (hfound : Ready b t round found 0) : Ready b t round found' 0 := by
  refine ⟨h.isIn, fun d hd _ => ?_⟩
  rcases h.settled d hd with hd | hd
  · exact (hfound.closed d hd (Nat.zero_le _)).mono h.kept
  · exact hd

theorem explores_foldl (step : List Cursor → Cursor → List Cursor) (zero : Bool) {cs : List Cursor}
    (hstep : ∀ c ∈ cs, ∀ found, Ready b t round found 0 → Explores b t round found (step found c) c ∧
      (zero = true → ∃ d ∈ step found c, c.meets d = true)) {found : List Cursor} (hfound : Ready b t round found 0) :
    (∀ d ∈ found, d ∈ cs.foldl step found) ∧ ∀ c ∈ cs, Closed round (cs.foldl step found) c ∧
      (zero = true → ∃ d ∈ cs.foldl step found, c.meets d = true) := by
  induction cs generalizing found with
  | nil => exact ⟨fun _ hd => hd, nofun⟩
  | cons c cs ih =>
    obtain ⟨hexplored, hmeets⟩ := hstep c List.mem_cons_self found hfound
    obtain ⟨hkept, hrest⟩ := ih (fun d hd => hstep d (List.mem_cons_of_mem c hd)) (hexplored.ready hfound)
    refine ⟨fun d hd => hkept d (hexplored.kept d hd), fun d hd => ?_⟩
    rcases List.mem_cons.mp hd with rfl | hd
    · exact ⟨hexplored.closed.mono hkept, fun hzero => (hmeets hzero).imp fun x hx => ⟨hkept x hx.1, hx.2⟩⟩
    · exact hrest d hd

/-- A repetition finds everything that chains of its rounds lead to from the places where it begins, and, if it may be
left out, these places. -/
theorem iterateAll_closed (hbody : FindsRounds b t round body m) (greedy zero : Bool) {cs : List Cursor}
    (hcs : ∀ c ∈ cs, c.IsIn b t) {c : Cursor} (hc : c ∈ cs) :
    Closed round (iterateAll body m greedy zero cs) c ∧
      (zero = true → ∃ d ∈ iterateAll body m greedy zero cs, c.meets d = true) := by
  have hnil : Ready b t round [] 0 := ⟨nofun, nofun⟩
  have hready {found : List Cursor} (hfound : Ready b t round found 0) (least : Nat) : Ready b t round found least :=
    ⟨hfound.isIn, fun d hd _ => hfound.closed d hd (Nat.zero_le _)⟩
  have hmore (c : Cursor) (hc : c ∈ cs) (found : List Cursor) (hfound : Ready b t round found (c.used + 1)) :
      Explores b t round found (iterate body m greedy (c.rest.length + 1) found c) c :=
    iterate_explores hbody _ (hcs c hc) (Nat.lt_succ_self _) hfound
  cases zero with
  | true =>
    have hall := (explores_foldl (enter (fun found c => iterate body m greedy (c.rest.length + 1) found c) greedy) true
      (fun c hc found hfound =>
        (enter_explores greedy (hcs c hc) (hready hfound _) (hmore c hc)).imp_right fun h _ => h)
      hnil).2 c hc
    rw [iterateAll_zero]
    exact ⟨hall.1.mono fun d hd => List.mem_reverse.mpr hd,
      fun hzero => (hall.2 hzero).imp fun x hx => ⟨List.mem_reverse.mpr hx.1, hx.2⟩⟩
  | false =>
    have hall := (explores_foldl (fun found c => iterate body m greedy (c.rest.length + 1) found c) false
      (fun c hc found hfound => ⟨hmore c hc found (hready hfound _), nofun⟩) hnil).2 c hc
    rw [iterateAll_one]
    exact ⟨hall.1.mono fun d hd => List.mem_reverse.mpr hd, nofun⟩

end

/-- Whether every repetition without a mark consumes. -/
def Guarded : Node → Prop
  | empty | set _ | assertion _ | mark _ => True
  | group _ body | opt _ body => body.Guarded
  | seq a b | alt a b => a.Guarded ∧ b.Guarded
  | star m _ body | plus m _ body => (m = none → body.consumes = true) ∧ body.Guarded

theorem exists_passAny? {c : Cursor} {m : Option Nat} (h : Fresh c.passed (passing m)) :
    ∃ d, c.passAny? m = some d ∧ c.Lands (passing m) d := by
  cases m with
  | none => exact ⟨c, rfl, rfl, rfl, rfl⟩
  | some m => exact ⟨{ c with passed := m :: c.passed }, if_neg h.1, rfl, rfl, rfl⟩

theorem Runs.read_mem {n : Node} (hn : n.consumes = true) {s e : Spot} {t : List Event} (h : n.Runs s t e) :
    Event.read ∈ t := by
  induction n generalizing s t e with
  | empty | assertion _ | mark _ | opt _ _ | star _ _ _ => cases hn
  | set cs => exact h.1 ▸ List.mem_cons_self
  | group i body ih => exact ih hn h
  | seq a b iha ihb =>
    obtain ⟨u, f, v, ha, hb, rfl⟩ := h
    rcases Bool.or_eq_true _ _ |>.mp hn with hn | hn
    · exact List.mem_append_left v (iha hn ha)
    · exact List.mem_append_right u (ihb hn hb)
  | alt a b iha ihb =>
    obtain ⟨hna, hnb⟩ := Bool.and_eq_true _ _ |>.mp hn
    exact h.elim (iha hna) (ihb hnb)
  | plus m greedy body ih =>
    obtain ⟨_, f, v, ⟨u, hrun, rfl⟩, _, rfl⟩ := h
    exact List.mem_append_left v (List.mem_append_left _ (ih hn hrun))

theorem Leads.passed_mem {n : Node} {c d : Cursor} (h : n.Leads c d) (hused : d.used = c.used) :
    ∀ k ∈ c.passed, k ∈ d.passed := by
  have hpass {c d : Cursor} {m : Option Nat} (h : c.passAny? m = some d) : d.used = c.used ∧
      ∀ k ∈ c.passed, k ∈ d.passed := by
    cases m with
    | none =>
      cases h
      exact ⟨rfl, fun _ hk => hk⟩
    | some m =>
      obtain ⟨_, heq⟩ := Option.ite_none_left_eq_some.mp h
      cases heq
      exact ⟨rfl, fun _ hk => List.mem_cons_of_mem m hk⟩
  have hle {n : Node} {c d : Cursor} (h : n.Leads c d) : c.used ≤ d.used := by
    obtain ⟨x, hx, _⟩ := h.reads
    exact hx.used_le
  have hrounds {body : Node} {m : Option Nat}
      (ih : ∀ {c d}, body.Leads c d → d.used = c.used → ∀ k ∈ c.passed, k ∈ d.passed) {c d : Cursor}
      (h : Relation.ReflTransGen (Round body.Leads m) c d) :
      c.used ≤ d.used ∧ (d.used = c.used → ∀ k ∈ c.passed, k ∈ d.passed) := by
    induction h with
    | refl => exact ⟨Nat.le_refl _, fun _ _ hk => hk⟩
    | tail _ hone ih' =>
      obtain ⟨e, hlead, hmark⟩ := hone
      obtain ⟨hsame, hkeep⟩ := hpass hmark
      have hlast := hle hlead
      refine ⟨by omega, fun hused k hk => hkeep k (ih hlead ?_ k (ih'.2 ?_ k hk))⟩ <;> omega
  induction n generalizing c d with
  | empty => exact h ▸ fun _ hk => hk
  | set s =>
    obtain ⟨a, _, hread⟩ := Cursor.reads_consume? h
    have hone : d.used = c.used + 1 := hread.used_eq
    omega
  | assertion a => exact h.2 ▸ fun _ hk => hk
  | group i body ih =>
    obtain ⟨e, hlead, rfl⟩ := h
    have hkept : ∀ k ∈ c.passed, k ∈ e.passed := ih hlead hused
    exact hkept
  | seq a b iha ihb =>
    obtain ⟨e, ha, hb⟩ := h
    have hfirst := hle ha
    have hlast := hle hb
    exact fun k hk => ihb hb (by omega) k (iha ha (by omega) k hk)
  | alt a b iha ihb => exact h.elim (iha · hused) (ihb · hused)
  | opt greedy body ih =>
    rcases h with rfl | h
    · exact fun _ hk => hk
    · exact ih h hused
  | star m greedy body ih =>
    obtain ⟨e, hmark, h⟩ := h
    obtain ⟨hsame, hkeep⟩ := hpass hmark
    exact fun k hk => (hrounds ih h).2 (by omega) k (hkeep k hk)
  | plus m greedy body ih => exact (hrounds ih h.to_reflTransGen).2 hused
  | mark m => exact (hpass (m := some m) h).2

theorem Chain.afterAll_eq {round : Spot → List Event → Spot → Prop}
    (hround : ∀ {s t e}, round s t e → e = s.afterAll t) {s e : Spot} {t : List Event} (h : Chain round s t e) :
    e = s.afterAll t := by
  induction h with
  | one h => exact hround h
  | more h _ _ ih => rw [Spot.afterAll_append, ← hround h, ih]

section
variable {b : Option Char} {t : Text}

theorem isIn_of_mem_ways {n : Node} {cs : List Cursor} (hcs : ∀ c ∈ cs, c.IsIn b t) {d : Cursor} (hd : d ∈ n.ways cs) :
    d.IsIn b t := by
  obtain ⟨c, hc, hlead⟩ := leads_of_mem_ways n cs d hd
  obtain ⟨x, hx, _⟩ := hlead.reads
  exact (hcs c hc).of_reads hx

section
variable {m : Option Nat} {body : Node} (hguard : m = none → body.consumes = true)
include hguard

/-- Of two rounds one after the other one reads something, since they pass the same mark. -/
theorem Circuit.read_mem {passed : List Nat} {s f e : Spot} {u v : List Event} (h : Circuit body.Runs m s u f)
    (h' : Circuit body.Runs m f v e) (hfresh : Fresh passed (u ++ v)) : Event.read ∈ u ∨ Event.read ∈ v := by
  obtain ⟨u, hu, rfl⟩ := h
  obtain ⟨v, hv, rfl⟩ := h'
  cases m with
  | none => exact .inl (List.mem_append_left _ (hu.read_mem (hguard rfl)))
  | some m =>
    refine Decidable.byContradiction fun hnone => ?_
    obtain ⟨hu', hv'⟩ := not_or.mp hnone
    have hv'' : Event.read ∉ v := fun hread => hv' (List.mem_append_left _ hread)
    have hlast := (fresh_append.mp (fresh_append.mp hfresh).2).2
    refine hlast.1 ((mem_passAll hv'').mpr (.inl ((mem_passAll hu').mpr (.inr ?_))))
    exact List.mem_append_right u List.mem_cons_self

theorem findsRounds (hbody : ∀ {c : Cursor}, c.IsIn b t → ∀ {tr e}, body.Runs c.spot tr e → Fresh c.passed tr →
    ∃ d ∈ body.ways [c], c.Lands tr d) :
    FindsRounds b t (Circuit body.Runs m) (fun c => body.ways [c]) m where
  afterAll_eq h := h.afterAll_eq Runs.afterAll_eq
  exists_mem c hc tr e h hfresh := by
    obtain ⟨u, hrun, rfl⟩ := h
    obtain ⟨hu, hm⟩ := fresh_append.mp hfresh
    obtain ⟨d, hd, hlands⟩ := hbody hc hrun hu
    rw [← hlands.passed_eq] at hm
    obtain ⟨f, hpass, hlands'⟩ := exists_passAny? hm
    exact ⟨f, List.mem_filterMap.mpr ⟨d, hd, hpass⟩, lands_append hlands hlands'⟩
  isIn c hc d hd := by
    obtain ⟨e, he, hpass⟩ := List.mem_filterMap.mp hd
    exact (isIn_of_mem_ways (fun _ h => List.mem_singleton.mp h ▸ hc) he).of_reads (Cursor.reads_passAny? hpass)
  used_le c d hd := by
    obtain ⟨e, he, hpass⟩ := List.mem_filterMap.mp hd
    obtain ⟨c', hc', hlead⟩ := leads_of_mem_ways body [c] e he
    obtain rfl := List.mem_singleton.mp hc'
    obtain ⟨x, hx, _⟩ := hlead.reads
    exact Nat.le_trans hx.used_le (Cursor.reads_passAny? hpass).used_le
  idle c d hd hused := by
    obtain ⟨e, he, hpass⟩ := List.mem_filterMap.mp hd
    obtain ⟨c', hc', hlead⟩ := leads_of_mem_ways body [c] e he
    obtain rfl := List.mem_singleton.mp hc'
    obtain ⟨x, hx, hne⟩ := hlead.reads
    cases m with
    | none =>
      cases hpass
      exact absurd hused (Nat.ne_of_gt (hx.used_lt (hne (hguard rfl))))
    | some m =>
      obtain ⟨_, heq⟩ := Option.ite_none_left_eq_some.mp hpass
      cases heq
      refine ⟨fun k hk => List.mem_cons_of_mem m (hlead.passed_mem hused k hk), fun tr f hround hfresh => ?_⟩
      obtain ⟨u, _, rfl⟩ := hround
      refine Decidable.byContradiction fun hread => ?_
      have hu : Event.read ∉ u := fun hmem => hread (List.mem_append_left _ hmem)
      exact (fresh_append.mp hfresh).2.1 ((mem_passAll hu).mpr (.inl List.mem_cons_self))

end

theorem exists_lands_iterateAll {m : Option Nat} {body : Node} (hguard : m = none → body.consumes = true)
    (hbody : FindsRounds b t (Circuit body.Runs m) (fun c => body.ways [c]) m) (greedy zero : Bool) {cs : List Cursor}
    (hcs : ∀ c ∈ cs, c.IsIn b t) {c : Cursor} (hc : c ∈ cs) {f e : Spot} {u v : List Event}
    (hfirst : Circuit body.Runs m c.spot u f) (hrest : Rounds (Circuit body.Runs m) f v e)
    (hfresh : Fresh c.passed (u ++ v)) :
    ∃ d ∈ iterateAll (fun c => body.ways [c]) m greedy zero cs, c.Lands (u ++ v) d := by
  have hend {s e : Spot} {tr : List Event} (h : Circuit body.Runs m s tr e) : e = s.afterAll tr :=
    h.afterAll_eq Runs.afterAll_eq
  obtain ⟨w, hchain, hw, hpass, hcount⟩ :=
    exists_chain hend (fun h h' hfresh => Circuit.read_mem hguard h h' hfresh) hfirst hrest hfresh
  obtain ⟨d, hd, hlands⟩ := (iterateAll_closed hbody greedy zero hcs hc).1 w e hchain hw
  refine ⟨d, hd, hcount ▸ hlands.used_eq, hpass ▸ hlands.passed_eq, ?_⟩
  rw [hlands.spot_eq, ← hchain.afterAll_eq hend, (Rounds.cons hfirst hrest).afterAll_eq hend]

/-- For every fresh trace of a node there is a way. -/
theorem exists_lands {n : Node} (hn : n.Guarded) {cs : List Cursor} (hcs : ∀ c ∈ cs, c.IsIn b t) {c : Cursor}
    (hc : c ∈ cs) {tr : List Event} {e : Spot} (h : n.Runs c.spot tr e) (hfresh : Fresh c.passed tr) :
    ∃ d ∈ n.ways cs, c.Lands tr d := by
  have hone {c : Cursor} (hc : c.IsIn b t) : ∀ d ∈ [c], d.IsIn b t := fun d hd => List.mem_singleton.mp hd ▸ hc
  have hdistinct {c d : Cursor} {ds : List Cursor} (hin : ∀ d ∈ ds, d.IsIn b t) (hd : d ∈ ds) {tr : List Event}
      (hlands : c.Lands tr d) : ∃ x ∈ Cursor.distinct ds, c.Lands tr x := by
    obtain ⟨x, hx, hmeets⟩ := Cursor.mem_distinct hd
    exact ⟨x, hx, lands_of_meets (hin d hd) (hin x (Cursor.mem_of_mem_distinct hx)) hlands hmeets⟩
  induction n generalizing cs c tr e with
  | empty =>
    obtain ⟨rfl, _⟩ := h
    exact ⟨c, hc, rfl, rfl, rfl⟩
  | set s =>
    obtain ⟨rfl, a, ha, hrest, _⟩ := h
    obtain ⟨before, rest, used, groups, passed⟩ := c
    cases hrest
    exact ⟨_, List.mem_filterMap.mpr ⟨_, hc, if_pos ha⟩, rfl, rfl, rfl⟩
  | assertion a =>
    obtain ⟨hholds, rfl, _⟩ := h
    exact ⟨c, List.mem_filter.mpr ⟨hc, hholds⟩, rfl, rfl, rfl⟩
  | mark m =>
    obtain ⟨rfl, _⟩ := h
    obtain ⟨d, hpass, hlands⟩ := exists_passAny? (m := some m) hfresh
    exact ⟨d, List.mem_filterMap.mpr ⟨c, hc, hpass⟩, hlands⟩
  | group i body ih =>
    obtain ⟨d, hd, hlands⟩ := ih hn (hone (hcs c hc)) (List.mem_singleton_self c) h hfresh
    have hremember : c.remember i d ∈ cs.flatMap fun c => (body.ways [c]).map (Cursor.remember i c) :=
      List.mem_flatMap.mpr ⟨c, hc, List.mem_map.mpr ⟨d, hd, rfl⟩⟩
    refine hdistinct (fun x hx => ?_) hremember ⟨hlands.used_eq, hlands.passed_eq, hlands.spot_eq⟩
    obtain ⟨c', hc', hx⟩ := List.mem_flatMap.mp hx
    obtain ⟨y, hy, rfl⟩ := List.mem_map.mp hx
    obtain ⟨z, hz⟩ := isIn_of_mem_ways (hone (hcs c' hc')) hy
    exact ⟨z, hz.rest_eq, hz.used_eq, hz.before_eq⟩
  | seq n n' ih ih' =>
    obtain ⟨u, f, v, ha, hb, rfl⟩ := h
    obtain ⟨hu, hv⟩ := fresh_append.mp hfresh
    obtain ⟨d, hd, hlands⟩ := ih hn.1 hcs hc ha hu
    rw [ha.afterAll_eq, ← hlands.spot_eq] at hb
    rw [← hlands.passed_eq] at hv
    obtain ⟨x, hx, hlands'⟩ := ih' hn.2 (fun d hd => isIn_of_mem_ways hcs hd) hd hb hv
    exact ⟨x, hx, lands_append hlands hlands'⟩
  | alt n n' ih ih' =>
    have hin : ∀ d ∈ cs.flatMap (fun c => n.ways [c] ++ n'.ways [c]), d.IsIn b t := by
      intro d hd
      obtain ⟨c', hc', hd⟩ := List.mem_flatMap.mp hd
      exact (List.mem_append.mp hd).elim (isIn_of_mem_ways (hone (hcs c' hc')))
        (isIn_of_mem_ways (hone (hcs c' hc')))
    rcases h with h | h
    · obtain ⟨d, hd, hlands⟩ := ih hn.1 (hone (hcs c hc)) (List.mem_singleton_self c) h hfresh
      exact hdistinct hin (List.mem_flatMap.mpr ⟨c, hc, List.mem_append_left _ hd⟩) hlands
    · obtain ⟨d, hd, hlands⟩ := ih' hn.2 (hone (hcs c hc)) (List.mem_singleton_self c) h hfresh
      exact hdistinct hin (List.mem_flatMap.mpr ⟨c, hc, List.mem_append_right _ hd⟩) hlands
  | opt greedy body ih =>
    have hmem {c d : Cursor} : d ∈ (if greedy then body.ways [c] ++ [c] else c :: body.ways [c]) ↔
        d = c ∨ d ∈ body.ways [c] := by
      cases greedy <;> simp [or_comm]
    have hin : ∀ d ∈ cs.flatMap (fun c => if greedy then body.ways [c] ++ [c] else c :: body.ways [c]), d.IsIn b t := by
      intro d hd
      obtain ⟨c', hc', hd⟩ := List.mem_flatMap.mp hd
      rcases hmem.mp hd with rfl | hd
      · exact hcs d hc'
      · exact isIn_of_mem_ways (hone (hcs c' hc')) hd
    rcases h with ⟨rfl, _⟩ | h
    · exact hdistinct hin (List.mem_flatMap.mpr ⟨c, hc, hmem.mpr (.inl rfl)⟩) ⟨rfl, rfl, rfl⟩
    · obtain ⟨d, hd, hlands⟩ := ih hn (hone (hcs c hc)) (List.mem_singleton_self c) h hfresh
      exact hdistinct hin (List.mem_flatMap.mpr ⟨c, hc, hmem.mpr (.inr hd)⟩) hlands
  | star m greedy body ih =>
    obtain ⟨u, hrounds, rfl⟩ := h
    obtain ⟨hm, hu⟩ := fresh_append.mp hfresh
    obtain ⟨c', hpass, hlands⟩ := exists_passAny? hm
    have hmem : c' ∈ cs.filterMap (·.passAny? m) := List.mem_filterMap.mpr ⟨c, hc, hpass⟩
    have hin : ∀ d ∈ cs.filterMap (·.passAny? m), d.IsIn b t := by
      intro d hd
      obtain ⟨x, hx, hpass⟩ := List.mem_filterMap.mp hd
      exact (hcs x hx).of_reads (Cursor.reads_passAny? hpass)
    have hbody := findsRounds (m := m) hn.1 fun hc _ _ hrun hfresh =>
      ih hn.2 (hone hc) (List.mem_singleton_self _) hrun hfresh
    cases hrounds with
    | nil =>
      obtain ⟨d, hd, hmeets⟩ := (iterateAll_closed hbody greedy true hin hmem).2 rfl
      have hdin : d.IsIn b t := isIn_of_mem_ways (n := star m greedy body) hcs hd
      rw [List.append_nil]
      exact ⟨d, hd, lands_of_meets (hin c' hmem) hdin hlands hmeets⟩
    | cons hfirst hrest =>
      rw [← hlands.passed_eq] at hu
      have hspot : c.spot = c'.spot := by rw [hlands.spot_eq, afterAll_passing]
      rw [hspot] at hfirst
      obtain ⟨d, hd, hlands'⟩ := exists_lands_iterateAll hn.1 hbody greedy true hin hmem hfirst hrest hu
      exact ⟨d, hd, lands_append hlands hlands'⟩
  | plus m greedy body ih =>
    obtain ⟨u, f, v, hfirst, hrest, rfl⟩ := h
    have hbody := findsRounds (m := m) hn.1 fun hc _ _ hrun hfresh =>
      ih hn.2 (hone hc) (List.mem_singleton_self _) hrun hfresh
    exact exists_lands_iterateAll hn.1 hbody greedy false hcs hc hfirst hrest hfresh

end

/-- Where each mark stands at one point only and every repetition without a mark consumes, the ways to the end of a
text are found exactly if the whole text matches. -/
theorem exists_way_iff {n : Node} (hmarks : n.marks.Nodup) (hn : n.Guarded) (b : Option Char) (t : Text) :
    (∃ d ∈ n.ways [Cursor.start b t], d.rest = []) ↔ n.Matches b t [] := by
  constructor
  · rintro ⟨d, hd, hrest⟩
    obtain ⟨c, hc, hlead⟩ := leads_of_mem_ways n _ d hd
    obtain rfl := List.mem_singleton.mp hc
    obtain ⟨x, hx, hmatch⟩ := hlead.matches
    have ht : t = x ++ d.rest := hx.rest_eq
    rw [hrest, List.append_nil] at ht
    rw [hrest, ← ht] at hmatch
    exact hmatch
  · intro h
    obtain ⟨tr, hruns⟩ := h.exists_runs
    rw [List.append_nil] at hruns
    obtain ⟨tr, hruns, hfresh⟩ := hruns.exists_fresh hmarks
    have hstart : ∀ c ∈ [Cursor.start b t], c.IsIn b t := fun c hc => ⟨[], List.mem_singleton.mp hc ▸ .refl _⟩
    obtain ⟨d, hd, hlands⟩ := exists_lands hn hstart (List.mem_singleton_self _) hruns hfresh
    have hspot : d.spot = (lastOf b t, []) := hlands.spot_eq.trans hruns.afterAll_eq.symm
    exact ⟨d, hd, congrArg Prod.snd hspot⟩

end Node

end Dictation
