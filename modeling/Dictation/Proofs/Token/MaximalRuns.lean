import Dictation.Classifier
import Dictation.Proofs.Text.Utf8
import Dictation.Proofs.Token.Boundaries
/-!
# Maximal runs

The runs of a text are told by four facts: together they are the text, none of them is empty, the
characters of a run are of its category, and neighbours differ in category. A classifier gives them
whatever it was asked before. Its cache holds true categories only, and an iteration is always between two
characters.
-/
namespace Dictation

/-- Whether some runs divide a text into stretches of one category that are as long as possible. -/
structure Combiners.AreRuns (k : Combiners) (t : Text) (rs : List Run) : Prop where
  text : rs.flatMap Run.text = t
  ne_nil : ∀ r ∈ rs, r.text ≠ []
  category : ∀ r ∈ rs, ∀ c ∈ r.text, k.categoryOf c = r.category
  apart : rs.IsChain fun r next => r.category ≠ next.category

namespace Combiners

variable {k : Combiners} {t : Text} {r : Run} {rs : List Run}

theorem AreRuns.tail (h : k.AreRuns t (r :: rs)) : k.AreRuns (rs.flatMap Run.text) rs where
  text := rfl
  ne_nil q hq := h.ne_nil q (List.mem_cons_of_mem r hq)
  category q hq := h.category q (List.mem_cons_of_mem r hq)
  apart := h.apart.tail

theorem AreRuns.head_ne (h : k.AreRuns t (r :: rs)) :
    ∀ d ∈ (rs.flatMap Run.text).head?, k.categoryOf d ≠ r.category := by
  cases rs with
  | nil => simp
  | cons next others =>
    intro d hd
    have hmem : next ∈ r :: next :: others := by simp
    rw [List.flatMap_cons, List.head?_append_of_ne_nil _ (h.ne_nil next hmem)] at hd
    rw [h.category next hmem d (List.mem_of_mem_head? hd)]
    exact (List.isChain_cons_cons.mp h.apart).1.symm

theorem areRuns_runs (k : Combiners) (t : Text) : k.AreRuns t (k.runs t) where
  text := flatMap_runs t
  ne_nil _ hr := text_ne_nil_of_mem_runs hr
  category _ hr _ hc := (mem_run hr hc).2
  apart := k.isChain_runs t

theorem AreRuns.eq_runs (h : k.AreRuns t rs) : rs = k.runs t := by
  induction rs generalizing t with
  | nil =>
    rw [← h.text]
    rfl
  | cons r rest ih =>
    have hcategory := h.category r List.mem_cons_self
    have hfirst : k.runs r.text = [r] := runs_same (h.ne_nil r List.mem_cons_self) hcategory
    have hbetween : ∀ c ∈ r.text.getLast?, ∀ d ∈ (rest.flatMap Run.text).head?,
        k.categoryOf c ≠ k.categoryOf d := by
      intro c hc d hd hsame
      rw [hcategory c (List.mem_of_mem_getLast? hc)] at hsame
      exact h.head_ne d hd hsame.symm
    rw [← h.text, List.flatMap_cons, k.runs_append hbetween, hfirst, ← ih h.tail, List.singleton_append]

theorem areRuns_iff : k.AreRuns t rs ↔ rs = k.runs t := by
  constructor
  · exact AreRuns.eq_runs
  · rintro rfl
    exact k.areRuns_runs t

end Combiners

namespace Classifier

/-- Whether a classifier is for the given combiners and holds only true categories. -/
structure Sound (k : Combiners) (s : Classifier) : Prop where
  combiners : s.combiners = k
  cache : ∀ c g, s.cache[c]? = some g → g = k.categoryOf c

/-- Whether a computation gives `a` from every sound classifier, and leaves a sound one. -/
def Computes (k : Combiners) {α : Type} (x : Classifying α) (a : α) : Prop :=
  ∀ s : Classifier, s.Sound k → ∃ s', x s = some (a, s') ∧ s'.Sound k

variable {k : Combiners} {α β : Type}

theorem sound_new (k : Combiners) : Sound k { combiners := k } where
  combiners := rfl
  cache c g h := by
    rw [Std.HashMap.getElem?_empty] at h
    cases h

theorem Sound.insert {s : Classifier} (h : s.Sound k) (c : Char) :
    Sound k { s with cache := s.cache.insert c (s.combiners.categoryOf c) } where
  combiners := h.combiners
  cache d g hd := by
    rw [Std.HashMap.getElem?_insert] at hd
    by_cases hsame : (c == d) = true
    · rw [if_pos hsame] at hd
      cases hd
      rw [h.combiners, beq_iff_eq.mp hsame]
    · rw [if_neg hsame] at hd
      exact h.cache d g hd

theorem Computes.pure (a : α) : Computes k (Pure.pure a) a := by
  intro s hs
  exact ⟨s, rfl, hs⟩

theorem Computes.bind {x : Classifying α} {f : α → Classifying β} {a : α} {b : β}
    (hx : Computes k x a) (hf : Computes k (f a) b) : Computes k (x >>= f) b := by
  intro s hs
  obtain ⟨s₁, hrun, hs₁⟩ := hx s hs
  obtain ⟨s₂, hthen, hs₂⟩ := hf s₁ hs₁
  exact ⟨s₂, Option.bind_eq_some_iff.mpr ⟨(a, s₁), hrun, hthen⟩, hs₂⟩

theorem computes_lift {o : Option α} {a : α} (h : o = some a) : Computes k (StateT.lift o) a := by
  intro s hs
  rw [h]
  exact ⟨s, rfl, hs⟩

theorem computes_classify (k : Combiners) (c : Char) : Computes k (classify c) (k.categoryOf c) := by
  intro s hs
  obtain rfl := hs.combiners
  cases hfound : s.cache[c]? with
  | some g =>
    have hclassify : (classify c).run s = some (g, s) := by simp [classify, hfound]
    rw [← hs.cache c g hfound]
    exact ⟨s, hclassify, hs⟩
  | none =>
    have hclassify : (classify c).run s = some (s.combiners.categoryOf c,
        { s with cache := s.cache.insert c (s.combiners.categoryOf c) }) := by
      simp [classify, hfound]
    exact ⟨_, hclassify, hs.insert c⟩

theorem computes_endOf {g : Category} {run rest : Text} (hrun : ∀ c ∈ run, k.categoryOf c = g)
    (hrest : ∀ d ∈ rest.head?, k.categoryOf d ≠ g) (n : Nat) :
    Computes k (endOf g n (run ++ rest)) (n + run.byteSize) := by
  induction run generalizing n with
  | nil =>
    cases rest with
    | nil => exact .pure n
    | cons d rest =>
      refine (computes_classify k d).bind ?_
      rw [if_pos (hrest d rfl)]
      exact .pure n
  | cons c run ih =>
    refine (computes_classify k c).bind ?_
    rw [if_neg (not_not.mpr (hrun c List.mem_cons_self)), Text.byteSize_cons, ← Nat.add_assoc]
    exact ih (fun d hd => hrun d (List.mem_cons_of_mem c hd)) (n + c.utf8Size)

end Classifier

namespace RunIterator

open Classifier

variable {k : Combiners} {it : RunIterator} {r : Run} {rs : List Run}

/-- Whether an iteration has come to the place in front of the given runs. -/
def Ahead (k : Combiners) (it : RunIterator) (rs : List Run) : Prop :=
  ∃ before rest, it.text = before ++ rest ∧ it.position = before.byteSize ∧ k.AreRuns rest rs

theorem ahead_start (k : Combiners) (t : Text) : Ahead k { text := t } (k.runs t) :=
  ⟨[], t, rfl, rfl, k.areRuns_runs t⟩

theorem Ahead.next_nil (h : Ahead k it []) : Computes k it.next none := by
  obtain ⟨before, rest, htext, hposition, hruns⟩ := h
  have hsplit : it.text.splitAtByte? it.position = some (before, []) := by
    rw [htext, hposition, ← hruns.text]
    exact Text.splitAtByte?_append before []
  exact (computes_lift hsplit).bind (.pure none)

theorem Ahead.next_cons (h : Ahead k it (r :: rs)) :
    ∃ later, Computes k it.next (some (r, later)) ∧ Ahead k later rs := by
  obtain ⟨before, rest, htext, hposition, hruns⟩ := h
  obtain ⟨g, run⟩ := r
  obtain ⟨c, others, rfl⟩ : ∃ c others, run = c :: others :=
    List.exists_cons_of_ne_nil (hruns.ne_nil ⟨g, run⟩ List.mem_cons_self)
  have hcategory : ∀ d ∈ c :: others, k.categoryOf d = g :=
    hruns.category ⟨g, c :: others⟩ List.mem_cons_self
  have hrest : (c :: others) ++ rs.flatMap Run.text = rest := hruns.text
  let n := c.utf8Size + Text.byteSize others
  have hn : Text.byteSize (c :: others) = n := Text.byteSize_cons c others
  let later : RunIterator := { it with position := it.position + n }
  refine ⟨later, ?_, before ++ c :: others, rs.flatMap Run.text, ?_, ?_, hruns.tail⟩
  · have hsplit : it.text.splitAtByte? it.position =
        some (before, (c :: others) ++ rs.flatMap Run.text) := by
      rw [htext, hposition, ← hrest]
      exact Text.splitAtByte?_append before _
    -- The run ends at the byte that its text takes it to, which is between two characters.
    have hcut : Text.splitAtByte? n ((c :: others) ++ rs.flatMap Run.text) =
        some (c :: others, rs.flatMap Run.text) :=
      hn ▸ Text.splitAtByte?_append (c :: others) _
    have hfirst : Computes k (classify c) g := hcategory c List.mem_cons_self ▸ computes_classify k c
    have hend : Computes k (endOf g c.utf8Size (others ++ rs.flatMap Run.text)) n :=
      computes_endOf (fun d hd => hcategory d (List.mem_cons_of_mem c hd)) hruns.head_ne c.utf8Size
    exact (computes_lift hsplit).bind (hfirst.bind (hend.bind ((computes_lift hcut).bind (.pure _))))
  · rw [List.append_assoc, hrest]
    exact htext
  · rw [Text.byteSize_append, hn, ← hposition]

/-- What is left of an iteration is exactly what it is ahead of. -/
theorem Ahead.collect (h : Ahead k it rs) {s : Classifier} (hs : s.Sound k) :
    ∃ s', it.collect s = some (rs, s') ∧ s'.Sound k := by
  induction rs generalizing it s with
  | nil =>
    obtain ⟨s', hnext, hs'⟩ := h.next_nil s hs
    refine ⟨s', ?_, hs'⟩
    rw [RunIterator.collect]
    split <;> simp_all
  | cons r rs ih =>
    obtain ⟨later, hnext, hlater⟩ := h.next_cons
    obtain ⟨s₁, hnext, hs₁⟩ := hnext s hs
    obtain ⟨s', hcollect, hs'⟩ := ih hlater hs₁
    refine ⟨s', ?_, hs'⟩
    rw [RunIterator.collect]
    split <;> simp_all

end RunIterator

namespace Session

variable {k : Combiners} {s : Session} {ahead : List (List Run)}

/-- What is answered to a request without a cache, where `ahead` holds the runs that the iterations begun
so far have not given yet. -/
def plainAnswer (k : Combiners) : Request → List (List Run) → Reply × List (List Run)
  | .classify c, ahead => (.category (k.categoryOf c), ahead)
  | .start t, ahead => (.started, ahead ++ [k.runs t])
  | .next i, ahead =>
    match ahead[i]? with
    | some (r :: rs) => (.run r, ahead.set i rs)
    | _ => (.finished, ahead)

/-- What is answered to requests without a cache, one after another. -/
def plainAnswers (k : Combiners) : List Request → List (List Run) → List Reply
  | [], _ => []
  | q :: qs, ahead => (plainAnswer k q ahead).1 :: plainAnswers k qs (plainAnswer k q ahead).2

/-- Whether the iterations of a session have come to the places in front of the given runs. -/
structure Agrees (k : Combiners) (s : Session) (ahead : List (List Run)) : Prop where
  sound : s.classifier.Sound k
  iterations : List.Forall₂ (RunIterator.Ahead k) s.iterations ahead

theorem agrees_new (k : Combiners) : Agrees k (new k) [] where
  sound := Classifier.sound_new k
  iterations := .nil

theorem forall₂_getElem? {α β : Type} {R : α → β → Prop} {as : List α} {bs : List β}
    (h : List.Forall₂ R as bs) (i : Nat) :
    (as[i]? = none ∧ bs[i]? = none) ∨ ∃ a b, as[i]? = some a ∧ bs[i]? = some b ∧ R a b ∧
      ∀ a' b', R a' b' → List.Forall₂ R (as.set i a') (bs.set i b') := by
  induction h generalizing i with
  | nil => exact .inl ⟨rfl, rfl⟩
  | @cons a b as bs hab hrest ih =>
    cases i with
    | zero => exact .inr ⟨a, b, rfl, rfl, hab, fun a' b' h' => .cons h' hrest⟩
    | succ i =>
      rcases ih i with hnone | ⟨a₁, b₁, ha, hb, hR, hset⟩
      · exact .inl hnone
      · exact .inr ⟨a₁, b₁, ha, hb, hR, fun a' b' h' => .cons hab (hset a' b' h')⟩

/-- One answer is the one without a cache, and so will be the next one. -/
theorem Agrees.answer (h : Agrees k s ahead) (q : Request) :
    ∃ s', Session.answer q s = some ((plainAnswer k q ahead).1, s') ∧
      Agrees k s' (plainAnswer k q ahead).2 := by
  cases q with
  | classify c =>
    obtain ⟨after, hcategory, hafter⟩ := Classifier.computes_classify k c s.classifier h.sound
    refine ⟨{ s with classifier := after }, ?_, hafter, h.iterations⟩
    rw [Session.answer, hcategory]
    rfl
  | start t =>
    refine ⟨{ s with iterations := s.iterations ++ [{ text := t }] }, rfl, h.sound, ?_⟩
    exact List.rel_append h.iterations (.cons (RunIterator.ahead_start k t) .nil)
  | next i =>
    rcases forall₂_getElem? h.iterations i with ⟨hnone, hnone'⟩ | ⟨it, rs, hit, hrs, hahead, hset⟩
    · refine ⟨s, ?_, ?_⟩
      · simp only [Session.answer, hnone, plainAnswer, hnone']
      · simpa only [plainAnswer, hnone'] using h
    · cases rs with
      | nil =>
        obtain ⟨after, hnext, hafter⟩ := hahead.next_nil s.classifier h.sound
        refine ⟨{ s with classifier := after }, ?_, ?_⟩
        · simp only [Session.answer, hit, hnext, plainAnswer, hrs, Option.map_some]
        · simp only [plainAnswer, hrs]
          exact ⟨hafter, h.iterations⟩
      | cons r rs =>
        obtain ⟨later, hcomputes, hlater⟩ := hahead.next_cons
        obtain ⟨after, hnext, hafter⟩ := hcomputes s.classifier h.sound
        refine ⟨{ classifier := after, iterations := s.iterations.set i later }, ?_, ?_⟩
        · simp only [Session.answer, hit, hnext, plainAnswer, hrs, Option.map_some]
        · simp only [plainAnswer, hrs]
          exact ⟨hafter, hset later rs hlater⟩

theorem Agrees.serve (h : Agrees k s ahead) (requests : List Request) :
    ∃ s', Session.serve requests s = some (plainAnswers k requests ahead, s') ∧
      s'.classifier.Sound k := by
  induction requests generalizing s ahead with
  | nil => exact ⟨s, rfl, h.sound⟩
  | cons q qs ih =>
    obtain ⟨s₁, hanswer, h₁⟩ := h.answer q
    obtain ⟨s', hserve, hs'⟩ := ih h₁
    refine ⟨s', ?_, hs'⟩
    rw [Session.serve, List.mapM_cons]
    exact Option.bind_eq_some_iff.mpr ⟨_, hanswer, Option.bind_eq_some_iff.mpr ⟨_, hserve, rfl⟩⟩

/-- Whatever was asked before, on however many texts and of however many iterations in turn, a classifier
answers as without its cache, and the runs that it gives for a text are the only division of the text into
stretches of one category that are as long as possible. -/
theorem serve_then_collect (k : Combiners) (requests : List Request) :
    ∃ s, serve requests (new k) = some (plainAnswers k requests [], s) ∧
      ∀ t, ∃ rs after, RunIterator.collect { text := t } s.classifier = some (rs, after) ∧
        rs = k.runs t ∧ ∀ others, k.AreRuns t others ↔ others = rs := by
  obtain ⟨s, hserve, hs⟩ := (agrees_new k).serve requests
  refine ⟨s, hserve, fun t => ?_⟩
  obtain ⟨after, hcollect, _⟩ := (RunIterator.ahead_start k t).collect hs
  exact ⟨k.runs t, after, hcollect, rfl, fun others => Combiners.areRuns_iff⟩

end Session

end Dictation
