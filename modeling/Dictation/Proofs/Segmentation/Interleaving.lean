import Dictation.Proofs.Segmentation.Memo
import Mathlib.Data.List.Forall2
/-!
# Searches that share a memo

Several computations may use one memo at the same time. Each looks words up and notes answers, one access
after another, and accesses of the others come in between. What a computation gives does not depend on
them: it relies on true answers only, and what it notes is true even if it fails later. In whatever order
the computations go on, they come to an end.
-/
namespace Dictation.Segmenter

variable {α β : Type} {s : Segmenter}

/-- A computation as the accesses that it makes to a memo. -/
inductive Process (α : Type) where
  | done (a : α)
  /-- Looks a word up. -/
  | look (word : Text) (next : Option (List Text) → Process α)
  /-- Notes the segments of a word. -/
  | note (word : Text) (segments : List Text) (next : Process α)

namespace Process

protected def bind : Process α → (α → Process β) → Process β
  | done a, f => f a
  | look word next, f => look word fun found => (next found).bind f
  | note word segments next, f => note word segments (next.bind f)

instance : Monad Process where
  pure := done
  bind := Process.bind

private theorem bind_done (p : Process α) : p.bind done = p := by
  induction p with
  | done a => rfl
  | look word next ih => exact congrArg (look word) (funext ih)
  | note word segments next ih => exact congrArg (note word segments) ih

private theorem bind_bind {γ : Type} (p : Process α) (f : α → Process β) (g : β → Process γ) :
    (p.bind f).bind g = p.bind fun a => (f a).bind g := by
  induction p with
  | done a => rfl
  | look word next ih => exact congrArg (look word) (funext ih)
  | note word segments next ih => exact congrArg (note word segments) ih

instance : LawfulMonad Process := LawfulMonad.mk' Process bind_done (fun _ _ => rfl) bind_bind

/-- What a computation gives if no access comes in between, and the memo that it leaves. -/
def run : Process α → Memo → α × Memo
  | done a, memo => (a, memo)
  | look word next, memo => (next memo[word]?).run memo
  | note word segments next, memo => next.run (memo.insert word segments)

theorem run_bind (p : Process α) (f : α → Process β) (memo : Memo) :
    (p >>= f).run memo = (f (p.run memo).1).run (p.run memo).2 := by
  induction p generalizing memo with
  | done a => rfl
  | look word next ih => exact ih memo[word]? memo
  | note word segments next ih => exact ih (memo.insert word segments)

/-- Whether a computation that finds true answers gives `a` and notes true answers. -/
def Gives (s : Segmenter) (a : α) : Process α → Prop
  | done b => b = a
  | look word next =>
    ∀ found, (∀ segments ∈ found, s.segment word = .ok segments) → Gives s a (next found)
  | note word segments next => s.segment word = .ok segments ∧ Gives s a next

theorem Gives.bind {p : Process α} {f : α → Process β} {a : α} {b : β} (hp : Gives s a p)
    (hf : Gives s b (f a)) : Gives s b (p >>= f) := by
  induction p with
  | done a' =>
    obtain rfl : a' = a := hp
    exact hf
  | look word next ih => exact fun found hfound => ih found (hp found hfound)
  | note word segments next ih => exact ⟨hp.1, ih hp.2⟩

theorem Gives.run {p : Process α} {a : α} (hp : Gives s a p) {memo : Memo} (hmemo : s.Sound memo) :
    (p.run memo).1 = a ∧ s.Sound (p.run memo).2 := by
  induction p generalizing memo with
  | done a' => exact ⟨hp, hmemo⟩
  | look word next ih =>
    have hfound := hp memo[word]? fun segments h => hmemo word segments h
    exact ih _ hfound hmemo
  | note word segments next ih => exact ih hp.2 (hmemo.insert hp.1)

end Process

/-- A computation that may fail, as its accesses to a memo. -/
abbrev Stepwise := ExceptT VocabularyError Process

/-- The search for words shorter than a bound, each access to the memo by itself. -/
def segmentStepsBelow (s : Segmenter) : Nat → Text → Stepwise (List Text)
  | 0, word => pure [word]
  | bound + 1, word => ExceptT.mk <| .look word fun
    | some segments => .done (.ok segments)
    | none => do
      match ← s.step (fun a => ExceptT.mk (pure a)) (s.segmentStepsBelow bound) word |>.run with
      | .ok segments => .note word segments (.done (.ok segments))
      | .error e => .done (.error e)

/-- The segments of a word, found by accesses to a memo. -/
def segmentSteps (s : Segmenter) (word : Text) : Stepwise (List Text) :=
  s.segmentStepsBelow (word.length + 1) word

theorem passesOn_steps : PassesOn (m := Stepwise) fun a => ExceptT.mk (pure a) where
  ok _ := rfl
  error _ _ := rfl

/-- Computations related to what they give among others. -/
def giving (s : Segmenter) : Simulation Stepwise (Except VocabularyError) where
  rel x a := Process.Gives s a x.run
  rel_pure a := rfl
  rel_bind {α β x a f g} hx hf := by
    rw [ExceptT.run_bind]
    apply Process.Gives.bind hx
    cases a with
    | error e => rfl
    | ok a => exact hf a

/-- Computations with a memo, related to their accesses. -/
def running : Simulation Remembering Stepwise where
  rel x p := ∀ memo, x.run.run memo = p.run.run memo
  rel_pure a := fun memo => rfl
  rel_bind {α β x p f g} hx hf := by
    intro memo
    rw [ExceptT.run_bind, ExceptT.run_bind, Process.run_bind, ← hx memo, StateT.run_bind]
    cases hrun : x.run.run memo with
    | mk result after =>
      cases result with
      | error e => rfl
      | ok a => exact hf a after

private theorem segmentStepsBelow_giving (s : Segmenter) (bound : Nat) (word : Text)
    (hlen : word.length < bound) : s.giving.rel (s.segmentStepsBelow bound word) (s.segment word) := by
  induction bound generalizing word with
  | zero => omega
  | succ bound ih =>
    have hstep : s.giving.rel (s.step (fun a => ExceptT.mk (pure a)) (s.segmentStepsBelow bound) word)
        (s.segment word) := by
      rw [segment_eq_step]
      apply step_rel s.giving passesOn_steps passesOn_id (fun _ => rfl)
      intro w hw
      exact ih w (by omega)
    intro found hfound
    cases found with
    | some segments => exact (hfound segments rfl).symm
    | none =>
      apply Process.Gives.bind hstep
      cases hsegment : s.segment word with
      | error e => rfl
      | ok segments => exact ⟨hsegment, rfl⟩

theorem segmentSteps_giving (s : Segmenter) (word : Text) :
    s.giving.rel (s.segmentSteps word) (s.segment word) :=
  segmentStepsBelow_giving s (word.length + 1) word (Nat.lt_succ_self _)

private theorem segmentStepsBelow_succ_run (s : Segmenter) (bound : Nat) (word : Text) (memo : Memo) :
    (s.segmentStepsBelow (bound + 1) word).run.run memo =
      match memo[word]? with
      | some segments => (.ok segments, memo)
      | none =>
        match (s.step (fun a => ExceptT.mk (pure a)) (s.segmentStepsBelow bound) word).run.run memo with
        | (.ok segments, after) => (.ok segments, after.insert word segments)
        | (.error e, after) => (.error e, after) := by
  rw [segmentStepsBelow, ExceptT.run_mk, Process.run]
  cases memo[word]? with
  | some segments => rfl
  | none =>
    dsimp only
    rw [Process.run_bind]
    cases hrun : (s.step (fun a => ExceptT.mk (pure a)) (s.segmentStepsBelow bound)
        word).run.run memo with
    | mk result after => cases result <;> rfl

private theorem segmentMemoBelow_running (s : Segmenter) (bound : Nat) (word : Text) :
    running.rel (s.segmentMemoBelow bound word) (s.segmentStepsBelow bound word) := by
  induction bound generalizing word with
  | zero => exact running.rel_pure [word]
  | succ bound ih =>
    have hstep := step_rel running passesOn_lift passesOn_steps (fun _ _ => rfl) s word
      fun w _ => ih w
    intro memo
    rw [segmentMemoBelow_succ_run, segmentStepsBelow_succ_run, hstep memo]
    rfl

theorem segmentMemo_running (s : Segmenter) (word : Text) :
    running.rel (s.segmentMemo word) (s.segmentSteps word) :=
  segmentMemoBelow_running s (word.length + 1) word

/-- One access to the memo, and what is left of the computation behind it. -/
inductive Access : Memo → Process α → Memo → Process α → Prop
  | look (memo : Memo) (word : Text) (next : Option (List Text) → Process α) :
      Access memo (.look word next) memo (next memo[word]?)
  | note (memo : Memo) (word : Text) (segments : List Text) (next : Process α) :
      Access memo (.note word segments next) (memo.insert word segments) next

/-- One of several computations makes an access. -/
inductive Turn : Memo → List (Process α) → Memo → List (Process α) → Prop
  | here {memo memo' : Memo} {p p' : Process α} (ps : List (Process α))
      (h : Access memo p memo' p') : Turn memo (p :: ps) memo' (p' :: ps)
  | behind {memo memo' : Memo} (p : Process α) {ps ps' : List (Process α)}
      (h : Turn memo ps memo' ps') : Turn memo (p :: ps) memo' (p :: ps')

/-- Several computations go on, one access after another, in any order. -/
inductive Schedule : Memo → List (Process α) → Memo → List (Process α) → Prop
  | nil (memo : Memo) (ps : List (Process α)) : Schedule memo ps memo ps
  | cons {memo memo' memo'' : Memo} {ps ps' ps'' : List (Process α)} (h : Turn memo ps memo' ps')
      (rest : Schedule memo' ps' memo'' ps'') : Schedule memo ps memo'' ps''

section
variable {memo memo' : Memo} {as : List α} {ps ps' : List (Process α)}

theorem Access.keeps {p p' : Process α} {a : α} (h : Access memo p memo' p') (hmemo : s.Sound memo)
    (hp : p.Gives s a) : s.Sound memo' ∧ p'.Gives s a := by
  cases h with
  | look word next => exact ⟨hmemo, hp _ fun segments hfound => hmemo word segments hfound⟩
  | note word segments next => exact ⟨hmemo.insert hp.1, hp.2⟩

theorem Turn.keeps (h : Turn memo ps memo' ps') (hmemo : s.Sound memo)
    (hps : List.Forall₂ (Process.Gives s) as ps) :
    s.Sound memo' ∧ List.Forall₂ (Process.Gives s) as ps' := by
  induction h generalizing as with
  | here ps h =>
    cases hps with
    | cons hp hps =>
      obtain ⟨hmemo', hp'⟩ := h.keeps hmemo hp
      exact ⟨hmemo', .cons hp' hps⟩
  | behind p _ ih =>
    cases hps with
    | cons hp hps =>
      obtain ⟨hmemo', hps'⟩ := ih hps
      exact ⟨hmemo', .cons hp hps'⟩

theorem Schedule.keeps (h : Schedule memo ps memo' ps') (hmemo : s.Sound memo)
    (hps : List.Forall₂ (Process.Gives s) as ps) :
    s.Sound memo' ∧ List.Forall₂ (Process.Gives s) as ps' := by
  induction h with
  | nil memo ps => exact ⟨hmemo, hps⟩
  | cons h _ ih =>
    obtain ⟨hmemo', hps'⟩ := h.keeps hmemo hps
    exact ih hmemo' hps'

theorem Schedule.results {bs : List α} (h : Schedule memo ps memo' (bs.map .done))
    (hmemo : s.Sound memo) (hps : List.Forall₂ (Process.Gives s) as ps) : bs = as := by
  have hdone := (h.keeps hmemo hps).2
  rw [List.forall₂_map_right_iff] at hdone
  have heq : List.Forall₂ Eq bs as := hdone.flip.imp fun _ _ h => h
  rwa [List.forall₂_eq_eq_eq] at heq

theorem exists_turn (memo : Memo) (ps : List (Process α)) :
    (∃ bs : List α, ps = bs.map .done) ∨ ∃ memo' ps', Turn memo ps memo' ps' := by
  induction ps with
  | nil => exact .inl ⟨[], rfl⟩
  | cons p ps ih =>
    cases p with
    | look word next => exact .inr ⟨_, _, .here ps (.look memo word next)⟩
    | note word segments next => exact .inr ⟨_, _, .here ps (.note memo word segments next)⟩
    | done b =>
      rcases ih with ⟨bs, rfl⟩ | ⟨memo', ps', hturn⟩
      · exact .inl ⟨b :: bs, rfl⟩
      · exact .inr ⟨memo', _, .behind _ hturn⟩

/-- What may be left behind an access. -/
def Process.Follows (p' p : Process α) : Prop := ∃ memo memo', Access memo p memo' p'

/-- What may be left of several computations behind an access. -/
def Follow (ps' ps : List (Process α)) : Prop := ∃ memo memo', Turn memo ps memo' ps'

theorem Process.acc_follows (p : Process α) : Acc Process.Follows p := by
  induction p with
  | done a => exact ⟨_, fun _ ⟨_, _, h⟩ => by cases h⟩
  | look word next ih =>
    refine ⟨_, fun _ ⟨memo, _, h⟩ => ?_⟩
    cases h
    exact ih memo[word]?
  | note word segments next ih =>
    refine ⟨_, fun _ ⟨_, _, h⟩ => ?_⟩
    cases h
    exact ih

theorem wellFounded_follow : WellFounded (@Follow α) := by
  refine ⟨fun ps => ?_⟩
  induction ps with
  | nil => exact ⟨_, fun _ ⟨_, _, h⟩ => by cases h⟩
  | cons p ps ih =>
    have hp := p.acc_follows
    induction hp generalizing ps with
    | intro p _ ihp =>
      induction ih with
      | intro ps hps ihps =>
        refine ⟨_, fun _ ⟨memo, memo', h⟩ => ?_⟩
        cases h with
        | here _ h => exact ihp _ ⟨memo, memo', h⟩ ps ⟨ps, hps⟩
        | behind _ h => exact ihps _ ⟨memo, memo', h⟩

/-- From wherever a schedule has led, all computations can come to their ends. -/
theorem exists_schedule (hmemo : s.Sound memo) (hps : List.Forall₂ (Process.Gives s) as ps) :
    ∃ memo', Schedule memo ps memo' (as.map .done) := by
  induction ps using wellFounded_follow.induction generalizing memo with
  | _ ps ih =>
    rcases exists_turn memo ps with ⟨bs, rfl⟩ | ⟨after, ps', hturn⟩
    · have hbs := (Schedule.nil memo (bs.map .done)).results hmemo hps
      exact ⟨memo, hbs ▸ .nil memo _⟩
    · obtain ⟨hafter, hps'⟩ := hturn.keeps hmemo hps
      obtain ⟨memo', hschedule⟩ := ih ps' ⟨memo, after, hturn⟩ hafter hps'
      exact ⟨memo', .cons hturn hschedule⟩

end

end Dictation.Segmenter
