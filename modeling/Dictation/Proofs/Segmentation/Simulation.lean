import Dictation.Proofs.Segmentation.Sides
/-!
# Searches in related monads

A search step is written for any monad. If two monads are related in a way that sequencing respects,
then a step in the one is related to the step in the other, provided that the answers to shorter
words are. Nothing is asked on the way but stretches of the word, so two segmenters need only agree on
these. In `Except` the relation can be equality: what becomes of a word depends on shorter words only,
and any bound that exceeds its length will do.
-/
namespace Dictation

/-- A relation between the computations of two monads that `pure` and `bind` respect. -/
structure Simulation (m n : Type → Type) [Monad m] [Monad n] where
  rel : {α : Type} → m α → n α → Prop
  rel_pure {α : Type} (a : α) : rel (pure a) (pure a)
  rel_bind {α β : Type} {x : m α} {y : n α} {f : α → m β} {g : α → n β} :
    rel x y → (∀ a, rel (f a) (g a)) → rel (x >>= f) (y >>= g)

namespace Segmenter

/-- Answers of a vocabulary are passed on as they stand, and a failure ends the search. -/
structure PassesOn {m : Type → Type} [Monad m]
    (ask : {α : Type} → Except VocabularyError α → m α) : Prop where
  ok {α : Type} (a : α) : ask (.ok a) = pure a
  error {α β : Type} (e : VocabularyError) (f : α → m β) : ask (.error e) >>= f = ask (.error e)

theorem mem_cuts_of_knownCuts {s : Segmenter} {side : Side} {word : Text} {cs : List (Text × Text)}
    (h : s.knownCuts side word = .ok cs) {cut : Text × Text} (hc : cut ∈ cs) : cut ∈ cuts word := by
  rw [knownCuts_eq] at h
  cases hknown : s.vocabulary.known ((side.inOrder (cuts word)).map side.kept) with
  | error e =>
    rw [hknown] at h
    cases h
  | ok known =>
    rw [hknown] at h
    cases h
    exact Side.mem_inOrder.mp (List.mem_filter.mp hc).1

theorem haveWords_of_contains {v : Vocabulary} {w : Text} {e : VocabularyError}
    (h : v.contains w = .error e) : v.haveWords [w] = .error e := by
  unfold Vocabulary.contains at h
  cases hv : v.haveWords [w] with
  | error e' =>
    rw [hv] at h
    cases h
    rfl
  | ok a =>
    rw [hv] at h
    cases h

theorem haveWords_of_known {v : Vocabulary} {ws : List Text} {e : VocabularyError}
    (h : v.known ws = .error e) : v.haveWords ws = .error e := by
  unfold Vocabulary.known at h
  split at h
  · cases h
  · exact h

theorem haveWords_of_knownCuts {s : Segmenter} {side : Side} {word : Text} {e : VocabularyError}
    (h : s.knownCuts side word = .error e) :
    s.vocabulary.haveWords ((side.inOrder (cuts word)).map side.kept) = .error e := by
  rw [knownCuts_eq] at h
  cases hknown : s.vocabulary.known ((side.inOrder (cuts word)).map side.kept) with
  | error e' =>
    rw [hknown] at h
    cases h
    exact haveWords_of_known hknown
  | ok known =>
    rw [hknown] at h
    cases h

theorem infix_of_mem_kept {side : Side} {word w : Text}
    (h : w ∈ (side.inOrder (cuts word)).map side.kept) : w <:+: word := by
  obtain ⟨cut, hcut, rfl⟩ := List.mem_map.mp h
  exact (infix_of_mem_cuts (Side.mem_inOrder.mp hcut) side).1

/-- Segmenters that cannot be told apart by queries of certain words. -/
structure Agree (s s' : Segmenter) (p : Text → Prop) : Prop where
  guess : s.guess = s'.guess
  isEmpty : s.vocabulary.isEmpty = s'.vocabulary.isEmpty
  haveWords : ∀ query : List Text, (∀ w ∈ query, p w) →
    s.vocabulary.haveWords query = s'.vocabulary.haveWords query

namespace Agree

variable {s s' : Segmenter} {p : Text → Prop}

theorem refl (s : Segmenter) (p : Text → Prop) : s.Agree s p := ⟨rfl, rfl, fun _ _ => rfl⟩

theorem mono (h : s.Agree s' p) {q : Text → Prop} (hq : ∀ w, q w → p w) : s.Agree s' q :=
  ⟨h.guess, h.isEmpty, fun query hquery => h.haveWords query fun w hw => hq w (hquery w hw)⟩

theorem contains (h : s.Agree s' p) {w : Text} (hw : p w) :
    s.vocabulary.contains w = s'.vocabulary.contains w := by
  unfold Vocabulary.contains
  rw [h.haveWords [w] (by simpa using hw)]

theorem known (h : s.Agree s' p) {ws : List Text} (hws : ∀ w ∈ ws, p w) :
    s.vocabulary.known ws = s'.vocabulary.known ws := by
  unfold Vocabulary.known
  rw [h.haveWords ws hws]

theorem knownCuts {word : Text} (h : s.Agree s' (· <:+: word)) (side : Side) :
    s.knownCuts side word = s'.knownCuts side word := by
  rw [knownCuts_eq, knownCuts_eq, h.known fun _ => infix_of_mem_kept]

end Agree

/-- The errors that a vocabulary gives to queries of certain words. -/
def Fails (v : Vocabulary) (p : Text → Prop) (e : VocabularyError) : Prop :=
  ∃ query : List Text, (∀ w ∈ query, p w) ∧ v.haveWords query = .error e

section
variable {m n : Type → Type} [Monad m] [LawfulMonad m] [Monad n] [LawfulMonad n]
  (R : Simulation m n)
  {ask : {α : Type} → Except VocabularyError α → m α} (hask : PassesOn ask)
  {ask' : {α : Type} → Except VocabularyError α → n α} (hask' : PassesOn ask')
include hask hask'

private theorem ask_bind_rel {α β : Type} {x x' : Except VocabularyError α} (hx : x = x')
    (hfail : ∀ e, x = .error e → R.rel (ask (α := β) (.error e)) (ask' (.error e))) {f : α → m β}
    {g : α → n β} (h : ∀ a, x = .ok a → R.rel (f a) (g a)) :
    R.rel (ask x >>= f) (ask' x' >>= g) := by
  subst hx
  cases x with
  | error e =>
    rw [hask.error, hask'.error]
    exact hfail e rfl
  | ok a =>
    rw [hask.ok, hask'.ok, pure_bind, pure_bind]
    exact h a rfl

variable {s s' : Segmenter} {word : Text} (hagree : s.Agree s' (· <:+: word))
  (hfail : ∀ {α : Type} (e : VocabularyError), Fails s.vocabulary (· <:+: word) e →
    R.rel (ask (α := α) (.error e)) (ask' (.error e)))
  {recurse : Text → m (List Text)} {recurse' : Text → n (List Text)}
include hagree hfail

private theorem contains_bind_rel {β : Type} {w : Text} (hw : w <:+: word) {f : Bool → m β}
    {g : Bool → n β} (h : ∀ known, R.rel (f known) (g known)) :
    R.rel (ask (s.vocabulary.contains w) >>= f) (ask' (s'.vocabulary.contains w) >>= g) :=
  ask_bind_rel R hask hask' (hagree.contains hw)
    (fun e he => hfail e ⟨[w], by simpa using hw, haveWords_of_contains he⟩) fun known _ => h known

private theorem firstCut_rel {side : Side} (cs : List (Text × Text)) (hcs : ∀ cut ∈ cs, cut ∈ cuts word)
    (hrec : ∀ w : Text, w <:+: word → w.length < word.length → R.rel (recurse w) (recurse' w)) :
    R.rel (s.firstCut ask recurse side cs) (s'.firstCut ask' recurse' side cs) := by
  induction cs with
  | nil =>
    rw [firstCut_nil, firstCut_nil]
    exact R.rel_pure none
  | cons cut rest ih =>
    obtain ⟨hcut, hrest⟩ := List.forall_mem_cons.mp hcs
    have hinfix := (infix_of_mem_cuts hcut side).2
    have hlater := ih hrest
    rw [firstCut_cons, firstCut_cons]
    refine contains_bind_rel R hask hask' hagree hfail hinfix fun known => ?_
    cases known with
    | true => exact R.rel_pure _
    | false =>
      refine R.rel_bind (hrec _ hinfix (length_lt_of_mem_cuts hcut side).2) fun segments => ?_
      by_cases hsplit :
          (decide (1 < (side.kept cut).length) && decide (segments ≠ [side.left cut])) = true
      · simp only [hsplit, if_true]
        exact R.rel_pure _
      · simp only [hsplit]
        exact hlater

private theorem side_rel {β : Type} (side : Side)
    (hrec : ∀ w : Text, w <:+: word → w.length < word.length → R.rel (recurse w) (recurse' w))
    {f : Option (List Text) → m β} {g : Option (List Text) → n β} (h : ∀ found, R.rel (f found) (g found)) :
    R.rel (ask (s.knownCuts side word) >>= fun cs => s.firstCut ask recurse side cs >>= f)
      (ask' (s'.knownCuts side word) >>= fun cs => s'.firstCut ask' recurse' side cs >>= g) := by
  refine ask_bind_rel R hask hask' (hagree.knownCuts side) (fun e he => ?_) fun cs hcs => ?_
  · exact hfail e ⟨_, fun _ => infix_of_mem_kept, haveWords_of_knownCuts he⟩
  · exact R.rel_bind (firstCut_rel R hask hask' hagree hfail cs
      (fun cut hc => mem_cuts_of_knownCuts hcs hc) hrec) h

/-- Steps of segmenters that agree on the stretches of the word are related if the answers to shorter
stretches are. -/
theorem step_rel_of_agree
    (hrec : ∀ w : Text, w <:+: word → w.length < word.length → R.rel (recurse w) (recurse' w)) :
    R.rel (s.step ask recurse word) (s'.step ask' recurse' word) := by
  rw [step_eq, step_eq, ← hagree.guess, ← hagree.isEmpty]
  by_cases hwhole : (word.isEmpty || !s.guess || s.vocabulary.isEmpty) = true
  · simp only [hwhole, if_true]
    exact R.rel_pure _
  by_cases hdigits : word.all isAsciiDigit = true
  · simp only [hwhole, hdigits, if_true]
    exact R.rel_pure _
  simp only [hwhole, hdigits]
  refine contains_bind_rel R hask hask' hagree hfail (List.infix_rfl) fun known => ?_
  cases known with
  | true => exact R.rel_pure _
  | false =>
    refine side_rel R hask hask' hagree hfail .beginning hrec fun found => ?_
    cases found with
    | some segments => exact R.rel_pure _
    | none =>
      refine side_rel R hask hask' hagree hfail .ending hrec fun found => ?_
      cases found with
      | some segments => exact R.rel_pure _
      | none => exact R.rel_pure _

omit hagree hfail in
theorem step_rel
    (hfail : ∀ {α : Type} (e : VocabularyError), R.rel (ask (α := α) (.error e)) (ask' (.error e)))
    (s : Segmenter) (word : Text)
    (hrec : ∀ w : Text, w.length < word.length → R.rel (recurse w) (recurse' w)) :
    R.rel (s.step ask recurse word) (s.step ask' recurse' word) :=
  step_rel_of_agree R hask hask' (.refl s _) (fun e _ => hfail e) fun w _ hw => hrec w hw

end

private def equality : Simulation (Except VocabularyError) (Except VocabularyError) where
  rel := Eq
  rel_pure _ := rfl
  rel_bind h hf := by
    subst h
    exact congrArg _ (funext hf)

theorem passesOn_id : PassesOn (m := Except VocabularyError) fun a => a where
  ok _ := rfl
  error _ _ := rfl

theorem step_congr (s : Segmenter) (word : Text)
    {recurse recurse' : Text → Except VocabularyError (List Text)}
    (h : ∀ w : Text, w.length < word.length → recurse w = recurse' w) :
    s.step (fun a => a) recurse word = s.step (fun a => a) recurse' word :=
  step_rel equality passesOn_id passesOn_id (fun _ => rfl) s word h

private theorem segmentBelow_eq (s : Segmenter) (bound : Nat) (word : Text)
    (h : word.length < bound) : s.segmentBelow bound word = s.segment word := by
  induction bound using Nat.strongRecOn generalizing word with
  | ind bound ih =>
    cases bound with
    | zero => omega
    | succ bound =>
      change s.step (fun a => a) (s.segmentBelow bound) word =
        s.step (fun a => a) (s.segmentBelow word.length) word
      apply step_congr
      intro w hw
      rw [ih bound (by omega) w (by omega)]
      by_cases hb : word.length = bound
      · rw [hb, ih bound (by omega) w (by omega)]
      · rw [ih word.length (by omega) w hw]

theorem segment_eq_step (s : Segmenter) (word : Text) :
    s.segment word = s.step (fun a => a) s.segment word := by
  apply step_congr
  intro w hw
  exact segmentBelow_eq s word.length w hw

section
variable {s : Segmenter} {word : Text}

theorem segment_idle (h : (word.isEmpty || !s.guess || s.vocabulary.isEmpty) = true) :
    s.segment word = .ok [word] := by
  rw [segment_eq_step, step, if_pos h]
  rfl

theorem segment_spelled (hguess : s.guess = true) (hwords : s.vocabulary.isEmpty = false)
    (hne : word ≠ []) (hdigits : word.all isAsciiDigit = true) :
    s.segment word = .ok (spellDigits word) := by
  have hidle : (word.isEmpty || !s.guess || s.vocabulary.isEmpty) = false := by
    simp [hguess, hwords, hne]
  rw [segment_eq_step, step, hidle, hdigits]
  rfl

theorem segment_known (hknown : s.vocabulary.contains word = .ok true)
    (hdigits : word.all isAsciiDigit = false) : s.segment word = .ok [word] := by
  by_cases hidle : (word.isEmpty || !s.guess || s.vocabulary.isEmpty) = true
  · exact segment_idle hidle
  · rw [segment_eq_step, step, if_neg hidle, hdigits, hknown]
    rfl

end

end Segmenter

end Dictation
