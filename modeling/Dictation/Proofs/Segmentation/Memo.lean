import Dictation.Proofs.Segmentation.Simulation
/-!
# The memo of a segmenter

A memo is sound if it holds true answers only. A search that starts with a sound memo answers like
the search without one and leaves a sound memo behind, whether it succeeds or fails. So no order of
calls on one segmenter can be told from calls on new ones.

A segmenter asks its vocabulary for nothing but stretches of the word. So it does the same with any
other vocabulary that answers these alike, and it fails only with an error that the vocabulary gave to
a query of them, whatever its memo holds.
-/
namespace Dictation.Segmenter

/-- Whether all that a memo holds is what the search without it finds. -/
def Sound (s : Segmenter) (memo : Memo) : Prop :=
  ∀ (word : Text) (segments : List Text), memo[word]? = some segments → s.segment word = .ok segments

/-- Whether a computation gives `a` from every sound memo, and leaves a sound memo behind. -/
def Computes (s : Segmenter) {α : Type} (x : Remembering α) (a : Except VocabularyError α) : Prop :=
  ∀ memo, s.Sound memo → (x.run.run memo).1 = a ∧ s.Sound (x.run.run memo).2

theorem sound_empty (s : Segmenter) : s.Sound ∅ := by
  intro word segments h
  rw [Std.HashMap.getElem?_empty] at h
  cases h

theorem Sound.insert {s : Segmenter} {memo : Memo} (h : s.Sound memo) {word : Text}
    {segments : List Text} (hword : s.segment word = .ok segments) :
    s.Sound (memo.insert word segments) := by
  intro w found hw
  rw [Std.HashMap.getElem?_insert] at hw
  by_cases he : (word == w) = true
  · rw [if_pos he] at hw
    cases hw
    exact (beq_iff_eq.mp he) ▸ hword
  · rw [if_neg he] at hw
    exact h w found hw

/-- Computations with a memo, related to what they compute. -/
def computing (s : Segmenter) : Simulation Remembering (Except VocabularyError) where
  rel x a := s.Computes x a
  rel_pure a := by
    intro memo h
    exact ⟨rfl, h⟩
  rel_bind {α β x y f g} hx hf := by
    intro memo h
    obtain ⟨hvalue, hsound⟩ := hx memo h
    cases hrun : x.run.run memo with
    | mk result after =>
      rw [hrun] at hvalue hsound
      subst hvalue
      cases result with
      | error e =>
        have hfail : (x >>= f).run.run memo = (.error e, after) := by
          rw [ExceptT.run_bind, StateT.run_bind, hrun]
          rfl
        rw [hfail]
        exact ⟨rfl, hsound⟩
      | ok a =>
        have hgo : (x >>= f).run.run memo = (f a).run.run after := by
          rw [ExceptT.run_bind, StateT.run_bind, hrun]
          rfl
        rw [hgo]
        exact hf a after hsound

theorem passesOn_lift : PassesOn (m := Remembering) fun a => ExceptT.mk (pure a) where
  ok _ := rfl
  error _ _ := rfl

private theorem computes_answer (s : Segmenter) {α : Type} (a : Except VocabularyError α) :
    s.Computes (ExceptT.mk (pure a)) a := by
  intro memo h
  exact ⟨rfl, h⟩

theorem segmentMemoBelow_succ_run (s : Segmenter) (bound : Nat) (word : Text)
    (memo : Memo) :
    (s.segmentMemoBelow (bound + 1) word).run.run memo =
      match memo[word]? with
      | some segments => (.ok segments, memo)
      | none =>
        match (s.step (fun a => ExceptT.mk (pure a)) (s.segmentMemoBelow bound) word).run.run memo with
        | (.ok segments, after) => (.ok segments, after.insert word segments)
        | (.error e, after) => (.error e, after) := by
  let search : Remembering (List Text) :=
    s.step (fun a => ExceptT.mk (pure a)) (s.segmentMemoBelow bound) word
  have hlook : (s.segmentMemoBelow (bound + 1) word).run.run memo =
      ExceptT.run (match memo[word]? with
        | some segments => pure segments
        | none => search >>= fun segments => do
          modify (·.insert word segments)
          return segments : Remembering (List Text)) memo := rfl
  rw [hlook]
  cases memo[word]? with
  | some segments => rfl
  | none =>
    change (search >>= _).run.run memo = _
    rw [ExceptT.run_bind, StateT.run_bind]
    obtain ⟨value, after⟩ : Except VocabularyError (List Text) × Memo := search.run.run memo
    cases value <;> rfl

private theorem segmentMemoBelow_computes (s : Segmenter) (bound : Nat) (word : Text)
    (hlen : word.length < bound) : s.Computes (s.segmentMemoBelow bound word) (s.segment word) := by
  induction bound generalizing word with
  | zero => omega
  | succ bound ih =>
    have hstep : s.Computes
        (s.step (fun a => ExceptT.mk (pure a)) (s.segmentMemoBelow bound) word)
        (s.segment word) := by
      rw [segment_eq_step]
      apply step_rel s.computing passesOn_lift passesOn_id (fun e => computes_answer s (.error e))
      intro w hw
      exact ih w (by omega)
    intro memo hmemo
    rw [segmentMemoBelow_succ_run]
    cases hfound : memo[word]? with
    | some segments => exact ⟨(hmemo word segments hfound).symm, hmemo⟩
    | none =>
      obtain ⟨hvalue, hsound⟩ := hstep memo hmemo
      cases hrun : (s.step (fun a => ExceptT.mk (pure a)) (s.segmentMemoBelow bound)
          word).run.run memo with
      | mk value after =>
        rw [hrun] at hvalue hsound
        cases value with
        | error e => exact ⟨hvalue, hsound⟩
        | ok segments => exact ⟨hvalue, hsound.insert hvalue.symm⟩

theorem segmentMemo_computes (s : Segmenter) (word : Text) :
    s.Computes (s.segmentMemo word) (s.segment word) :=
  segmentMemoBelow_computes s (word.length + 1) word (Nat.lt_succ_self _)

/-- Calls on one segmenter, one after another: their results and the memo that they leave. A call
that fails leaves behind what was found on the way. -/
def calls (s : Segmenter) : List Text → Memo → List (Except VocabularyError (List Text)) × Memo
  | [], memo => ([], memo)
  | word :: words, memo =>
    let (result, after) := (s.segmentMemo word).run.run memo
    let (results, last) := s.calls words after
    (result :: results, last)

private theorem calls_from_sound (s : Segmenter) (words : List Text) (memo : Memo)
    (h : s.Sound memo) :
    (s.calls words memo).1 = words.map s.segment ∧ s.Sound (s.calls words memo).2 := by
  induction words generalizing memo with
  | nil => exact ⟨rfl, h⟩
  | cons word words ih =>
    obtain ⟨hresult, hafter⟩ := segmentMemo_computes s word memo h
    obtain ⟨hresults, hlast⟩ := ih _ hafter
    refine ⟨?_, hlast⟩
    change ((s.segmentMemo word).run.run memo).1 ::
      (s.calls words ((s.segmentMemo word).run.run memo).2).1 = _
    rw [hresult, hresults, List.map_cons]

/-- In any sequence of calls each call answers like the first call on a new segmenter, which is what
the search without a memo finds, and the memo holds nothing else afterwards. -/
theorem calls_eq_fresh (s : Segmenter) (words : List Text) :
    (s.calls words ∅).1 = words.map (fun word => ((s.segmentMemo word).run.run ∅).1) ∧
      (s.calls words ∅).1 = words.map s.segment ∧
      ∀ (word : Text) (segments : List Text), (s.calls words ∅).2[word]? = some segments →
        s.segment word = .ok segments := by
  have hfresh (word : Text) : ((s.segmentMemo word).run.run ∅).1 = s.segment word :=
    (segmentMemo_computes s word ∅ (sound_empty s)).1
  obtain ⟨hresults, hmemo⟩ := calls_from_sound s words ∅ (sound_empty s)
  refine ⟨?_, hresults, hmemo⟩
  rw [hresults]
  exact List.map_congr_left fun word _ => (hfresh word).symm

/-- Computations that do the same from every memo and fail with certain errors only. -/
def alike (E : VocabularyError → Prop) : Simulation Remembering Remembering where
  rel x y := ∀ memo, x.run.run memo = y.run.run memo ∧ ∀ e, (x.run.run memo).1 = .error e → E e
  rel_pure a memo := ⟨rfl, nofun⟩
  rel_bind {α β x y f g} hx hf memo := by
    obtain ⟨hrun, herror⟩ := hx memo
    rw [ExceptT.run_bind, ExceptT.run_bind, StateT.run_bind, StateT.run_bind, ← hrun]
    cases hresult : x.run.run memo with
    | mk result after =>
      rw [hresult] at herror
      cases result with
      | error e =>
        refine ⟨rfl, fun e' he' => herror e' ?_⟩
        cases he'
        rfl
      | ok a => exact hf a after

variable {s s' : Segmenter} {E : VocabularyError → Prop}

private theorem segmentMemoBelow_alike (bound : Nat) {word : Text}
    (hagree : s.Agree s' (· <:+: word)) (hE : ∀ e, Fails s.vocabulary (· <:+: word) e → E e) :
    (alike E).rel (s.segmentMemoBelow bound word) (s'.segmentMemoBelow bound word) := by
  induction bound generalizing word with
  | zero => exact (alike E).rel_pure _
  | succ bound ih =>
    have hstep : (alike E).rel
        (s.step (fun a => ExceptT.mk (pure a)) (s.segmentMemoBelow bound) word)
        (s'.step (fun a => ExceptT.mk (pure a)) (s'.segmentMemoBelow bound) word) := by
      refine step_rel_of_agree (alike E) passesOn_lift passesOn_lift hagree (fun e he memo => ?_)
        fun w hw _ => ih (hagree.mono fun u hu => hu.trans hw) fun e he => hE e ?_
      · refine ⟨rfl, fun e' he' => ?_⟩
        cases he'
        exact hE e he
      · obtain ⟨query, hquery, herror⟩ := he
        exact ⟨query, fun u hu => (hquery u hu).trans hw, herror⟩
    intro memo
    obtain ⟨hrun, herror⟩ := hstep memo
    rw [segmentMemoBelow_succ_run, segmentMemoBelow_succ_run, ← hrun]
    cases memo[word]? with
    | some segments => exact ⟨rfl, nofun⟩
    | none =>
      refine ⟨rfl, fun e he => herror e ?_⟩
      cases hresult : (s.step (fun a => ExceptT.mk (pure a)) (s.segmentMemoBelow bound)
          word).run.run memo with
      | mk result after =>
        rw [hresult] at he
        cases result with
        | ok segments => cases he
        | error e' => exact he

theorem segmentMemo_alike {word : Text} (hagree : s.Agree s' (· <:+: word))
    (hE : ∀ e, Fails s.vocabulary (· <:+: word) e → E e) :
    (alike E).rel (s.segmentMemo word) (s'.segmentMemo word) :=
  segmentMemoBelow_alike (word.length + 1) hagree hE

end Dictation.Segmenter
