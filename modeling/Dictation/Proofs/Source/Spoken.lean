import Dictation.Proofs.Text.Fields
import Dictation.Source.Statement
/-!
# No text is passed over in silence

A text that is not empty has cues, however it is cut into runs, tokens and pieces, and so has a name.
-/
namespace Dictation

theorem numeralWords?_ne_nil {c : Char} {ws : List Text} (h : numeralWords? c = some ws) : ws ≠ [] := by
  unfold numeralWords? at h
  split at h <;> cases h <;> exact List.cons_ne_nil _ _

theorem numberWords_ne_nil {t : Text} (ht : t ≠ []) {ws : List Text} (h : numberWords t = .ok ws) :
    ws ≠ [] := by
  obtain ⟨c, rest, rfl⟩ := List.exists_cons_of_ne_nil ht
  unfold numberWords at h
  split at h
  · cases h
  case h_2 first hfirst =>
    split at h
    · cases h
      exact List.append_ne_nil_of_left_ne_nil (numeralWords?_ne_nil hfirst) _
    · cases h

theorem operatorWords_ne_nil {t : Text} (ht : t ≠ []) : Operator.words t ≠ [] := by
  obtain ⟨c, rest, rfl⟩ := List.exists_cons_of_ne_nil ht
  rw [Operator.words, Operator.split]
  exact List.cons_ne_nil _ _

theorem text_ne_nil_of_mem_runs {k : Combiners} {t : Text} {r : Run} (hr : r ∈ k.runs t) :
    r.text ≠ [] := by
  induction t generalizing r with
  | nil => cases hr
  | cons c rest ih =>
    unfold Combiners.runs Run.prepend at hr
    split at hr
    case h_1 =>
      rw [List.mem_singleton.mp hr]
      exact List.cons_ne_nil _ _
    case h_2 first others hruns =>
      split at hr
      all_goals
        rcases List.mem_cons.mp hr with rfl | hr
        · exact List.cons_ne_nil _ _
      · exact ih (hruns ▸ List.mem_cons_of_mem first hr)
      · exact ih (hruns ▸ hr)

theorem runs_ne_nil {k : Combiners} {t : Text} (ht : t ≠ []) : k.runs t ≠ [] := by
  obtain ⟨c, rest, rfl⟩ := List.exists_cons_of_ne_nil ht
  unfold Combiners.runs Run.prepend
  split
  · exact List.cons_ne_nil _ _
  · split <;> exact List.cons_ne_nil _ _

namespace Token

theorem group_ne_nil {rs : List Run} (h : rs ≠ []) : group rs ≠ [] := by
  obtain ⟨r, rest, rfl⟩ := List.exists_cons_of_ne_nil h
  unfold group
  split
  · exact List.cons_ne_nil _ _
  · unfold extend
    split <;> exact List.cons_ne_nil _ _

theorem runs_of_mem_group {rs : List Run} {t : Token} (ht : t ∈ group rs) :
    t.runs ≠ [] ∧ ∀ r ∈ t.runs, r ∈ rs := by
  induction rs generalizing t with
  | nil => cases ht
  | cons r rest ih =>
    have hlater : ∀ t ∈ group rest, t.runs ≠ [] ∧ ∀ r' ∈ t.runs, r' ∈ r :: rest := fun t ht =>
      ⟨(ih ht).1, fun r' hr' => List.mem_cons_of_mem r ((ih ht).2 r' hr')⟩
    unfold group at ht
    split at ht
    case isTrue =>
      rcases List.mem_cons.mp ht with rfl | ht
      · simp
      · exact hlater t ht
    case isFalse =>
      unfold extend at ht
      split at ht
      case h_1 =>
        rw [List.mem_singleton.mp ht]
        simp
      case h_2 first others hgroup =>
        rw [hgroup] at hlater
        rcases List.mem_cons.mp ht with rfl | ht
        · refine ⟨List.cons_ne_nil _ _, fun r' hr' => ?_⟩
          rcases List.mem_cons.mp hr' with rfl | hr'
          · exact List.mem_cons_self
          · exact (hlater first List.mem_cons_self).2 r' hr'
        · exact hlater t (List.mem_cons_of_mem first ht)

end Token

namespace Cue

theorem pieceCues_ne_nil {pending : Text} {rs : List Run} (hrs : ∀ r ∈ rs, r.text ≠ [])
    (h : pending ≠ [] ∨ rs ≠ []) : (Piece.splitAfter pending rs).flatMap ofPiece ≠ [] := by
  induction rs generalizing pending with
  | nil =>
    obtain ⟨c, rest, rfl⟩ := List.exists_cons_of_ne_nil (h.resolve_right fun hne => hne rfl)
    exact List.cons_ne_nil _ _
  | cons r rest ih =>
    have hr := hrs r List.mem_cons_self
    have hrest : ∀ r' ∈ rest, r'.text ≠ [] := fun r' hr' => hrs r' (List.mem_cons_of_mem r hr')
    have hdigits : (spellDigits r.text).map fixed ≠ [] := by simpa [spellDigits] using hr
    unfold Piece.splitAfter
    split
    · simp [ofPiece, hdigits]
    · split
      · simp [ofPiece]
      · simp [ih hrest (Or.inl hr)]
    · exact ih hrest (Or.inl (List.append_ne_nil_of_right_ne_nil pending hr))

theorem ofName_ne_nil {rs : List Run} (hrs : ∀ r ∈ rs, r.text ≠ []) (h : rs ≠ []) : ofName rs ≠ [] :=
  List.append_ne_nil_of_right_ne_nil _ (pieceCues_ne_nil hrs (Or.inr h))

theorem ofRunsAfter_ne_nil {name rs : List Run} (hname : ∀ r ∈ name, r.text ≠ [])
    (hrs : ∀ r ∈ rs, r.text ≠ []) (h : name ≠ [] ∨ rs ≠ []) : ofRunsAfter name rs ≠ [] := by
  induction rs generalizing name with
  | nil => exact ofName_ne_nil hname (h.resolve_right fun hne => hne rfl)
  | cons r rest ih =>
    have hr := hrs r List.mem_cons_self
    unfold ofRunsAfter
    split
    · refine ih (fun r' hr' => ?_) (fun r' hr' => hrs r' (List.mem_cons_of_mem r hr')) (Or.inl (by simp))
      rcases List.mem_append.mp hr' with hr' | hr'
      · exact hname r' hr'
      · exact List.mem_singleton.mp hr' ▸ hr
    · simp [operatorWords_ne_nil hr]

theorem ofToken_ne_nil {t : Token} (hruns : t.runs ≠ []) (htext : ∀ r ∈ t.runs, r.text ≠ []) :
    ofToken t ≠ [] := by
  obtain ⟨r, rest, heq⟩ := List.exists_cons_of_ne_nil hruns
  have hr := htext r (heq ▸ List.mem_cons_self)
  unfold ofToken
  split
  · rw [heq, List.flatMap_cons]
    refine List.append_ne_nil_of_left_ne_nil ?_ _
    split
    · exact List.cons_ne_nil _ _
    · simp [operatorWords_ne_nil hr]
  · split
    case h_1 ws _ hws =>
      have ht : t.text ≠ [] := by simp [Token.text, heq, hr]
      simp [numberWords_ne_nil ht hws]
    case h_2 => exact ofRunsAfter_ne_nil (fun _ h => absurd h List.not_mem_nil) htext (Or.inr hruns)

theorem ofText_ne_nil (k : Combiners) {t : Text} (ht : t ≠ []) : ofText k t ≠ [] := by
  obtain ⟨token, others, htokens⟩ := List.exists_cons_of_ne_nil (Token.group_ne_nil (runs_ne_nil (k := k) ht))
  obtain ⟨hruns, hmem⟩ := Token.runs_of_mem_group (htokens ▸ List.mem_cons_self)
  unfold ofText Combiners.tokens
  rw [htokens, List.flatMap_cons]
  exact List.append_ne_nil_of_left_ne_nil
    (ofToken_ne_nil hruns fun r hr => text_ne_nil_of_mem_runs (hmem r hr)) _

end Cue

namespace Source

theorem joinCues_ne_nil {between : List Cue} (hbetween : between ≠ []) {ls : List (List Cue)}
    (hls : ls ≠ []) (h : ∀ cues, ls = [cues] → cues ≠ []) : joinCues between ls ≠ [] := by
  unfold joinCues
  split
  · exact absurd rfl hls
  · exact h _ rfl
  · simp [hbetween]

theorem doubledFields_cases (name : Text) :
    ∃ f fs, doubledFields name = f :: fs ∧ (fs = [] → f = name) := by
  fun_induction doubledFields name with
  | case1 => exact ⟨_, _, rfl, fun _ => rfl⟩
  | case2 => exact ⟨_, _, rfl, fun _ => rfl⟩
  | case3 c d rest h ih =>
    obtain ⟨f, fs, hfields, _⟩ := ih
    exact ⟨_, _, rfl, fun hnil => by rw [hfields] at hnil; cases hnil⟩
  | case4 c d rest _ hfields ih =>
    obtain ⟨f, fs, hf, _⟩ := ih
    rw [hfields] at hf
    cases hf
  | case5 c d rest _ f fs hfields ih =>
    obtain ⟨g, gs, hg, hname⟩ := ih
    rw [hfields] at hg
    cases hg
    exact ⟨_, _, rfl, fun hnil => by rw [hname hnil]⟩

theorem fragmentCues_ne_nil (k : Combiners) {name : Text} (h : name ≠ []) : fragmentCues k name ≠ [] := by
  obtain ⟨f, fs, hparts, hone⟩ := doubledFields_cases name
  unfold fragmentCues
  rw [hparts]
  refine joinCues_ne_nil (List.cons_ne_nil _ _) (List.cons_ne_nil _ _) fun cues hcues => ?_
  obtain ⟨rfl, hfs⟩ := List.cons.inj hcues
  have hf : f ≠ [] := hone (List.map_eq_nil_iff.mp hfs) ▸ h
  refine joinCues_ne_nil (List.cons_ne_nil _ _) (by simp [Text.fields_ne_nil]) fun cues hcues => ?_
  obtain ⟨g, gs, hfields, rfl, hgs⟩ := List.map_eq_cons_iff.mp hcues
  have hjoin := Text.join_fields '_' f
  rw [hfields, List.map_eq_nil_iff.mp hgs] at hjoin
  have hg : g = f := hjoin
  exact Cue.ofText_ne_nil k (hg ▸ hf)

theorem identifierCues_ne_nil (k : Combiners) {name : Text} (h : name ≠ []) :
    identifierCues k name ≠ [] := by
  unfold identifierCues
  split
  · exact List.cons_ne_nil _ _
  · exact fragmentCues_ne_nil k h

end Source

end Dictation
