import Dictation.Pattern.Parse
/-!
# Patterns inside patterns

A text that is a pattern by itself is read in the same way where a closing parenthesis follows it. Nothing that is
read up to the end of a pattern looks for a parenthesis there: what is left open at its end is an error in both
readings. Only a comment in an extended pattern may hide the parenthesis, and then it is missing.
-/
namespace Dictation

/-- What stands behind a pattern that is put into another one to match whole texts. -/
def splicedEnd : Text := ")$"

/-- A reading of which the text goes on with the closing text, or that has come to the end in a comment, which hides
the closing text. -/
inductive Reading.GoesOn : Reading → Reading → Prop
  | behind (r : Reading) : GoesOn r { r with rest := r.rest ++ splicedEnd }
  | hidden {r : Reading} (h : r.rest = []) : GoesOn r r

open Reading (GoesOn)

theorem Reading.GoesOn.rest_ne_nil {r s : Reading} (h : GoesOn r s) (hr : r.rest ≠ []) : s.rest ≠ [] := by
  cases h with
  | behind => exact List.append_ne_nil_of_left_ne_nil hr splicedEnd
  | hidden h => exact absurd h hr

theorem Reading.GoesOn.length_le {r s : Reading} (h : GoesOn r s) : r.rest.length ≤ s.rest.length := by
  cases h with
  | behind => exact List.length_append ▸ Nat.le_add_right _ _
  | hidden => exact Nat.le_refl _

namespace Reader

variable {α β : Type}

/-- Whether what the first reader reads is read by the second one where the text goes on. -/
def Carries (x y : Reader α) : Prop :=
  ∀ (r s : Reading), GoesOn r s → ∀ (a : α) (r' : Reading), x r = some (a, r') → ∃ s', y s = some (a, s') ∧ GoesOn r' s'

theorem carries_pure (a : α) : Carries (pure a) (pure a) := by
  intro r s h b r' hr
  cases hr
  exact ⟨s, rfl, h⟩

theorem carries_fail (y : Reader α) : Carries fail y := by
  intro r s h b r' hr
  cases hr

theorem carries_lift (x : Option α) : Carries (lift x) (lift x) := by
  cases x with
  | none => exact carries_fail _
  | some a => exact carries_pure a

theorem bind_eq_some {x : Reader α} {f : α → Reader β} {r r' : Reading} {b : β} (h : (x >>= f) r = some (b, r')) :
    ∃ a m, x r = some (a, m) ∧ f a m = some (b, r') := by
  obtain ⟨⟨a, m⟩, hx, hf⟩ := Option.bind_eq_some_iff.mp h
  exact ⟨a, m, hx, hf⟩

theorem bind_apply {x : Reader α} {f : α → Reader β} {r m : Reading} {a : α} (h : x r = some (a, m)) :
    (x >>= f) r = f a m := by
  change (x r).bind (fun p => f p.1 p.2) = _
  rw [h, Option.bind_some]

theorem Carries.bind {x y : Reader α} {f g : α → Reader β} (h : Carries x y) (hf : ∀ a, Carries (f a) (g a)) :
    Carries (x >>= f) (y >>= g) := by
  intro r s hrs b r' hr
  obtain ⟨a, m, hx, hfm⟩ := bind_eq_some hr
  obtain ⟨m', hy, hm⟩ := h r s hrs a m hx
  obtain ⟨s', hg, hs'⟩ := hf a m m' hm b r' hfm
  exact ⟨s', (bind_apply hy).trans hg, hs'⟩

theorem Carries.ite {p : Prop} [Decidable p] {x y x' y' : Reader α} (h : Carries x y) (h' : Carries x' y') :
    Carries (if p then x else x') (if p then y else y') := by
  split
  · exact h
  · exact h'

theorem carries_get {f g : Reading → Reader α} (h : ∀ (r s : Reading), GoesOn r s → ∀ (a : α) (r' : Reading),
    f r r = some (a, r') → ∃ s', g s s = some (a, s') ∧ GoesOn r' s') : Carries (get >>= f) (get >>= g) := h

theorem carries_modify {f : Reading → Reading} (h : ∀ {r s : Reading}, GoesOn r s → GoesOn (f r) (f s)) :
    Carries (modify f) (modify f) := by
  intro r s hrs a r' hr
  cases hr
  exact ⟨f s, rfl, h hrs⟩

theorem carries_flags : Carries flags flags := by
  intro r s h f r' hr
  cases hr
  cases h with
  | behind => exact ⟨_, rfl, .behind _⟩
  | hidden h => exact ⟨_, rfl, .hidden h⟩

theorem carries_setFlags (f : Flags) : Carries (setFlags f) (setFlags f) :=
  carries_modify fun {r s} h => by
    cases h with
    | behind => exact .behind { r with flags := f }
    | hidden h => exact .hidden h

theorem peek_of_nil {r : Reading} (h : r.rest = []) : peek r = none := by
  obtain ⟨rest, f, n, names⟩ := r
  cases h
  rfl

theorem peek_cons (c : Char) (rest : Text) (f : Flags) (n : Nat) (names : List (Nat × Text)) :
    peek ⟨c :: rest, f, n, names⟩ = some (c, ⟨c :: rest, f, n, names⟩) := rfl

theorem carries_peek : Carries peek peek := by
  intro r s h c r' hr
  cases h with
  | behind =>
    obtain ⟨rest, f, n, names⟩ := r
    cases rest with
    | nil => cases hr
    | cons d rest =>
      cases hr
      exact ⟨_, rfl, .behind _⟩
  | hidden h =>
    rw [peek_of_nil h] at hr
    cases hr

theorem carries_next : Carries next next := by
  intro r s h c r' hr
  obtain ⟨rest, f, n, names⟩ := r
  cases rest with
  | nil => cases hr
  | cons d rest =>
    cases hr
    cases h with
    | behind => exact ⟨_, rfl, .behind ⟨rest, f, n, names⟩⟩
    | hidden h => cases h

theorem dropPrefix?_closing {l : Text} (hl : ')' ∉ l) (t : Text) :
    Text.dropPrefix? l (t ++ splicedEnd) = (Text.dropPrefix? l t).map (· ++ splicedEnd) := by
  induction l generalizing t with
  | nil => rfl
  | cons c l ih =>
    obtain ⟨hc, hl⟩ := not_or.mp (hl ∘ List.mem_cons.mpr)
    cases t with
    | nil => exact if_neg (Ne.symm hc)
    | cons d t =>
      rw [List.cons_append, Text.dropPrefix?, Text.dropPrefix?]
      split
      · exact ih hl t
      · rfl

theorem carries_skip? {l : Text} (hl : ')' ∉ l) : Carries (skip? l) (skip? l) := by
  intro r s h found r' hr
  cases h with
  | behind =>
    unfold skip? at hr ⊢
    dsimp only at hr ⊢
    rw [dropPrefix?_closing hl]
    cases hrest : Text.dropPrefix? l r.rest with
    | none =>
      rw [hrest] at hr
      cases hr
      exact ⟨_, rfl, .behind r⟩
    | some rest =>
      rw [hrest] at hr
      cases hr
      exact ⟨_, rfl, .behind { r with rest }⟩
  | hidden h =>
    refine ⟨r', hr, .hidden ?_⟩
    unfold skip? at hr
    rw [h] at hr
    cases l <;> cases hr <;> first | rfl | exact h

/-- Space before the closing text is passed as before the end, and a comment hides it. -/
theorem dropSpace_closing (inComment : Bool) (t : Text) :
    dropSpace inComment (t ++ splicedEnd) = dropSpace inComment t ++ splicedEnd ∨
      dropSpace inComment (t ++ splicedEnd) = [] ∧ dropSpace inComment t = [] := by
  induction t generalizing inComment with
  | nil =>
    cases inComment with
    | false => exact .inl (by decide)
    | true => exact .inr (by decide)
  | cons c t ih =>
    rw [List.cons_append, dropSpace, dropSpace]
    split
    · exact ih _
    · split
      · exact ih _
      · split
        · exact ih _
        · exact .inl rfl

/-- What is left of a text behind a character and the space that is passed there. -/
def behindSpace (f : Flags) (rest : Text) : Text := if f.extended then dropSpace false rest else rest

theorem behindSpace_closing (f : Flags) (rest : Text) :
    behindSpace f (rest ++ splicedEnd) = behindSpace f rest ++ splicedEnd ∨
      behindSpace f (rest ++ splicedEnd) = [] ∧ behindSpace f rest = [] := by
  unfold behindSpace
  split
  · exact dropSpace_closing false rest
  · exact .inl rfl

theorem goesOn_behindSpace (rest : Text) (f : Flags) (n : Nat) (names : List (Nat × Text)) :
    GoesOn ⟨behindSpace f rest, f, n, names⟩ ⟨behindSpace f (rest ++ splicedEnd), f, n, names⟩ := by
  rcases behindSpace_closing f rest with hspace | ⟨hspace, hnil⟩
  · rw [hspace]
    exact .behind ⟨behindSpace f rest, f, n, names⟩
  · rw [hspace, hnil]
    exact .hidden rfl

theorem skipSpace_apply (rest : Text) (f : Flags) (n : Nat) (names : List (Nat × Text)) :
    skipSpace ⟨rest, f, n, names⟩ = some ((), ⟨behindSpace f rest, f, n, names⟩) := by
  unfold behindSpace
  by_cases hextended : f.extended = true
  · rw [if_pos hextended]
    exact congrArg (fun r => some ((), r)) (if_pos hextended)
  · rw [if_neg hextended]
    exact congrArg (fun r => some ((), r)) (if_neg hextended)

theorem behindSpace_nil (f : Flags) : behindSpace f [] = [] := ite_self _

theorem carries_skipSpace : Carries skipSpace skipSpace := by
  intro r s h a r' hr
  obtain ⟨rest, f, n, names⟩ := r
  rw [skipSpace_apply] at hr
  cases hr
  cases h with
  | behind => exact ⟨_, skipSpace_apply _ f n names, goesOn_behindSpace rest f n names⟩
  | hidden h =>
    cases h
    exact ⟨_, skipSpace_apply [] f n names, .hidden (behindSpace_nil f)⟩

theorem carries_nextSpaced : Carries nextSpaced nextSpaced :=
  carries_next.bind fun c => carries_skipSpace.bind fun _ => carries_pure c

theorem carries_expect (c : Char) : Carries (expect c) (expect c) :=
  carries_next.bind fun _ => (carries_fail _).ite (carries_pure _)

theorem length_dropSpace (inComment : Bool) (t : Text) : (dropSpace inComment t).length ≤ t.length := by
  induction t generalizing inComment with
  | nil => exact Nat.le_refl _
  | cons c t ih =>
    rw [dropSpace, List.length_cons]
    split
    · exact Nat.le_succ_of_le (ih _)
    · split
      · exact Nat.le_succ_of_le (ih _)
      · split
        · exact Nat.le_succ_of_le (ih _)
        · exact Nat.le_refl _

theorem length_behindSpace (f : Flags) (rest : Text) : (behindSpace f rest).length ≤ rest.length := by
  unfold behindSpace
  split
  · exact length_dropSpace false rest
  · exact Nat.le_refl _

theorem nextSpaced_cons (c : Char) (rest : Text) (f : Flags) (n : Nat) (names : List (Nat × Text)) :
    nextSpaced ⟨c :: rest, f, n, names⟩ = some (c, ⟨behindSpace f rest, f, n, names⟩) := by
  have hnext : next ⟨c :: rest, f, n, names⟩ = some (c, ⟨rest, f, n, names⟩) := rfl
  exact (bind_apply hnext).trans ((bind_apply (skipSpace_apply rest f n names)).trans rfl)

theorem takeSpaced_nil (isKind : Char → Bool) (bound : Nat) {r : Reading} (h : r.rest = []) :
    takeSpaced isKind bound r = some ([], r) := by
  obtain ⟨rest, f, n, names⟩ := r
  cases h
  cases bound <;> rfl

theorem takeSpaced_cons (isKind : Char → Bool) (bound : Nat) (c : Char) (rest : Text) (f : Flags) (n : Nat)
    (names : List (Nat × Text)) : takeSpaced isKind (bound + 1) ⟨c :: rest, f, n, names⟩ =
      if isKind c then
        (takeSpaced isKind bound ⟨behindSpace f rest, f, n, names⟩).map fun found => (c :: found.1, found.2)
      else some ([], ⟨c :: rest, f, n, names⟩) := by
  have hpeek : peek? ⟨c :: rest, f, n, names⟩ = some (some c, ⟨c :: rest, f, n, names⟩) := rfl
  rw [takeSpaced, bind_apply hpeek]
  dsimp only
  split
  · rw [bind_apply (nextSpaced_cons c rest f n names)]
    cases hrest : takeSpaced isKind bound ⟨behindSpace f rest, f, n, names⟩ with
    | none => exact congrArg (Option.bind · _) hrest
    | some found => exact (bind_apply hrest).trans rfl
  · rfl

theorem exists_takeSpaced_nil {isKind : Char → Bool} {bound : Nat} {f : Flags} {n : Nat} {names : List (Nat × Text)}
    {s : Reading} (h : GoesOn ⟨[], f, n, names⟩ s) (hbound : s.rest.length ≤ bound) (hkind : isKind ')' = false) :
    ∃ s', takeSpaced isKind bound s = some ([], s') ∧ GoesOn ⟨[], f, n, names⟩ s' := by
  cases h with
  | hidden => exact ⟨_, takeSpaced_nil isKind bound rfl, .hidden rfl⟩
  | behind =>
    cases bound with
    | zero => cases hbound
    | succ bound =>
      have hstop := takeSpaced_cons isKind bound ')' ['$'] f n names
      rw [hkind, if_neg Bool.false_ne_true] at hstop
      exact ⟨_, hstop, .behind ⟨[], f, n, names⟩⟩

theorem exists_takeSpaced {isKind : Char → Bool} {bound bound' : Nat} {r s : Reading} (h : GoesOn r s)
    (hbound : r.rest.length ≤ bound) (hbound' : s.rest.length ≤ bound') {ds : Text} {r' : Reading}
    (hr : takeSpaced isKind bound r = some (ds, r')) (hstop : isKind ')' = false ∨ r'.rest ≠ []) :
    ∃ s', takeSpaced isKind bound' s = some (ds, s') ∧ GoesOn r' s' := by
  obtain ⟨rest, f, n, names⟩ := r
  induction bound generalizing bound' rest s ds with
  | zero =>
    obtain rfl := List.length_eq_zero_iff.mp (Nat.le_zero.mp hbound)
    rw [takeSpaced_nil isKind 0 rfl] at hr
    cases hr
    exact exists_takeSpaced_nil h hbound' (hstop.resolve_right fun hne => hne rfl)
  | succ bound ih =>
    cases rest with
    | nil =>
      rw [takeSpaced_nil isKind _ rfl] at hr
      cases hr
      exact exists_takeSpaced_nil h hbound' (hstop.resolve_right fun hne => hne rfl)
    | cons c rest =>
      cases h with
      | hidden h => cases h
      | behind =>
        obtain ⟨bound', rfl⟩ : ∃ b, bound' = b + 1 :=
          Nat.exists_eq_succ_of_ne_zero (Nat.ne_of_gt (Nat.lt_of_lt_of_le (Nat.succ_pos _) hbound'))
        have hcons := takeSpaced_cons isKind bound' c (rest ++ splicedEnd) f n names
        rw [takeSpaced_cons] at hr
        by_cases hkind : isKind c = true
        · rw [if_pos hkind] at hr hcons
          obtain ⟨⟨ds, r'⟩, hrest, heq⟩ := Option.map_eq_some_iff.mp hr
          cases heq
          have hlength := Nat.le_trans (length_behindSpace f rest) (Nat.le_of_succ_le_succ hbound)
          have hlength' := Nat.le_trans (length_behindSpace f (rest ++ splicedEnd)) (Nat.le_of_succ_le_succ hbound')
          obtain ⟨s', hs', hgoes⟩ := ih (s := ⟨behindSpace f (rest ++ splicedEnd), f, n, names⟩) hlength' _
            (goesOn_behindSpace rest f n names) hlength hrest
          exact ⟨s', hcons.trans (by rw [hs']; rfl), hgoes⟩
        · rw [if_neg hkind] at hr hcons
          cases hr
          exact ⟨_, hcons, .behind ⟨c :: rest, f, n, names⟩⟩

theorem carries_takeKind {isKind : Char → Bool} (hkind : isKind ')' = false) :
    Carries (takeKind isKind) (takeKind isKind) :=
  carries_get fun _ _ h _ _ hr => exists_takeSpaced h (Nat.le_refl _) (Nat.le_refl _) hr (.inl hkind)

theorem carries_takeKind_bind {isKind : Char → Bool} {f g : Text → Reader α}
    (hend : ∀ ds r, r.rest = [] → f ds r = none) (hf : ∀ ds, Carries (f ds) (g ds)) :
    Carries (takeKind isKind >>= f) (takeKind isKind >>= g) := by
  intro r s h b r' hr
  obtain ⟨ds, m, htake, hfm⟩ := bind_eq_some hr
  have hne : m.rest ≠ [] := by
    intro hnil
    rw [hend ds m hnil] at hfm
    cases hfm
  obtain ⟨m', htake', hm⟩ := exists_takeSpaced h (Nat.le_refl _) (Nat.le_refl s.rest.length) htake (.inr hne)
  obtain ⟨s', hg, hs'⟩ := hf ds m m' hm b r' hfm
  exact ⟨s', (bind_apply htake').trans hg, hs'⟩

/-- A choice by the next character, if there is one, that takes the parenthesis for the end. -/
theorem carries_peek?_bind {f g : Option Char → Reader α} (hend : Carries (f none) (g (some ')')))
    (hnone : Carries (f none) (g none)) (hsome : ∀ c, Carries (f (some c)) (g (some c))) :
    Carries (peek? >>= f) (peek? >>= g) := by
  intro r s h a r' hr
  have hpeek (r : Reading) : peek? r = some (r.rest.head?, r) := rfl
  rw [bind_apply (hpeek r)] at hr
  rw [bind_apply (hpeek s)]
  cases h with
  | hidden hnil =>
    rw [hnil] at hr ⊢
    exact hnone r r (.hidden hnil) a r' hr
  | behind =>
    cases hrest : r.rest with
    | nil =>
      rw [hrest] at hr
      exact hend r _ (hrest ▸ .behind r) a r' hr
    | cons c rest =>
      rw [hrest] at hr
      exact hsome c r _ (hrest ▸ .behind r) a r' hr

theorem carries_set {r s : Reading} (h : GoesOn r s) : Carries (set r) (set s) := by
  intro _ _ _ a r' hr
  cases hr
  exact ⟨s, rfl, h⟩

theorem carries_takeWhile_bind (p : Char → Bool) {f g : Text → Reader α}
    (hend : ∀ t r, r.rest = [] → f t r = none) (hf : ∀ t, Carries (f t) (g t)) :
    Carries
      (get >>= fun r => modify (fun m => { m with rest := m.rest.drop (r.rest.takeWhile p).length }) >>= fun _ =>
        f (r.rest.takeWhile p))
      (get >>= fun s => modify (fun m => { m with rest := m.rest.drop (s.rest.takeWhile p).length }) >>= fun _ =>
        g (s.rest.takeWhile p)) := by
  refine carries_get fun r s h a r' hr => ?_
  have hmodify {x : Text → Reader α} (m : Reading) (t : Text) :
      ((modify fun m => { m with rest := m.rest.drop t.length }) >>= fun _ => x t) m =
        x t { m with rest := m.rest.drop t.length } := rfl
  rw [hmodify] at hr ⊢
  by_cases hall : (r.rest.takeWhile p).length = r.rest.length
  · rw [hend _ _ (List.drop_eq_nil_of_le (Nat.le_of_eq hall.symm))] at hr
    cases hr
  · cases h with
    | hidden h =>
      rw [h] at hall
      exact absurd rfl hall
    | behind =>
      have htake : (r.rest ++ splicedEnd).takeWhile p = r.rest.takeWhile p := by
        rw [List.takeWhile_append, if_neg hall]
      have hle : (r.rest.takeWhile p).length ≤ r.rest.length := (List.takeWhile_sublist p).length_le
      dsimp only
      rw [htake, List.drop_append_of_le_length hle]
      exact hf _ _ _ (.behind { r with rest := r.rest.drop (r.rest.takeWhile p).length }) a r' hr

theorem peek_bind_of_nil {f : Char → Reader α} {r : Reading} (h : r.rest = []) : (peek >>= f) r = none := by
  obtain ⟨rest, flags, n, names⟩ := r
  cases h
  rfl

theorem expect_bind_of_nil (c : Char) {f : Unit → Reader α} {r : Reading} (h : r.rest = []) :
    (expect c >>= f) r = none := by
  obtain ⟨rest, flags, n, names⟩ := r
  cases h
  rfl

end Reader

open Reader

namespace Escape

theorem carries_readBraced : Carries readBraced readBraced := by
  refine carries_nextSpaced.bind fun _ => carries_takeKind_bind (fun _ _ h => peek_bind_of_nil h) fun ds => ?_
  refine carries_peek.bind fun _ => carries_nextSpaced.bind fun _ => ?_
  exact .ite ((carries_fail fail).bind fun _ => carries_lift _) (carries_lift _)

theorem carries_readDigits (n : Nat) : Carries (readDigits n) (readDigits n) := by
  induction n with
  | zero => exact carries_pure _
  | succ n ih => exact carries_nextSpaced.bind fun d => ih.bind fun ds => carries_pure _

theorem carries_readCodePoint (letter : Char) : Carries (readCodePoint letter) (readCodePoint letter) := by
  refine carries_nextSpaced.bind fun _ => carries_peek.bind fun _ => .ite carries_readBraced ?_
  refine (carries_readDigits _).bind fun ds => (carries_lift _).bind fun c => carries_flags.bind fun f => ?_
  exact .ite ((carries_fail fail).bind fun _ => carries_pure c) (carries_pure c)

theorem carries_readProperty : Carries readProperty readProperty := by
  have hend (negated : Prop) [Decidable negated] (found : CharSet × Bool) : Carries
      (do
        let f ← flags
        if !f.unicode then fail
        lift (f.negate? (negated != found.2) (f.fold found.1)))
      (do
        let f ← flags
        if !f.unicode then fail
        lift (f.negate? (negated != found.2) (f.fold found.1))) :=
    carries_flags.bind fun f => .ite ((carries_fail fail).bind fun _ => carries_lift _) (carries_lift _)
  refine carries_nextSpaced.bind fun letter => carries_peek.bind fun _ => .ite ?_ ?_
  · refine carries_nextSpaced.bind fun _ => carries_takeKind_bind (fun _ _ h => expect_bind_of_nil _ h) fun name => ?_
    refine (carries_expect _).bind fun _ => ?_
    split
    split
    · exact (carries_lift _).bind fun _ => (carries_pure _).bind fun _ => hend _ _
    · exact (carries_lift _).bind fun _ => (carries_pure _).bind fun _ => hend _ _
  · refine carries_peek.bind fun c => ?_
    have hrest := carries_nextSpaced.bind fun _ => (carries_lift (propertySet? [c])).bind fun s =>
      (carries_pure (s, false)).bind fun found => hend (letter = 'P') found
    exact .ite ((carries_fail fail).bind fun _ => hrest) hrest

theorem carries_readLetterSet : Carries readLetterSet readLetterSet :=
  carries_next.bind fun _ => carries_flags.bind fun _ => carries_lift _

theorem carries_readBoundary (w : WordRule) : Carries (readBoundary w) (readBoundary w) := by
  have hplain : Carries (pure (.boundary w) : Reader Assertion) (pure (.boundary w)) := carries_pure _
  refine carries_peek?_bind hplain hplain fun c => .ite hplain ?_
  refine carries_get fun r s h => ?_
  refine (carries_nextSpaced.bind fun _ => carries_peek.bind fun _ => Carries.ite ?_ ?_) r s h
  · exact (carries_set h).bind fun _ => hplain
  · refine carries_takeKind_bind (fun _ _ h => expect_bind_of_nil _ h) fun name => (carries_expect _).bind fun _ => ?_
    exact .ite (carries_pure _) (.ite (carries_pure _) (.ite (carries_pure _) (.ite (carries_pure _) (carries_fail _))))

theorem carries_read : Carries read read := by
  refine carries_peek.bind fun c => .ite ((carries_readCodePoint c).bind fun _ => carries_pure _) ?_
  refine .ite (carries_readProperty.bind fun _ => carries_pure _) ?_
  refine .ite (carries_readLetterSet.bind fun _ => carries_pure _) ?_
  refine carries_next.bind fun _ => carries_flags.bind fun f => ?_
  split
  case h_9 => exact (carries_readBoundary _).bind fun _ => carries_pure _
  case h_13 => exact .ite (carries_pure _) (carries_fail _)
  all_goals exact carries_pure _

end Escape

namespace Class

/-- A named class behind its bracket and colon and what negates it. -/
def namedBehind? (negated : Bool) (t : Text) : Option (Bool × CharSet × Text) :=
  (Text.dropPrefix? [':', ']'] (t.drop (t.takeWhile (· ≠ ':')).length)).bind fun rest =>
    (asciiClasses.lookup (String.ofList (t.takeWhile (· ≠ ':')))).map fun s => (negated, s, rest)

theorem named?_eq (t : Text) : named? t = (Text.dropPrefix? ['[', ':'] t).bind fun t =>
    if t.head? = some '^' then namedBehind? true (t.drop 1) else namedBehind? false t := by
  have hlookup (negated : Bool) (x : Option CharSet) (rest : Text) :
      (x.bind fun s => pure (negated, s, rest)) = x.map fun s => (negated, s, rest) := by cases x <;> rfl
  unfold named?
  cases Text.dropPrefix? ['[', ':'] t with
  | none => rfl
  | some t =>
    dsimp only [Option.bind_eq_bind, Option.bind_some]
    by_cases hhead : t.head? = some '^'
    · simp only [hhead, decide_true, if_true, namedBehind?, hlookup]
    · simp only [hhead, decide_false, if_false, namedBehind?, hlookup]

theorem namedBehind?_closing (negated : Bool) (t : Text) : namedBehind? negated (t ++ splicedEnd) =
    (namedBehind? negated t).map fun found => (found.1, found.2.1, found.2.2 ++ splicedEnd) := by
  unfold namedBehind?
  rw [List.takeWhile_append]
  by_cases hall : (t.takeWhile (· ≠ ':')).length = t.length
  · have hclosing : splicedEnd.takeWhile (· ≠ ':') = splicedEnd := by decide
    rw [if_pos hall, hall, hclosing, List.drop_length, List.drop_length]
    rfl
  · rw [if_neg hall, List.drop_append_of_le_length (List.takeWhile_sublist _).length_le,
      dropPrefix?_closing (by decide)]
    cases Text.dropPrefix? [':', ']'] (t.drop (t.takeWhile (· ≠ ':')).length) with
    | none => rfl
    | some rest => cases asciiClasses.lookup (String.ofList (t.takeWhile (· ≠ ':'))) <;> rfl

/-- Whether a named class comes next is not decided behind the end. -/
theorem named?_closing (t : Text) :
    named? (t ++ splicedEnd) = (named? t).map fun found => (found.1, found.2.1, found.2.2 ++ splicedEnd) := by
  rw [named?_eq, named?_eq, dropPrefix?_closing (by decide)]
  cases Text.dropPrefix? ['[', ':'] t with
  | none => rfl
  | some t =>
    cases t with
    | nil => rfl
    | cons c t =>
      change (if some c = some '^' then namedBehind? true (t ++ splicedEnd) else
        namedBehind? false (c :: t ++ splicedEnd)) = Option.map _ (if some c = some '^' then namedBehind? true t else
        namedBehind? false (c :: t))
      split <;> exact namedBehind?_closing _ _

theorem carries_readNamed? : Carries readNamed? readNamed? := by
  refine carries_get fun r s h => ?_
  cases h with
  | hidden h =>
    rw [h]
    exact carries_pure none r r (.hidden h)
  | behind =>
    dsimp only
    rw [named?_closing]
    cases named? r.rest with
    | none => exact carries_pure none r _ (.behind r)
    | some found =>
      obtain ⟨negated, set, rest⟩ := found
      have hrest := carries_flags.bind fun f => (carries_lift (f.negate? negated (f.fold set))).bind fun found =>
        carries_pure (some found)
      exact hrest { r with rest } _ (.behind { r with rest })

theorem carries_readItem : Carries readItem readItem :=
  carries_next.bind fun _ => .ite Escape.carries_read (carries_pure _)

/-- Whether a hyphen that makes a range comes next in a reading. -/
def isRange (r : Reading) : Bool := r.rest.head? = some '-' && (afterNext r).head? ∉ [some ']', some '-']

theorem isRange_of_goesOn {r s : Reading} (h : GoesOn r s) : isRange s = isRange r := by
  cases h with
  | hidden => rfl
  | behind =>
    obtain ⟨rest, f, n, names⟩ := r
    cases rest with
    | nil => rfl
    | cons c rest =>
      have hafter : (behindSpace f (rest ++ splicedEnd)).head? ∈ [some ']', some '-'] ↔
          (behindSpace f rest).head? ∈ [some ']', some '-'] := by
        rcases behindSpace_closing f rest with hspace | ⟨hspace, hnil⟩
        · rw [hspace]
          cases behindSpace f rest with
          | nil => exact iff_of_false (by decide) (by decide)
          | cons d rest => rfl
        · rw [hspace, hnil]
      exact congrArg (decide (some c = some '-') && ·) (decide_eq_decide.mpr (not_congr hafter))

theorem carries_rangeFollows : Carries rangeFollows rangeFollows := by
  intro r s h a r' hr
  replace hr : some (isRange r, r) = some (a, r') := hr
  cases hr
  exact ⟨s, congrArg (fun follows => some (follows, s)) (isRange_of_goesOn h), h⟩

theorem carries_readRange : Carries readRange readRange := by
  refine carries_flags.bind fun f => carries_readItem.bind fun first => carries_skipSpace.bind fun _ => ?_
  refine carries_peek.bind fun _ => carries_rangeFollows.bind fun _ => .ite (carries_lift _) ?_
  refine carries_nextSpaced.bind fun _ => carries_readItem.bind fun last => (carries_lift _).bind fun a => ?_
  refine (carries_lift _).bind fun b => .ite ((carries_fail fail).bind fun _ => carries_pure _) (carries_pure _)

theorem readHyphens_cons (bound : Nat) (c : Char) (rest : Text) (f : Flags) (n : Nat) (names : List (Nat × Text)) :
    readHyphens (bound + 1) ⟨c :: rest, f, n, names⟩ =
      if c = '-' then
        (readHyphens bound ⟨behindSpace f rest, f, n, names⟩).map fun found => (.one '-' :: found.1, found.2)
      else some ([], ⟨c :: rest, f, n, names⟩) := by
  rw [readHyphens, bind_apply (peek_cons c rest f n names)]
  split
  · rw [bind_apply (nextSpaced_cons c rest f n names)]
    cases hrest : readHyphens bound ⟨behindSpace f rest, f, n, names⟩ with
    | none => exact congrArg (Option.bind · _) hrest
    | some found => exact (bind_apply hrest).trans rfl
  · rfl

theorem readHyphens_iff {bound : Nat} {r r' : Reading} (hne : r'.rest ≠ []) {found : List CharSet} :
    readHyphens bound r = some (found, r') ↔
      ∃ ds, takeSpaced (· = '-') bound r = some (ds, r') ∧ found = ds.map CharSet.one := by
  induction bound generalizing r found with
  | zero =>
    constructor
    · intro hr
      cases hr
      exact ⟨[], rfl, rfl⟩
    · rintro ⟨ds, hr, rfl⟩
      cases hr
      rfl
  | succ bound ih =>
    obtain ⟨rest, f, n, names⟩ := r
    cases rest with
    | nil =>
      refine iff_of_false (fun h => Option.some_ne_none _ h.symm) ?_
      rintro ⟨ds, hr, _⟩
      rw [takeSpaced_nil _ _ rfl] at hr
      cases hr
      exact hne rfl
    | cons c rest =>
      rw [readHyphens_cons, takeSpaced_cons]
      by_cases hc : c = '-'
      · subst hc
        rw [if_pos rfl, if_pos (by decide)]
        simp only [Option.map_eq_some_iff, Prod.exists, Prod.mk.injEq]
        constructor
        · rintro ⟨found, _, hr, rfl, rfl⟩
          obtain ⟨ds, htake, rfl⟩ := ih.mp hr
          exact ⟨'-' :: ds, ⟨ds, _, htake, rfl, rfl⟩, rfl⟩
        · rintro ⟨_, ⟨ds, _, htake, rfl, rfl⟩, rfl⟩
          exact ⟨_, _, ih.mpr ⟨ds, htake, rfl⟩, rfl, rfl⟩
      · rw [if_neg hc, if_neg (by simpa using hc)]
        constructor
        · intro hr
          cases hr
          exact ⟨[], rfl, rfl⟩
        · rintro ⟨ds, hr, rfl⟩
          cases hr
          rfl

theorem carries_readHyphens_bind {f g : List CharSet → Reader α} (hend : ∀ found r, r.rest = [] → f found r = none)
    (hf : ∀ found, Carries (f found) (g found)) :
    Carries (get >>= fun r => readHyphens r.rest.length >>= f) (get >>= fun s => readHyphens s.rest.length >>= g) := by
  refine carries_get fun r s h a r' hr => ?_
  obtain ⟨found, m, hread, hfm⟩ := bind_eq_some hr
  have hne : m.rest ≠ [] := by
    intro hnil
    rw [hend found m hnil] at hfm
    cases hfm
  obtain ⟨ds, htake, rfl⟩ := (readHyphens_iff hne).mp hread
  obtain ⟨m', htake', hm⟩ := exists_takeSpaced h (Nat.le_refl _) (Nat.le_refl s.rest.length) htake (.inr hne)
  have hread' := (readHyphens_iff (hm.rest_ne_nil hne)).mpr ⟨ds, htake', rfl⟩
  obtain ⟨s', hg, hs'⟩ := hf _ m m' hm a r' hfm
  exact ⟨s', (bind_apply hread').trans hg, hs'⟩

theorem carries_readOpening : Carries readOpening readOpening := by
  refine carries_nextSpaced.bind fun _ => carries_peek.bind fun c => ?_
  have hrest (negated : Bool) : Carries
      (do
        let hyphens ← readHyphens (← get).rest.length
        if hyphens.isEmpty && (← peek) = ']' then
          let _ ← nextSpaced
          return (negated, [CharSet.one ']'])
        return (negated, hyphens))
      (do
        let hyphens ← readHyphens (← get).rest.length
        if hyphens.isEmpty && (← peek) = ']' then
          let _ ← nextSpaced
          return (negated, [CharSet.one ']'])
        return (negated, hyphens)) := by
    refine carries_readHyphens_bind (fun _ _ h => peek_bind_of_nil h) fun hyphens => carries_peek.bind fun _ => ?_
    exact .ite (carries_nextSpaced.bind fun _ => carries_pure _) (carries_pure _)
  exact .ite (carries_nextSpaced.bind fun _ => hrest _) (hrest _)

theorem carries_readOperator? : Carries readOperator? readOperator? := by
  refine (carries_skip? (by decide)).bind fun _ => .ite (carries_pure _) ?_
  refine (carries_skip? (by decide)).bind fun _ => .ite (carries_pure _) ?_
  exact (carries_skip? (by decide)).bind fun _ => .ite (carries_pure _) (carries_pure _)

theorem carries_readBody {bound bound' : Nat} (hbound : bound ≤ bound') (p : Pending) :
    Carries (readBody bound p) (readBody bound' p) := by
  induction bound generalizing bound' p with
  | zero => exact carries_fail _
  | succ bound ih =>
    obtain ⟨bound', rfl⟩ : ∃ b, bound' = b + 1 := Nat.exists_eq_succ_of_ne_zero (by omega)
    have hinner (p : Pending) := ih (Nat.le_of_succ_le_succ hbound) p
    rw [readBody, readBody]
    refine carries_skipSpace.bind fun _ => carries_flags.bind fun f => carries_peek.bind fun c => ?_
    split
    · exact carries_next.bind fun _ => carries_pure _
    · refine carries_readNamed?.bind fun named => ?_
      cases named with
      | some s => exact hinner _
      | none =>
        refine carries_readOpening.bind fun opening => (hinner _).bind fun inner => ?_
        exact (carries_lift _).bind fun s => hinner _
    · refine carries_readOperator?.bind fun op => ?_
      cases op with
      | some op => exact hinner _
      | none => exact carries_readRange.bind fun s => hinner _

theorem carries_read : Carries read read := by
  refine carries_readOpening.bind fun opening => ?_
  refine carries_get fun r s h => (carries_readBody h.length_le _).bind (fun inner => ?_) r s h
  exact carries_flags.bind fun f => carries_lift _

end Class

namespace Pattern

theorem carries_newGroup : Carries newGroup newGroup := by
  refine .bind (carries_modify fun {r s} h => ?_) fun _ => carries_get fun r s h => ?_
  · cases h with
    | behind => exact .behind { r with groupCount := r.groupCount + 1 }
    | hidden h => exact .hidden h
  · cases h with
    | behind => exact carries_pure _ r _ (.behind r)
    | hidden h => exact carries_pure _ r _ (.hidden h)

theorem carries_addName (index : Nat) (name : Text) : Carries
    (modify fun r => { r with names := (index, name) :: r.names })
    (modify fun r => { r with names := (index, name) :: r.names }) :=
  carries_modify fun {r s} h => by
    cases h with
    | behind => exact .behind { r with names := (index, name) :: r.names }
    | hidden h => exact .hidden h

/-- What is read of the name of a group when its characters are passed. -/
def giveName (index : Nat) (name : Text) : Reader Unit := do
  if (← get).names.any (·.2 = name) then fail
  modify fun r => { r with names := (index, name) :: r.names }

theorem carries_giveName (index : Nat) (name : Text) : Carries (giveName index name) (giveName index name) := by
  refine carries_get fun r s h => ?_
  have hnames : s.names = r.names := by cases h <;> rfl
  have hadd := carries_addName index name
  rw [hnames]
  exact Carries.ite ((carries_fail fail).bind fun _ => hadd) hadd r s h

/-- What is read behind the characters of a name. -/
def endName (index : Nat) (name : Text) : Reader Unit := do
  expect '>'
  match name with
  | [] => fail
  | c :: rest =>
    if !isNameStart c || !rest.all isNameChar then fail
    giveName index name

theorem carries_endName (index : Nat) (name : Text) : Carries (endName index name) (endName index name) := by
  refine (carries_expect _).bind fun _ => ?_
  cases name with
  | nil => exact carries_fail _
  | cons c rest =>
    have hgive := carries_giveName index (c :: rest)
    exact .ite ((carries_fail fail).bind fun _ => hgive) hgive

theorem carries_readName (index : Nat) : Carries (readName index) (readName index) :=
  carries_takeWhile_bind (· ≠ '>') (fun _ _ h => expect_bind_of_nil _ h) (carries_endName index)

theorem isPrefixOf_closing {l : Text} (hl : ')' ∉ l) (t : Text) : l.isPrefixOf (t ++ splicedEnd) = l.isPrefixOf t := by
  induction l generalizing t with
  | nil => rfl
  | cons c l ih =>
    obtain ⟨hc, hl⟩ := not_or.mp (hl ∘ List.mem_cons.mpr)
    cases t with
    | nil => exact Bool.and_eq_false_iff.mpr (.inl (beq_eq_false_iff_ne.mpr (Ne.symm hc)))
    | cons d t => exact congrArg ((c == d) && ·) (ih hl t)

def endFlags (f : Flags) (letters : Text) : Reader Opening := do
  let new ← lift (applyFlags? f true [] letters)
  if (← next) = ')' then
    if letters.isEmpty then fail
    return .flags new
  return .group none new

theorem carries_endFlags (f : Flags) (letters : Text) : Carries (endFlags f letters) (endFlags f letters) := by
  refine (carries_lift _).bind fun new => carries_next.bind fun _ => .ite ?_ (carries_pure _)
  exact .ite ((carries_fail fail).bind fun _ => carries_pure _) (carries_pure _)

theorem endFlags_of_nil (f : Flags) (letters : Text) {r : Reading} (h : r.rest = []) : endFlags f letters r = none := by
  obtain ⟨rest, flags, n, names⟩ := r
  cases h
  unfold endFlags
  cases applyFlags? f true [] letters <;> rfl

theorem carries_readOpening : Carries readOpening readOpening := by
  have hplain (f : Flags) : Carries (do return Opening.group (some (← newGroup)) f)
      (do return Opening.group (some (← newGroup)) f) :=
    carries_newGroup.bind fun _ => carries_pure _
  have hletters (f : Flags) := carries_takeWhile_bind (fun c => c ≠ ':' && c ≠ ')') (fun t r h => endFlags_of_nil f t h)
    (carries_endFlags f)
  have hnamed (f : Flags) (named : Bool) : Carries
      (do
        if named then
          let index ← newGroup
          readName index
          return .group (some index) f
        if ← skip? "?" then
          let letters := (← get).rest.takeWhile fun c => c ≠ ':' && c ≠ ')'
          modify fun r => { r with rest := r.rest.drop letters.length }
          endFlags f letters
        else return .group (some (← newGroup)) f)
      (do
        if named then
          let index ← newGroup
          readName index
          return .group (some index) f
        if ← skip? "?" then
          let letters := (← get).rest.takeWhile fun c => c ≠ ':' && c ≠ ')'
          modify fun r => { r with rest := r.rest.drop letters.length }
          endFlags f letters
        else return .group (some (← newGroup)) f) := by
    refine .ite (carries_newGroup.bind fun index => (carries_readName index).bind fun _ => carries_pure _) ?_
    exact (carries_skip? (by decide)).bind fun _ => .ite (hletters f) (hplain f)
  refine carries_next.bind fun _ => carries_skipSpace.bind fun _ => carries_flags.bind fun f => ?_
  refine carries_get fun r s h => ?_
  have hlook : (["?=".toList, "?!".toList, "?<=".toList, "?<!".toList].any (·.isPrefixOf s.rest)) =
      ["?=".toList, "?!".toList, "?<=".toList, "?<!".toList].any (·.isPrefixOf r.rest) := by
    cases h with
    | hidden => rfl
    | behind =>
      simp only [List.any_cons, List.any_nil]
      rw [isPrefixOf_closing (by decide), isPrefixOf_closing (by decide), isPrefixOf_closing (by decide),
        isPrefixOf_closing (by decide)]
  dsimp only
  rw [hlook]
  have hgroup := (carries_skip? (l := "?P<") (by decide)).bind fun named =>
    Carries.ite (p := named = true) ((carries_pure true).bind (hnamed f))
      ((carries_skip? (l := "?<") (by decide)).bind (hnamed f))
  exact Carries.ite ((carries_fail fail).bind fun _ => hgroup) hgroup r s h

theorem carries_skipBlanks : Carries skipBlanks skipBlanks :=
  carries_modify fun {r s} h => by
    cases h with
    | behind =>
      have htrim : Text.trimStart (r.rest ++ splicedEnd) = r.rest.trimStart ++ splicedEnd := by
        have hclosing : splicedEnd.dropWhile Unicode.isBlank = splicedEnd := by decide
        rw [Text.trimStart, List.dropWhile_append, hclosing]
        split
        case isTrue hnil => rw [Text.trimStart, List.isEmpty_iff.mp hnil, List.nil_append]
        case isFalse => rfl
      dsimp only
      rw [htrim]
      exact .behind { r with rest := r.rest.trimStart }
    | hidden h =>
      refine .hidden ?_
      rw [h]
      rfl

theorem carries_readNumber? : Carries readNumber? readNumber? := by
  refine carries_skipBlanks.bind fun _ => (carries_takeKind (by decide)).bind fun ds => ?_
  refine carries_skipBlanks.bind fun _ => carries_skipSpace.bind fun _ => .ite (carries_pure _) ?_
  exact .ite ((carries_fail fail).bind fun _ => carries_pure _) (carries_pure _)

theorem carries_readBounds : Carries readBounds readBounds := by
  have hend (bounds : Nat × Option Nat) : Carries
      (do
        if (← peek) ≠ '\x7d' then fail
        return bounds)
      (do
        if (← peek) ≠ '\x7d' then fail
        return bounds) :=
    carries_peek.bind fun _ => .ite ((carries_fail fail).bind fun _ => carries_pure _) (carries_pure _)
  refine carries_nextSpaced.bind fun _ => carries_peek.bind fun _ => carries_readNumber?.bind fun least => ?_
  refine carries_peek.bind fun _ => .ite ?_ ?_
  · refine carries_nextSpaced.bind fun _ => carries_peek.bind fun _ => .ite ?_ ?_
    · exact (carries_lift _).bind fun _ => (carries_pure _).bind fun _ => hend _
    · refine (carries_lift _).bind fun _ => carries_readNumber?.bind fun _ => (carries_lift _).bind fun _ => ?_
      exact .ite ((carries_fail fail).bind fun _ => (carries_pure _).bind fun _ => hend _)
        ((carries_pure _).bind fun _ => hend _)
  · exact (carries_lift _).bind fun _ => (carries_pure _).bind fun _ => hend _

theorem carries_readGreed : Carries readGreed readGreed :=
  (carries_skip? (by decide)).bind fun _ => carries_flags.bind fun _ => carries_pure _

theorem carries_readRepetition (n : Node) : Carries (readRepetition n) (readRepetition n) := by
  refine carries_peek.bind fun c => ?_
  split
  case h_4 =>
    exact carries_readBounds.bind fun _ => carries_nextSpaced.bind fun _ =>
      carries_readGreed.bind fun _ => carries_pure _
  all_goals exact carries_next.bind fun _ => carries_readGreed.bind fun _ => carries_pure _

theorem carries_readPrimitive : Carries readPrimitive readPrimitive := by
  refine carries_next.bind fun c => carries_flags.bind fun f => ?_
  split
  · refine Escape.carries_read.bind fun p => ?_
    cases p <;> exact carries_pure _
  · exact (carries_lift _).bind fun _ => carries_pure _
  all_goals exact carries_pure _

theorem carries_readBranches {bound bound' : Nat} (hbound : bound ≤ bound') (b : Branches) :
    Carries (readBranches bound b) (readBranches bound' b) := by
  induction bound generalizing bound' b with
  | zero => exact carries_fail _
  | succ bound ih =>
    obtain ⟨bound', rfl⟩ : ∃ k, bound' = k + 1 := Nat.exists_eq_succ_of_ne_zero (by omega)
    have hinner (b : Branches) := ih (Nat.le_of_succ_le_succ hbound) b
    rw [readBranches, readBranches]
    refine carries_skipSpace.bind fun _ => carries_peek?_bind (carries_pure _) (carries_pure _) fun c => ?_
    split
    · exact carries_pure _
    · exact carries_pure _
    · exact carries_next.bind fun _ => hinner _
    · refine carries_flags.bind fun outer => carries_readOpening.bind fun opening => ?_
      cases opening with
      | flags f => exact (carries_setFlags f).bind fun _ => hinner _
      | group index f =>
        refine (carries_setFlags f).bind fun _ => (hinner _).bind fun body => (carries_expect _).bind fun _ => ?_
        exact (carries_setFlags outer).bind fun _ => hinner _
    · exact Class.carries_read.bind fun s => hinner _
    · refine .ite ?_ (carries_readPrimitive.bind fun _ => hinner _)
      split
      · exact (carries_readRepetition _).bind fun _ => hinner _
      · exact carries_fail _

theorem exists_of_compile? {f : Flags} {t : Text} {p : Pattern} (h : compile? f t = some p) : ∃ n r,
    readBranches (t.length + 1) .empty ⟨t, f, 0, []⟩ = some (n, r) ∧ r.rest = [] ∧
      p.node = (n.withMarks false 0).1 := by
  obtain ⟨⟨n, r⟩, hread, hend⟩ := Option.bind_eq_some_iff.mp h
  refine ⟨n, r, hread, ?_⟩
  cases hrest : r.rest with
  | nil =>
    simp only [hrest] at hend
    cases hend
    exact ⟨rfl, rfl⟩
  | cons c rest =>
    simp only [hrest] at hend
    cases hend

/-- A pattern between the assertions of both ends of the text. -/
def anchored (n : Node) : Node := .seq (.assertion .textStart) (.seq n (.assertion .textEnd))

theorem readBranches_start (bound : Nat) (t : Text) :
    readBranches (bound + 2) .empty ⟨"^(?:".toList ++ t, {}, 0, []⟩ =
      (do
        let body ← readBranches bound .empty
        expect ')'
        setFlags {}
        readBranches bound ⟨[], [.node body, .node (.assertion .textStart)]⟩ : Reader Node) ⟨t, {}, 0, []⟩ := rfl

theorem readBranches_end (bound : Nat) (body : Node) (n : Nat) (names : List (Nat × Text)) :
    readBranches (bound + 2) ⟨[], [.node body, .node (.assertion .textStart)]⟩ ⟨['$'], {}, n, names⟩ =
      some (anchored body, ⟨[], {}, n, names⟩) := rfl

/-- If a pattern is compiled inside another one that is to match whole texts, then as it is compiled by itself. -/
theorem node_of_compile?_anchored {t : Text} {q p : Pattern} (hq : compile? {} t = some q)
    (hp : compile? {} ("^(?:".toList ++ t ++ splicedEnd) = some p) : p.node = anchored q.node := by
  obtain ⟨n, r, hread, hrest, hnode⟩ := exists_of_compile? hq
  obtain ⟨m, s, hread', _, hnode'⟩ := exists_of_compile? hp
  have hbound : ("^(?:".toList ++ t ++ splicedEnd).length + 1 = t.length + 5 + 2 := by
    have hstart : "^(?:".toList.length = 4 := rfl
    have hclosing : splicedEnd.length = 2 := rfl
    simp only [List.length_append]
    omega
  rw [hbound, List.append_assoc, readBranches_start] at hread'
  obtain ⟨body, behind, hbody, hend⟩ := bind_eq_some hread'
  have hfuel : t.length + 1 ≤ t.length + 5 := by omega
  obtain ⟨behind', hbody', hgoes⟩ := carries_readBranches hfuel .empty _ _ (.behind ⟨t, {}, 0, []⟩) n r hread
  obtain ⟨rfl, rfl⟩ : body = n ∧ behind = behind' := by
    rw [hbody] at hbody'
    cases hbody'
    exact ⟨rfl, rfl⟩
  cases hgoes with
  | hidden =>
    rw [expect_bind_of_nil _ hrest] at hend
    cases hend
  | behind =>
    obtain ⟨rest, f, n, names⟩ := r
    cases hrest
    have hclosed := readBranches_end (t.length + 3) body n names
    replace hend : readBranches (t.length + 5) ⟨[], [.node body, .node (.assertion .textStart)]⟩ ⟨['$'], {}, n, names⟩ =
      some (m, s) := hend
    rw [hclosed] at hend
    cases hend
    rw [hnode', hnode]
    rfl

end Pattern

end Dictation
