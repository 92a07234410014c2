import Dictation.Proofs.Rewrite.Signs
/-!
# One rule after the other

Between the rules, a text of spoken operators is a row of names and operators with gaps. The rule of a
place turns the names of that place into operators, and changes nothing but gaps besides. Two names
never touch, so that the end of a name is always seen, with one exception: the rule for the low line
takes the gap behind a name whose own rule comes later, and that name stays.
-/
namespace Dictation.Sign

open Node Text

/-- Whether a name can no longer be recognised once the low line behind it was written. -/
def isStuck (s : Sign) (ss : List Sign) : Bool :=
  decide (low < s.rank) && ss.head?.any (fun s' => decide (s'.rank = low))

/-- Whether a name was turned into its operator before the rules of a place; `ss` follow. -/
def isDone (rank : Nat) (s : Sign) (ss : List Sign) : Bool :=
  decide (s.rank < rank) && !s.isStuck ss

def form (rank : Nat) (s : Sign) (ss : List Sign) : Text :=
  if s.isDone rank ss then s.written else s.spoken

/-- A gap and the signs behind it, each with the gap that follows it. -/
def render (rank : Nat) (g : Text) : List (Sign × Text) → Text
  | [] => g
  | (s, h) :: ts => g ++ (s.form rank (ts.map Prod.fst) ++ render rank h ts)

/-- What is known of the gap between a sign and those that follow. -/
def Tight (rank : Nat) (s : Sign) (h : Text) : List Sign → Prop
  | [] => True
  | s' :: ss =>
    (rank ≤ firstTaking → h ≠ []) ∧
      (s.isDone rank (s' :: ss) = false → s'.isDone rank ss = false → h ≠ []) ∧
      (low < rank → s'.rank = low → h = [])

/-- The layout of a text before the rules of a place. -/
def Placed (rank : Nat) (g : Text) : List (Sign × Text) → Prop
  | [] => IsGap g
  | (s, h) :: ts =>
    IsGap g ∧ s ∈ spelled.1 ∧ Tight rank s h (ts.map Prod.fst) ∧ Placed rank h ts

variable {rank : Nat} {s : Sign} {g h : Text} {ts : List (Sign × Text)}

theorem Placed.isGap (hts : Placed rank g ts) : IsGap g := by
  cases ts with
  | nil => exact hts
  | cons t ts => exact hts.1

theorem Placed.of_gap (hts : Placed rank g ts) (hh : IsGap h) : Placed rank h ts := by
  cases ts with
  | nil => exact hh
  | cons t ts => exact ⟨hh, hts.2⟩

theorem render_eq_append (rank : Nat) (g : Text) (ts : List (Sign × Text)) :
    render rank g ts = g ++ render rank [] ts := by
  cases ts with
  | nil => exact (List.append_nil g).symm
  | cons t ts => rfl

section
variable (hs : s ∈ spelled.1)
include hs

theorem sound_parts :
    isSolid s.written = true ∧ isSolid s.spoken = true ∧
      (∀ a ∈ s.spoken.getLast?, isWordChar a = true) ∧
      (∀ a ∈ s.written.head?, a ∈ firstChars ∧ (isWordChar a = false ∨ s.rank = low)) ∧
      (∀ a ∈ s.spoken.head?, a ∈ firstChars ∧ (isWordChar a = false ∨ s.rank = low)) ∧
      (s.rank = low → s.written = ['_'] ∧ s.spoken = "_under-score".toList) := by
  have h := sound s hs
  unfold isSound at h
  simp only [Bool.and_eq_true, Option.all_eq_true, decide_eq_true_eq, Bool.or_eq_true,
    Bool.not_eq_true', beq_iff_eq, bne_iff_ne] at h
  obtain ⟨⟨⟨⟨⟨hwritten, hspoken⟩, hlast⟩, hfirst⟩, hfirst'⟩, hlow⟩ := h
  exact ⟨hwritten, hspoken, hlast, hfirst, hfirst', fun hrank => hlow.resolve_left (· hrank)⟩

theorem isSolid_form (ss : List Sign) : isSolid (s.form rank ss) = true := by
  obtain ⟨hwritten, hspoken, _⟩ := sound_parts hs
  unfold form
  split
  · exact hwritten
  · exact hspoken

theorem head_form (ss : List Sign) : ∀ a ∈ (s.form rank ss).head?,
    a ∈ firstChars ∧ (isWordChar a = false ∨ s.rank = low) := by
  obtain ⟨_, _, _, hwritten, hspoken, _⟩ := sound_parts hs
  unfold form
  split
  · exact hwritten
  · exact hspoken

end

theorem head_append_form (hs : s ∈ spelled.1) (ss : List Sign) (t : Text) :
    (s.form rank ss ++ t).head? = (s.form rank ss).head? := by
  obtain ⟨a, x, hx⟩ := List.exists_cons_of_ne_nil (ne_nil_of_isSolid (isSolid_form hs ss))
  rw [hx]
  rfl

theorem deadIn_form {n : Node} {rank : Nat} {s : Sign} (hrank : s.rank ≠ rank)
    (h : isSkipped n rank s = true) (ss : List Sign) {t : Text}
    (ht : ∀ a ∈ t.head?, a ∈ followers rank) : n.DeadIn (s.form rank ss) t := by
  unfold isSkipped at h
  unfold form
  by_cases hlt : rank < s.rank
  · have hnot : s.isDone rank ss = false := by
      unfold isDone
      rw [decide_eq_false (Nat.lt_asymm hlt), Bool.false_and]
    rw [if_pos hlt] at h
    rw [hnot, if_neg Bool.false_ne_true]
    exact deadIn_of_stopsIn h ht
  · rw [if_neg hlt] at h
    obtain ⟨hwritten, hspoken⟩ := Bool.and_eq_true _ _ |>.mp h
    cases hdone : s.isDone rank ss with
    | true =>
      rw [if_pos rfl]
      exact deadIn_of_stopsIn hwritten ht
    | false =>
      -- Its rule is over, so the name is stuck.
      have hstuck : s.isStuck ss = true := by
        have hlt : s.rank < rank := by omega
        simpa [isDone, hlt] using hdone
      have hlow : ¬ s.rank ≤ low :=
        Nat.not_le.mpr (of_decide_eq_true (Bool.and_eq_true _ _ |>.mp hstuck).1)
      rw [decide_eq_false hlow, Bool.false_or] at hspoken
      rw [if_neg Bool.false_ne_true]
      exact deadIn_of_stopsIn hspoken ht

theorem head_render_nil (hts : Placed rank g ts) :
    ∀ a ∈ (render rank [] ts).head?, Unicode.isBlank a = false := by
  cases ts with
  | nil => exact fun a ha => by cases ha
  | cons t ts =>
    obtain ⟨s, h⟩ := t
    obtain ⟨_, hs, _⟩ := hts
    intro a ha
    change a ∈ (s.form rank _ ++ _).head? at ha
    rw [head_append_form hs] at ha
    exact isBlank_of_isSolid (isSolid_form hs _) (List.mem_of_head? ha)

private theorem head_gap {t : Text} (hg : IsGap g) (hne : g ≠ []) :
    ∀ a ∈ (g ++ t).head?, a ∈ gapChars := by
  obtain ⟨b, g', rfl⟩ := List.exists_cons_of_ne_nil hne
  intro a ha
  cases ha
  exact hg b List.mem_cons_self

theorem head_render (hts : Placed rank h ts) (htight : Tight rank s h (ts.map Prod.fst)) :
    ∀ a ∈ (render rank h ts).head?, a ∈ followers rank := by
  have hgap : ∀ {a : Char}, a ∈ gapChars → a ∈ followers rank := by
    intro a ha
    unfold followers
    split
    · exact ha
    · exact List.mem_append_left _ ha
  rw [render_eq_append]
  intro a ha
  by_cases hne : h = []
  · subst hne
    cases ts with
    | nil => cases ha
    | cons t ts =>
      obtain ⟨s', h'⟩ := t
      obtain ⟨_, hs', _⟩ := hts
      have hrank : ¬ rank < firstTaking := fun hlt => htight.1 (Nat.le_of_lt hlt) rfl
      change a ∈ (s'.form rank _ ++ _).head? at ha
      rw [head_append_form hs'] at ha
      unfold followers
      rw [if_neg hrank]
      exact List.mem_append_right _ (head_form hs' _ a ha).1
  · exact hgap (head_gap hts.isGap hne a ha)

/-- The name of a place ends visibly when its rule comes, unless it is stuck. -/
theorem head_not_word (hts : Placed rank h ts) (htight : Tight rank s h (ts.map Prod.fst))
    (hrank : s.rank = rank) (hfree : s.isStuck (ts.map Prod.fst) = false) :
    ∀ a ∈ (render rank h ts).head?, isWordChar a = false := by
  rw [render_eq_append]
  intro a ha
  by_cases hne : h = []
  · subst hne
    cases ts with
    | nil => cases ha
    | cons t ts =>
      obtain ⟨s', h'⟩ := t
      obtain ⟨_, hs', _⟩ := hts
      have hspoken : s.isDone rank (s' :: ts.map Prod.fst) = false := by
        unfold isDone
        rw [hrank, decide_eq_false (Nat.lt_irrefl rank), Bool.false_and]
      have hdone : s'.isDone rank (ts.map Prod.fst) = true := by
        rw [← Bool.not_eq_false]
        exact fun hnot => htight.2.1 hspoken hnot rfl
      have hlt : s'.rank < rank := of_decide_eq_true (Bool.and_eq_true _ _ |>.mp hdone).1
      change a ∈ (s'.form rank _ ++ _).head? at ha
      rw [head_append_form hs'] at ha
      refine (head_form hs' _ a ha).2.resolve_right fun hlow => ?_
      -- A low line that is written makes a later name stuck.
      rw [hlow, ← hrank] at hlt
      simp [isStuck, hlt, hlow] at hfree
  · exact isWordChar_of_mem_gapChars a (head_gap hts.isGap hne a ha)

theorem head_word (hts : Placed rank h ts) (htight : Tight rank s h (ts.map Prod.fst))
    (hrank : s.rank = rank) (hstuck : s.isStuck (ts.map Prod.fst) = true) :
    ∃ a ∈ (render rank h ts).head?, isWordChar a = true := by
  obtain ⟨hlt, hnext⟩ := Bool.and_eq_true _ _ |>.mp hstuck
  have hlt := of_decide_eq_true hlt
  cases ts with
  | nil => cases hnext
  | cons t ts =>
    obtain ⟨s', h'⟩ := t
    have hlow : s'.rank = low := of_decide_eq_true hnext
    obtain ⟨_, hs', _⟩ := hts
    have hwritten : s'.form rank (ts.map Prod.fst) = ['_'] := by
      have hdone : s'.isDone rank (ts.map Prod.fst) = true := by
        unfold isDone isStuck
        rw [hlow, decide_eq_true (hrank ▸ hlt), decide_eq_false (Nat.lt_irrefl low)]
        rfl
      unfold form
      rw [if_pos hdone]
      exact ((sound_parts hs').2.2.2.2.2 hlow).1
    rw [htight.2.2 (hrank ▸ hlt) hlow]
    refine ⟨'_', ?_, by decide⟩
    change '_' ∈ ([] ++ (s'.form rank _ ++ _)).head?
    rw [hwritten]
    rfl

/-- What can follow the name of a place behind its gap: no character of a word, or the name of the
low line. -/
def Follows (h t : Text) : Prop :=
  (∀ a ∈ t.head?, isWordChar a = false) ∨ h ≠ [] ∧ ∃ t', t = "_under-score".toList ++ t'

theorem follows_render (hts : Placed rank h ts) (htight : Tight rank s h (ts.map Prod.fst))
    (hrank : s.rank = rank) (hfree : s.isStuck (ts.map Prod.fst) = false) :
    Follows h (render rank [] ts) := by
  cases ts with
  | nil => exact Or.inl fun a ha => by cases ha
  | cons t ts =>
    obtain ⟨s', h'⟩ := t
    obtain ⟨_, hs', _⟩ := hts
    by_cases hlow : s'.rank = low
    · have hle : rank ≤ low := by
        rw [← Nat.not_lt]
        intro hlt
        simp [isStuck, hlow, hrank, hlt] at hfree
      have hnot : s.isDone rank (s' :: ts.map Prod.fst) = false := by
        unfold isDone
        rw [hrank, decide_eq_false (Nat.lt_irrefl rank), Bool.false_and]
      have hnot' : s'.isDone rank (ts.map Prod.fst) = false := by
        unfold isDone
        rw [hlow, decide_eq_false (Nat.not_lt.mpr hle), Bool.false_and]
      refine Or.inr ⟨htight.2.1 hnot hnot', render rank h' ts, ?_⟩
      change [] ++ (s'.form rank _ ++ _) = _
      unfold form
      rw [hnot', if_neg Bool.false_ne_true, ((sound_parts hs').2.2.2.2.2 hlow).2, List.nil_append]
    · refine Or.inl fun a ha => ?_
      change a ∈ (s'.form rank _ ++ _).head? at ha
      rw [head_append_form hs'] at ha
      exact (head_form hs' _ a ha).2.resolve_right hlow

/-- What is required of the rule of a place: it turns the names of the place into operators, may
change the gap behind them, and passes over everything else. -/
structure Steps (rank : Nat) (n : Node) (f : Match → Text) (before after : Bool) : Prop where
  consumes : n.consumes = true
  skipsGaps : n.skipsGaps = true
  /-- The first rules take no white space. -/
  keeps : rank < firstTaking → before = false ∧ after = false
  takes : rank = low → before = true
  hit : ∀ s ∈ spelled.1, s.rank = rank → ∀ {g h t : Text}, IsGap g → IsGap h →
    (∀ a ∈ t.head?, Unicode.isBlank a = false) → (∀ a ∈ (h ++ t).head?, isWordChar a = false) →
    Follows h t → ∀ b, ∃ b' h', IsGap h' ∧ (h = [] → h' = []) ∧
      (after = false → h ≠ [] → h' ≠ []) ∧
      n.replaceFrom f b (g ++ (s.spoken ++ (h ++ t))) =
        (if before then [] else g) ++ (s.written ++ n.replaceFrom f b' (h' ++ t))
  skip : ∀ s ∈ spelled.1, s.rank ≠ rank → ∀ ss t, (∀ a ∈ t.head?, a ∈ followers rank) →
    n.core.DeadIn (s.form rank ss) t
  stuck : ∀ s ∈ spelled.1, s.rank = rank → low < rank → ∀ t, (∀ a ∈ t.head?, a ∈ followers rank) →
    (∃ a ∈ t.head?, isWordChar a = true) → n.core.DeadIn s.spoken t

/-- Whether the first sign is turned into its operator by the rule of a place. -/
def hits (rank : Nat) : List Sign → Bool
  | [] => false
  | s :: ss => decide (s.rank = rank) && !s.isStuck ss

theorem isDone_succ (rank : Nat) (s : Sign) (ss : List Sign) :
    s.isDone (rank + 1) ss = (s.isDone rank ss || hits rank (s :: ss)) := by
  have hle : decide (s.rank < rank + 1) = (decide (s.rank < rank) || decide (s.rank = rank)) := by
    rw [← Bool.decide_or, decide_eq_decide]
    omega
  change (_ && _) = ((_ && _) || (_ && _))
  rw [hle, Bool.and_or_distrib_right]

/-- A gap stays as the next rules need it, if the rule of a place changes it as it may: the sign in
front may take it, and the sign behind it takes it if it is turned into an operator. -/
theorem Tight.succ {before after : Bool} {n : Node} {f : Match → Text}
    (hstep : Steps rank n f before after) {ss : List Sign} (h : Text) {h' : Text}
    (htight : Tight rank s h ss) (hnil : h = [] → h' = [])
    (hkeep : after = false ∨ hits rank (s :: ss) = false → h ≠ [] → h' ≠ []) :
    Tight (rank + 1) s (if before && hits rank ss then [] else h') ss := by
  cases ss with
  | nil => trivial
  | cons s' ss =>
    obtain ⟨hfirst, hnames, hlow⟩ := htight
    refine ⟨fun hle => ?_, fun hs hs' => ?_, fun hlt hrank => ?_⟩
    · obtain ⟨rfl, rfl⟩ := hstep.keeps hle
      exact hkeep (Or.inl rfl) (hfirst (Nat.le_of_lt hle))
    · rw [isDone_succ, Bool.or_eq_false_iff] at hs hs'
      rw [hs'.2, Bool.and_false, if_neg Bool.false_ne_true]
      exact hkeep (Or.inr hs.2) (hnames hs.1 hs'.1)
    · rcases Nat.lt_or_ge low rank with hlt | hge
      · rw [hnil (hlow hlt hrank), ite_self]
      · -- The rule for the low line takes the gap in front.
        have heq : rank = low := by omega
        have hhits : hits rank (s' :: ss) = true := by
          simp [hits, isStuck, hrank, heq]
        rw [hstep.takes heq, hhits]
        rfl

theorem form_succ (rank : Nat) (s : Sign) (ss : List Sign) (h : hits rank (s :: ss) = false) :
    s.form (rank + 1) ss = s.form rank ss := by
  unfold form
  rw [isDone_succ, h, Bool.or_false]

theorem form_of_hits {ss : List Sign} (h : hits rank (s :: ss) = true) :
    s.rank = rank ∧ s.isStuck ss = false ∧ s.form rank ss = s.spoken ∧
      s.form (rank + 1) ss = s.written := by
  obtain ⟨hrank, hfree⟩ := Bool.and_eq_true _ _ |>.mp h
  have hrank := of_decide_eq_true hrank
  rw [Bool.not_eq_true'] at hfree
  refine ⟨hrank, hfree, ?_, ?_⟩
  · unfold form isDone
    rw [hrank, decide_eq_false (Nat.lt_irrefl rank)]
    rfl
  · unfold form
    rw [isDone_succ, h, Bool.or_true, if_pos rfl]

/-- The rule of a place brings the layout from one stage to the next. -/
theorem Steps.replaceFrom_render {before after : Bool} {n : Node} {f : Match → Text}
    (hstep : Steps rank n f before after) (hts : Placed rank g ts) (b : Option Char) :
    ∃ ts', ts'.map Prod.fst = ts.map Prod.fst ∧
      Placed (rank + 1) (if before && hits rank (ts.map Prod.fst) then [] else g) ts' ∧
      n.replaceFrom f b (render rank g ts) =
        render (rank + 1) (if before && hits rank (ts.map Prod.fst) then [] else g) ts' := by
  induction ts generalizing g b with
  | nil =>
    refine ⟨[], rfl, ?_, ?_⟩
    · rw [List.map_nil, hits, Bool.and_false, if_neg Bool.false_ne_true]
      exact hts
    · rw [List.map_nil, hits, Bool.and_false, if_neg Bool.false_ne_true]
      exact replaceFrom_eq_self hstep.consumes f ((deadIn_end hstep.skipsGaps hts).misses b)
  | cons t ts ih =>
    obtain ⟨s, h⟩ := t
    obtain ⟨hg, hs, htight, hrest⟩ := hts
    have hnext := head_render hrest htight
    cases hhits : hits rank (s :: ts.map Prod.fst) with
    | false =>
      -- The sign is passed over.
      have hdead : n.core.DeadIn (s.form rank (ts.map Prod.fst)) (render rank h ts) := by
        by_cases hrank : s.rank = rank
        · have hstuck : s.isStuck (ts.map Prod.fst) = true := by
            simpa [hits, hrank] using hhits
          have hform : s.form rank (ts.map Prod.fst) = s.spoken := by
            unfold form isDone
            rw [hstuck, Bool.not_true, Bool.and_false, if_neg Bool.false_ne_true]
          have hlt := of_decide_eq_true (Bool.and_eq_true _ _ |>.mp hstuck).1
          rw [hform]
          exact hstep.stuck s hs hrank (hrank ▸ hlt) _ hnext (head_word hrest htight hrank hstuck)
        · exact hstep.skip s hs hrank _ _ hnext
      have hword := deadIn_word hstep.skipsGaps hg (isSolid_form hs _) hdead
      obtain ⟨ts', hsame, hplaced, hreplace⟩ :=
        ih hrest (lastOf b (g ++ s.form rank (ts.map Prod.fst)))
      refine ⟨(s, if before && hits rank (ts.map Prod.fst) then [] else h) :: ts', ?_, ?_, ?_⟩
      · rw [List.map_cons, List.map_cons, hsame]
      · rw [List.map_cons, hhits, Bool.and_false, if_neg Bool.false_ne_true]
        refine ⟨hg, hs, ?_, hplaced⟩
        rw [hsame]
        exact htight.succ hstep h id (fun _ hne => hne)
      · rw [List.map_cons, hhits, Bool.and_false, if_neg Bool.false_ne_true]
        change n.replaceFrom f b (g ++ (_ ++ _)) = g ++ (s.form (rank + 1) _ ++ _)
        rw [← List.append_assoc, replaceFrom_misses hstep.consumes f (hword.misses b), hreplace,
          hsame, form_succ rank s _ hhits, List.append_assoc]
    | true =>
      obtain ⟨hrank, hfree, hform, hform'⟩ := form_of_hits hhits
      have hfollows := follows_render hrest htight hrank hfree
      have hend := head_not_word hrest htight hrank hfree
      rw [render_eq_append] at hend
      obtain ⟨b', h', hh', hnil, hkeep, hreplace⟩ := hstep.hit s hs hrank hg hrest.isGap
        (head_render_nil hrest) hend hfollows b
      obtain ⟨ts', hsame, hplaced, hmore⟩ := ih (hrest.of_gap hh') b'
      refine ⟨(s, if before && hits rank (ts.map Prod.fst) then [] else h') :: ts', ?_, ?_, ?_⟩
      · rw [List.map_cons, List.map_cons, hsame]
      · rw [List.map_cons, hhits, Bool.and_true]
        refine ⟨?_, hs, ?_, hplaced⟩
        · split
          · exact isGap_nil
          · exact hg
        · rw [hsame]
          refine htight.succ hstep h hnil fun hor hne => ?_
          exact hkeep (hor.resolve_right (by rw [hhits]; decide)) hne
      · rw [List.map_cons, hhits, Bool.and_true]
        change n.replaceFrom f b (g ++ (s.form rank _ ++ render rank h ts)) =
          _ ++ (s.form (rank + 1) _ ++ _)
        rw [hform, render_eq_append, hreplace, hsame, hform', ← render_eq_append, hmore]

end Dictation.Sign
