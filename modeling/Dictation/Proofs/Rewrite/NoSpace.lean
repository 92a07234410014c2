import Dictation.Proofs.Rewrite.Markers
/-!
# Words that belong together

Words between `no-space` and `spaces` are written together. A word for the case in front has been used
up by then: it changes the first half of `no-space`, and the words themselves stay as they are.
-/
namespace Dictation

open Node Text

/-- The words that rules and triggers begin with, and the one that ends what belongs together. -/
def framingWords : List Text := triggerWords ++ ["spaces".toList]

/-- Words that belong together, behind `start`. -/
def framed (start : Text) (parts : List Text) : Text :=
  join [' '] (start :: (parts ++ ["spaces".toList]))

theorem framed_eq (start : Text) (parts : List Text) :
    framed start parts = start ++ (parts ++ ["spaces".toList]).flatMap (' ' :: ·) :=
  join_eq_flatMap start _

def starts : List Text :=
  ["no-space", "cap no-space", "all caps no-space", "No-space", "NO-space"].map String.toList

theorem units_starts : ∀ start ∈ starts, Units [start, "spaces".toList] framingWords := by
  have h : ∀ start ∈ starts, start ≠ [] ∧ start.getLast?.all (!Unicode.isBlank ·) = true := by
    decide
  intro start hstart
  obtain ⟨hne, hlast⟩ := h start hstart
  refine ⟨by simpa using hne.symm, fun u hu => ?_, by decide⟩
  rcases List.mem_cons.mp hu with rfl | hu
  · simpa [Option.all_eq_true] using hlast
  · rw [List.mem_singleton.mp hu]
    decide

theorem words_framed {start : Text} {parts : List Text} (hparts : ∀ p ∈ parts, OtherWord framingWords p) :
    ∀ x ∈ start :: (parts ++ ["spaces".toList]),
      x ∈ [start, "spaces".toList] ∨ OtherWord framingWords x := by
  intro x hx
  rcases List.mem_cons.mp hx with rfl | hx
  · exact .inl List.mem_cons_self
  rcases List.mem_append.mp hx with hx | hx
  · exact .inr (hparts x hx)
  · exact .inl (List.mem_cons_of_mem _ hx)

theorem Node.replaceFrom_start {n : Node} (hn : n.consumes = true) (f : Match → Text) {x y : Text}
    {gs : List (Nat × Text)} {xs : List Text}
    (hx : n.matchAt? none (x ++ (y ++ xs.flatMap (' ' :: ·))) = some ⟨x, gs⟩) (hy : n.Passes y)
    (hxs : ∀ x ∈ xs, n.Passes x) :
    n.replaceFrom f none (x ++ (y ++ xs.flatMap (' ' :: ·))) =
      f ⟨x, gs⟩ ++ (y ++ xs.flatMap (' ' :: ·)) := by
  have hfirst : n.Misses (lastOf none x) y (xs.flatMap (' ' :: ·)) := by
    refine hy [] _ _ isGap_nil fun a ha => ?_
    cases xs with
    | nil => cases ha
    | cons x xs =>
      cases ha
      exact List.mem_cons_self
  have hrest : n.Misses (lastOf none x) (y ++ xs.flatMap (' ' :: ·)) [] :=
    Misses.append (by rwa [List.append_nil]) (misses_spaced hxs _ fun a ha => by cases ha)
  rw [replaceFrom_found hn f hx rfl, replaceFrom_eq_self hn f hrest]

namespace RuleTable

theorem isWord_no : IsWord "no".toList := ⟨by decide, by decide, by decide⟩

/-- Both rules pass over what is behind the marker and the first half of `no-space`. -/
theorem marked_passes {n : Node} (hn : n = markedWord "cap" ∨ n = markedWords "all caps")
    {parts : List Text} (hparts : ∀ p ∈ parts, OtherWord framingWords p) :
    n.Passes "-space".toList ∧ ∀ x ∈ parts ++ ["spaces".toList], n.Passes x := by
  have hall : ∀ n ∈ [markedWord "cap", markedWords "all caps"], n.skipsGaps = true ∧
      n.core.stopsIn gapChars "-space".toList = true ∧
      n.core.stopsIn gapChars "spaces".toList = true ∧ n.opensWith framingWords = true := by
    decide
  obtain ⟨hgaps, hhalf, hspaces, hopens⟩ := hall n (by simpa using hn)
  have hlast : ∀ x ∈ ["-space".toList, "spaces".toList], x ≠ [] ∧
      x.getLast?.all (!Unicode.isBlank ·) = true := by decide
  have hunit : ∀ x ∈ ["-space".toList, "spaces".toList], n.core.stopsIn gapChars x = true →
      n.Passes x := fun x hx hstops =>
    passes_of_stopsIn hgaps (by simpa [Option.all_eq_true] using (hlast x hx).2) (hlast x hx).1 hstops
  refine ⟨hunit _ List.mem_cons_self hhalf, fun x hx => ?_⟩
  rcases List.mem_append.mp hx with hx | hx
  · exact passes_of_opensWith hgaps hopens (by decide) (hparts x hx)
  · rw [List.mem_singleton.mp hx]
    exact hunit _ (List.mem_cons_of_mem _ List.mem_cons_self) hspaces

theorem matchAt?_cap {t : Text} (ht : ∀ a ∈ t.head?, isWordChar a = false) :
    (markedWord "cap").matchAt? none ("cap no".toList ++ t) =
      some ⟨"cap no".toList, [(1, "no".toList)]⟩ :=
  markedWord_matchAt? (markers_sound "cap" (by decide)) (fun a ha => by cases ha) isWord_no ht

theorem matchAt?_allCaps {t : Text} (ht : ∀ a ∈ t.head?, isWordChar a = false)
    (hblank : ∀ a ∈ t.head?, Unicode.isBlank a = false) :
    (markedWords "all caps").matchAt? none ("all caps no".toList ++ t) =
      some ⟨"all caps no".toList, [(1, "no".toList)]⟩ := by
  have hmarker : Marker "all caps" := markers_sound "all caps" (by decide)
  have hwords : ∀ y ∈ ["no".toList], IsWord y := List.forall_mem_singleton.mpr isWord_no
  have hdead : (seq someBlanks wordChars).Dead t := ((Begins.set .space).plus none true).seq.dead hblank
  exact markedWords_matchAt? hmarker (fun a ha => by cases ha) hwords ht hdead

theorem rewrite_capsRow {parts : List Text} (hparts : ∀ p ∈ parts, OtherWord framingWords p) :
    rewrite capsRow (framed "cap no-space".toList parts) = framed "No-space".toList parts := by
  obtain ⟨hhalf, hrest⟩ := marked_passes (.inl rfl) hparts
  have hmatch : (markedWord "cap").matchAt? none ("cap no".toList ++
      ("-space".toList ++ (parts ++ ["spaces".toList]).flatMap (' ' :: ·))) = _ :=
    matchAt?_cap fun a ha => by cases ha; decide
  have hreplace := replaceFrom_start (by rfl) (capsRow.2.apply capsRow.1) hmatch hhalf hrest
  have hcap : capsRow.2.apply capsRow.1 ⟨"cap no".toList, [(1, "no".toList)]⟩ = "No".toList := by
    decide
  rw [hcap] at hreplace
  rw [framed_eq, framed_eq, rewrite_eq]
  exact hreplace

/-- The words `all caps` make capitals of the first half of `no-space`. -/
theorem rewrite_allCapsRow {parts : List Text} (hparts : ∀ p ∈ parts, OtherWord framingWords p) :
    rewrite allCapsRow (framed "all caps no-space".toList parts) = framed "NO-space".toList parts := by
  obtain ⟨hhalf, hrest⟩ := marked_passes (.inr rfl) hparts
  have hmatch : (markedWords "all caps").matchAt? none ("all caps no".toList ++
      ("-space".toList ++ (parts ++ ["spaces".toList]).flatMap (' ' :: ·))) = _ :=
    matchAt?_allCaps (fun a ha => by cases ha; decide) fun a ha => by cases ha; decide
  have hreplace := replaceFrom_start (by rfl) (allCapsRow.2.apply allCapsRow.1) hmatch hhalf hrest
  have hcaps : allCapsRow.2.apply allCapsRow.1 ⟨"all caps no".toList, [(1, "no".toList)]⟩ =
      "NO".toList := by decide
  rw [hcaps] at hreplace
  rw [framed_eq, framed_eq, rewrite_eq]
  exact hreplace

end RuleTable

theorem filter_join {xs : List Text} (hxs : ∀ x ∈ xs, isSolid x = true) :
    (join [' '] xs).filter (!Unicode.isBlank ·) = xs.flatten := by
  have hone : ∀ x ∈ xs, x.filter (!Unicode.isBlank ·) = x := fun x hx =>
    List.filter_eq_self.mpr fun a ha => by simp [isBlank_of_isSolid (hxs x hx) ha]
  induction xs with
  | nil => rfl
  | cons x xs ih =>
    have hmore := ih (fun y hy => hxs y (List.mem_cons_of_mem x hy))
      fun y hy => hone y (List.mem_cons_of_mem x hy)
    cases xs with
    | nil => simpa [join] using hone x List.mem_cons_self
    | cons y xs =>
      rw [join_cons (List.cons_ne_nil y xs), List.filter_append, List.filter_append, hmore,
        hone x List.mem_cons_self, List.flatten_cons]
      simp [isBlank_space]

namespace Node

/-- A blank and what it takes for the group to end. -/
def closing : List Node := someBlanks :: (literal "spaces" ++ [bound])

theorem dead_behind_blank {ns : List Node} {t : Text} (ht : ∀ a ∈ t.head?, Unicode.isBlank a = false)
    (hns : (sequence ns).Dead t) : (sequence (someBlanks :: ns)).Dead (' ' :: t) := by
  intro c d hc hd
  obtain ⟨e, hblanks, hlead⟩ := leads_sequence_cons.mp hd
  obtain ⟨x, hx, hreads, hall⟩ := hblanks.reads_plus_set
  obtain ⟨a, x, rfl⟩ := List.exists_cons_of_ne_nil hx
  have heq := hc.symm.trans hreads.rest_eq
  obtain ⟨_, ht'⟩ := List.cons.inj heq
  cases x with
  | nil => exact hns e d ht'.symm hlead
  | cons b x =>
    have hb : Unicode.isBlank b = true := hall b (by simp)
    rw [ht b (by rw [ht']; rfl)] at hb
    cases hb

theorem deadIn_words {ns : List Node} {ws : List Text}
    (hns : (sequence ns).avoids gapChars (fun _ => false) ws = true) (hws : [] ∉ ws) {xs : List Text}
    (hxs : ∀ x ∈ xs, OtherWord ws x) {rest : Text} (hrest : ∀ a ∈ rest.head?, a ∈ gapChars) :
    (sequence (someBlanks :: ns)).DeadIn (join [' '] xs) rest := by
  have hbegins : (sequence (someBlanks :: ns)).Begins .space := by
    intro c d hd
    obtain ⟨e, hblanks, _⟩ := leads_sequence_cons.mp hd
    exact (Begins.set .space).plus none true c e hblanks
  have hletters : ∀ x ∈ xs, ∀ a ∈ x, CharSet.space.contains a = false :=
    fun x hx a ha => (asciiLetters_sound a ((hxs x hx).letters a ha)).2.1
  cases xs with
  | nil => exact deadIn_nil _ _
  | cons x xs =>
    rw [join_eq_flatMap]
    refine .append (hbegins.deadIn (hletters x List.mem_cons_self) _) ?_
    have hmore : ∀ y ∈ xs, OtherWord ws y := fun y hy => hxs y (List.mem_cons_of_mem x hy)
    clear hletters hxs
    induction xs with
    | nil => exact deadIn_nil _ _
    | cons y ys ih =>
      have hy := hmore y List.mem_cons_self
      have hnext : ∀ a ∈ (ys.flatMap (' ' :: ·) ++ rest).head?, a ∈ gapChars := by
        intro a ha
        cases ys with
        | nil => exact hrest a ha
        | cons z zs =>
          cases ha
          exact List.mem_cons_self
      have hletters : ∀ a ∈ y, CharSet.space.contains a = false :=
        fun a ha => (asciiLetters_sound a (hy.letters a ha)).2.1
      rw [List.flatMap_cons]
      refine .append ?_ (ih fun z hz => hmore z (List.mem_cons_of_mem y hz))
      refine deadIn_cons_iff.mpr ⟨?_, hbegins.deadIn hletters _⟩
      refine dead_behind_blank (fun a ha => ?_) (dead_of_avoids gaps_stop hns hws hy hnext)
      obtain ⟨b, u, rfl⟩ := List.exists_cons_of_ne_nil hy.ne_nil
      cases ha
      exact hletters _ List.mem_cons_self

end Node

namespace RuleTable

/-- The rule for words between `no-space` and `spaces`. -/
def togetherRow : Pattern × Action :=
  (⟨sequence ((bound :: literal "no-space") ++
    (someBlanks :: group 1 (plus none false (set (.property .any))) :: closing)), [none]⟩,
    .function "collapse_spaces" .collapseSpaces)

/-- The forms in which the rules for cases leave `no-space`. -/
def heads : List Text := ["no-space", "No-space", "NO-space"].map String.toList

theorem captures_head {head : Text} (hhead : head ∈ heads) (t : Text) :
    (sequence (bound :: literal "no-space")).Captures none head [] t := by
  have hplain : (sequence (literal "no-space")).plain = true := by decide
  have hheads : ∀ head ∈ heads, (sequence (literal "no-space")).leftovers head = some [[]] ∧
      head.head?.any isWordChar = true := by decide
  obtain ⟨hreads, hword⟩ := hheads head hhead
  obtain ⟨a, ha, hword⟩ : ∃ a ∈ head.head?, isWordChar a = true := by
    simpa [Option.any_eq_true] using hword
  have hbegin : bound.Captures none [] [] (head ++ t) := by
    refine .assertion (boundary_before (fun b hb => by cases hb) ⟨a, ?_, hword⟩)
    rw [Option.mem_def] at ha ⊢
    rw [List.head?_append, ha, Option.some_or]
  exact .sequence_cons hbegin (.of_takes (.of_leftovers hplain hreads t) _)

theorem captures_closing (b : Option Char) :
    (sequence closing).Captures b ([' '] ++ "spaces".toList) [] [] := by
  have hspaces : (sequence (literal "spaces")).plain = true ∧
      (sequence (literal "spaces")).leftovers "spaces".toList = some [[]] ∧
      ∀ a ∈ "spaces".toList.head?, Unicode.isBlank a = false := by decide
  obtain ⟨hplain, hreads, hblank⟩ := hspaces
  have hbound : ∀ b, (sequence [bound]).Captures (lastOf b "spaces".toList) [] [] [] := fun b =>
    .assertion (boundary_behind ⟨'s', rfl, by decide⟩ fun a ha => by cases ha)
  have hword : ∀ b, (sequence (literal "spaces" ++ [bound])).Captures b "spaces".toList [] [] := by
    intro b
    have h := Captures.sequence_append (.of_takes (.of_leftovers hplain hreads _) b) (hbound b)
    rwa [List.append_nil] at h
  exact .sequence_cons (.of_takes (takes_space (by simpa using hblank)) b) (hword _)

theorem matchAt?_together {head : Text} (hhead : head ∈ heads) {parts : List Text} (hne : parts ≠ [])
    (hparts : ∀ p ∈ parts, OtherWord framingWords p) :
    togetherRow.1.node.matchAt? none (framed head parts) =
      some ⟨framed head parts, [(1, join [' '] parts)]⟩ := by
  have hclosing : (sequence closing).unmarked = true ∧ togetherRow.1.node.unmarked = true ∧
      (sequence (literal "spaces" ++ [bound])).avoids gapChars (fun _ => false) framingWords = true := by
    decide
  obtain ⟨hunmarked, hrow, havoids⟩ := hclosing
  obtain ⟨hjoin, hfirst, _⟩ := isTrimmed_join hne fun p hp => (hparts p hp).isSolid
  have hdead : (sequence closing).DeadIn (join [' '] parts) (([' '] ++ "spaces".toList) ++ []) :=
    deadIn_words havoids (by decide) hparts fun a ha => by cases ha; exact List.mem_cons_self
  have hgroup := Captures.least (i := 1) (s := .property .any) hjoin (fun _ _ => rfl) hunmarked hdead
    (captures_closing (lastOf (lastOf (lastOf none head) [' ']) (join [' '] parts)))
  have hrest : ∀ a ∈ (join [' '] parts ++ ([' '] ++ "spaces".toList) ++ []).head?,
      Unicode.isBlank a = false := by
    rw [List.append_nil, List.head?_append, List.head?_eq_some_head hjoin, Option.some_or]
    exact fun a ha => hfirst a (by rwa [List.head?_eq_some_head hjoin])
  have hall : togetherRow.1.node.Captures none
      (head ++ ([' '] ++ (join [' '] parts ++ ([' '] ++ "spaces".toList)))) [(1, join [' '] parts)] [] :=
    .sequence_append (captures_head hhead _)
      (.sequence_cons (.of_takes (takes_space hrest) _) hgroup)
  have hframed : framed head parts = head ++ ([' '] ++ (join [' '] parts ++ ([' '] ++ "spaces".toList))) := by
    rw [framed, join_cons (by simp), join_append hne (by simp)]
    simp [join]
  have hmatch := hall.matchAt? hrow
  rwa [List.append_nil, ← hframed] at hmatch

theorem rewrite_togetherRow {head : Text} (hhead : head ∈ heads) {parts : List Text} (hne : parts ≠ [])
    (hparts : ∀ p ∈ parts, OtherWord framingWords p) :
    rewrite togetherRow (framed head parts) = parts.flatten := by
  have hmatch : togetherRow.1.node.matchAt? none (framed head parts ++ []) =
      some ⟨framed head parts, [(1, join [' '] parts)]⟩ := by
    rw [List.append_nil]
    exact matchAt?_together hhead hne hparts
  have hconsumes : togetherRow.1.node.consumes = true := by decide
  have hfound := replaceFrom_found hconsumes (togetherRow.2.apply togetherRow.1) hmatch rfl
  rw [replaceFrom_nil hconsumes, List.append_nil, List.append_nil] at hfound
  rw [rewrite_eq, hfound]
  exact filter_join fun p hp => (hparts p hp).isSolid

theorem foldl_framed {start : Text} (hstart : start ∈ starts) {rs : List (Pattern × Action)}
    (hrs : ∀ r ∈ rs, idleOn [start, "spaces".toList] framingWords r.1.node = true) {parts : List Text}
    (hparts : ∀ p ∈ parts, OtherWord framingWords p) :
    rs.foldl (fun t r => rewrite r t) (framed start parts) = framed start parts :=
  foldl_idleOn (units_starts start hstart) hrs (words_framed hparts)

theorem rows_framed : rows[81]? = some togetherRow ∧ rows[23]? = some capsRow ∧
    rows[22]? = some allCapsRow := by
  decide

theorem rows_behind : ∀ r ∈ rows.drop 82, lacks asciiLetters r.1.node = true := by
  decide +kernel

theorem foldl_together {head : Text} (hhead : head ∈ heads) {j : Nat} (hj : j ≤ 81)
    (hidle : ∀ r ∈ (rows.drop j).take (81 - j), idleOn [head, "spaces".toList] framingWords r.1.node = true)
    {parts : List Text} (hne : parts ≠ []) (hparts : ∀ p ∈ parts, OtherWord framingWords p) :
    (rows.drop j).foldl (fun t r => rewrite r t) (framed head parts) = parts.flatten := by
  have hstarts : ∀ head ∈ heads, head ∈ starts := by decide
  have hletters : ∀ a ∈ parts.flatten, a ∈ asciiLetters := by
    intro a ha
    obtain ⟨p, hp, ha⟩ := List.mem_flatten.mp ha
    exact (hparts p hp).letters a ha
  rw [drop_rows rows_framed.1 hj, List.foldl_append, foldl_framed (hstarts head hhead) hidle hparts,
    List.foldl_cons, rewrite_togetherRow hhead hne hparts]
  exact foldl_of_lacks rows_behind hletters

theorem idle_framed :
    (∀ r ∈ (rows.drop 0).take 81, idleOn ["no-space".toList, "spaces".toList] framingWords r.1.node = true) ∧
    (∀ r ∈ (rows.drop 0).take 23, idleOn ["cap no-space".toList, "spaces".toList] framingWords r.1.node = true) ∧
    (∀ r ∈ (rows.drop 24).take 57, idleOn ["No-space".toList, "spaces".toList] framingWords r.1.node = true) ∧
    (∀ r ∈ (rows.drop 0).take 22,
      idleOn ["all caps no-space".toList, "spaces".toList] framingWords r.1.node = true) ∧
    ∀ r ∈ (rows.drop 23).take 58, idleOn ["NO-space".toList, "spaces".toList] framingWords r.1.node = true := by
  rw [spelledRows.2]
  decide +kernel

/-- Words behind `no-space`, with or without a word for the case in front, are written together as they
are. -/
theorem apply_framed {start : Text}
    (hstart : start ∈ ["no-space", "cap no-space", "all caps no-space"].map String.toList)
    {parts : List Text} (hne : parts ≠ []) (hparts : ∀ p ∈ parts, OtherWord framingWords p) :
    shipped.apply (framed start parts) = parts.flatten := by
  obtain ⟨hplain, hcap, hcapped, hall, halled⟩ := idle_framed
  obtain ⟨_, hcapsRow, hallCapsRow⟩ := rows_framed
  have hrows : rows = rows.drop 0 := rfl
  rw [shipped_apply, hrows]
  simp only [List.map_cons, List.map_nil, List.mem_cons, List.not_mem_nil, or_false] at hstart
  rcases hstart with rfl | rfl | rfl
  · exact foldl_together (by decide) (Nat.zero_le _) hplain hne hparts
  · rw [drop_rows hcapsRow (Nat.zero_le _), List.foldl_append, foldl_framed (by decide) hcap hparts,
      List.foldl_cons, rewrite_capsRow hparts]
    exact foldl_together (by decide) (by decide) hcapped hne hparts
  · rw [drop_rows hallCapsRow (Nat.zero_le _), List.foldl_append, foldl_framed (by decide) hall hparts,
      List.foldl_cons, rewrite_allCapsRow hparts]
    exact foldl_together (by decide) (by decide) halled hne hparts

end RuleTable

end Dictation
