import Dictation.Proofs.Rewrite.CasedNames
/-!
# Low lines

Once the fields of a name are written, the words for low lines become low lines, and the gaps around them
go. A name behind the marker for doubled low lines is then put between them. At last, a rule that is meant
for what is left of that marker takes away the word `dunder` wherever two low lines stand before it.
-/
namespace Dictation

open Node Text

namespace NameFields

def written : Option NameField → Text
  | none => []
  | some f => f.casing.write f.words

def name (ps : NameFields) : Text := join ['_'] (ps.map written)

/-- What stands behind a field once all fields are written. -/
def gap : Option NameField → Text
  | none => []
  | some f => f.casing.gap

def low : Option NameField → Text
  | none => Source.under
  | some f => f.casing.low

theorem field_four (p : Option NameField) : field 4 p = written p := by
  cases p with
  | none => rfl
  | some f =>
    obtain ⟨c, ws⟩ := f
    cases c <;> rfl

theorem under_four (p : Option NameField) : under 4 p = gap p ++ low p := by
  cases p with
  | none => rfl
  | some f =>
    obtain ⟨c, ws⟩ := f
    cases c <;> rfl

theorem isGap_gap (p : Option NameField) : IsGap (gap p) := by
  cases p with
  | none => exact isGap_nil
  | some f =>
    change IsGap (if _ then _ else _)
    split
    · exact isGap_nil
    · exact isGap_blank

def behind (p : Option NameField) : NameFields → Text
  | [] => []
  | q :: ps => gap p ++ (low p ++ spaced (text 4 (q :: ps)))

theorem text_four (p : Option NameField) (ps : NameFields) : text 4 (p :: ps) = written p ++ behind p ps := by
  cases ps with
  | nil =>
    rw [behind, List.append_nil]
    exact field_four p
  | cons q ps =>
    rw [text, behind, field_four, under_four]
    simp only [List.append_assoc]

end NameFields

def lowLine : Keyword := ⟨true, literal "_under" ++ [opt true (sequence (literal "-score"))], true, ['_']⟩

theorem lowLine_regular : lowLine.Regular := .of_isRegular (by decide)

theorem lowLine_begins : lowLine.node.core.Begins (.counterpart '_') := by
  have hcore : lowLine.node.core = sequence (set (.counterpart '_') :: (literal "under" ++
      [opt true (sequence (literal "-score"))] ++ ([bound] ++ [blanks]))) := by decide
  intro c d hd
  rw [hcore] at hd
  obtain ⟨e, hlow, _⟩ := leads_sequence_cons.mp hd
  exact Begins.set _ c e hlow

theorem misses_lowLine {x : Text} (hx : ∀ a ∈ x, (CharSet.counterpart '_').contains a = false)
    (hlast : ∀ a ∈ x.getLast?, Unicode.isBlank a = false) (b : Option Char) (rest : Text) :
    lowLine.node.Misses b x rest :=
  (DeadIn.of_core (lowLine_begins.deadIn hx rest) hlast).misses b

namespace NameFields

theorem low_sound (p : Option NameField) : isSolid (low p) = true ∧
    (∀ a ∈ (low p).getLast?, isWordChar a = true) ∧
    (sequence lowLine.core).leftovers (low p) = some [[], "-score".toList] := by
  have hboth : ∀ x ∈ [Source.under, "_UNDER-score".toList], isSolid x = true ∧
      x.getLast?.all isWordChar = true ∧
      (sequence lowLine.core).leftovers x = some [[], "-score".toList] := by decide
  have hlow : low p ∈ [Source.under, "_UNDER-score".toList] := by
    cases p with
    | none => exact List.mem_cons_self
    | some f =>
      change (if _ then _ else _) ∈ _
      split
      · exact List.mem_cons_of_mem _ List.mem_cons_self
      · exact List.mem_cons_self
  obtain ⟨hsolid, hlast, hreads⟩ := hboth _ hlow
  exact ⟨hsolid, by simpa [Option.all_eq_true] using hlast, hreads⟩

theorem mem_written {p : Option NameField} (hp : ∀ f, p = some f → f.Valid) : ∀ a ∈ written p, a ∈ asciiLetters := by
  cases p with
  | none => nofun
  | some f => exact (hp f rfl).write_letters

theorem written_apart {p : Option NameField} (hp : ∀ f, p = some f → f.Valid) :
    (∀ a ∈ written p, (CharSet.counterpart '_').contains a = false) ∧
      ∀ a ∈ (written p).getLast?, Unicode.isBlank a = false := by
  have hall : ∀ a ∈ asciiLetters, (CharSet.counterpart '_').contains a = false := by decide
  exact ⟨fun a ha => hall a (mem_written hp a ha),
    fun a ha => (asciiLetters_sound a (mem_written hp a (List.mem_of_getLast? ha))).2.1⟩

theorem head_text_four {ps : NameFields} (hps : ps.Valid) : ∀ a ∈ (text 4 ps).head?, Unicode.isBlank a = false := by
  cases ps with
  | nil => nofun
  | cons p ps =>
    rw [text_four]
    cases p with
    | none =>
      cases ps with
      | nil => nofun
      | cons q ps =>
        intro a ha
        cases ha
        decide
    | some f =>
      obtain ⟨c, x, hx⟩ := List.exists_cons_of_ne_nil (hps.head f rfl).write_ne_nil
      have hc : c ∈ asciiLetters := mem_written hps.head c (by rw [written, hx]; exact List.mem_cons_self)
      intro a ha
      rw [written, hx] at ha
      cases ha
      exact (asciiLetters_sound c hc).2.1

/-- The words for low lines become low lines, from a text on that stands for the first field. -/
theorem replaceFrom_behind {f : Match → Text} (hf : ∀ m, f m = ['_']) {ps : NameFields} (hps : ps.Valid)
    (p : Option NameField) {x : Text} (hx : ∀ a ∈ x, (CharSet.counterpart '_').contains a = false)
    (hlast : ∀ a ∈ x.getLast?, Unicode.isBlank a = false) (b : Option Char) :
    lowLine.node.replaceFrom f b (x ++ behind p ps) = join ['_'] (x :: ps.map written) := by
  induction ps generalizing p x b with
  | nil =>
    rw [behind, List.append_nil]
    exact replaceFrom_eq_self lowLine_regular.consumes f (misses_lowLine hx hlast b [])
  | cons q ps ih =>
    obtain ⟨hsolid, hword, hreads⟩ := low_sound p
    obtain ⟨hapart, hblank⟩ := written_apart hps.head
    have hmore := ih hps.tail q hapart hblank
    -- The gap behind the low line is there unless the name ends.
    obtain ⟨h, hgap, hsplit, hend⟩ : ∃ h, IsGap h ∧ spaced (text 4 (q :: ps)) = h ++ text 4 (q :: ps) ∧
        ∀ a ∈ (h ++ text 4 (q :: ps)).head?, isWordChar a = false := by
      unfold spaced
      split
      case isTrue hnil =>
        rw [List.isEmpty_iff.mp hnil]
        exact ⟨[], isGap_nil, rfl, nofun⟩
      case isFalse =>
        refine ⟨[' '], isGap_blank, rfl, fun a ha => ?_⟩
        cases ha
        decide
    obtain ⟨b', hhit⟩ := Keyword.replaceFrom_hit lowLine_regular hsolid hword hreads (isGap_gap p) hgap
      (head_text_four hps) hend hf (lastOf b x)
    rw [behind, hsplit, replaceFrom_misses lowLine_regular.consumes f (misses_lowLine hx hlast b _), hhit,
      List.map_cons, join_cons (List.cons_ne_nil _ _), List.append_assoc, text_four]
    change x ++ (['_'] ++ lowLine.node.replaceFrom f b' (written q ++ behind q ps)) = _
    rw [hmore]

end NameFields

namespace RuleTable

theorem lowLine_apply (m : Match) : lowLine.row.2.apply lowLine.row.1 m = ['_'] :=
  Slot.expand_quoted _ m ['_']

theorem dunder_apart : ∀ a ∈ Source.dunder ++ [' '], (CharSet.counterpart '_').contains a = false := by
  decide

theorem join_append_cons (y t : Text) (sep : Text) (ts : List Text) : join sep ((y ++ t) :: ts) = y ++ join sep (t :: ts) := by
  cases ts with
  | nil => rfl
  | cons u ts =>
    rw [join_cons (List.cons_ne_nil u ts), join_cons (List.cons_ne_nil u ts)]
    simp only [List.append_assoc]

theorem rewrite_lowLine {ps : NameFields} (hps : ps.Valid) {doubled : Bool}
    (hne : doubled = true → ∃ f qs, ps = some f :: qs) :
    rewrite lowLine.row (marked doubled (ps.text 4)) = marked doubled ps.name := by
  rw [rewrite_eq]
  cases doubled with
  | false =>
    cases ps with
    | nil => exact replaceFrom_nil lowLine_regular.consumes _ none
    | cons p ps =>
      obtain ⟨hx, hlast⟩ := NameFields.written_apart hps.head
      change lowLine.node.replaceFrom _ none (NameFields.text 4 (p :: ps)) = _
      rw [NameFields.text_four]
      exact NameFields.replaceFrom_behind lowLine_apply hps.tail p hx hlast none
  | true =>
    obtain ⟨f, qs, rfl⟩ := hne rfl
    obtain ⟨hwritten, hblank⟩ := NameFields.written_apart hps.head
    have hfield : NameFields.written (some f) ≠ [] := (hps f List.mem_cons_self).write_ne_nil
    have hx : ∀ a ∈ (Source.dunder ++ [' ']) ++ NameFields.written (some f),
        (CharSet.counterpart '_').contains a = false := fun a ha =>
      (List.mem_append.mp ha).elim (dunder_apart a) (hwritten a)
    have hlast : ∀ a ∈ ((Source.dunder ++ [' ']) ++ NameFields.written (some f)).getLast?,
        Unicode.isBlank a = false := by
      rwa [List.getLast?_append, List.getLast?_eq_some_getLast hfield, Option.some_or,
        ← List.getLast?_eq_some_getLast hfield]
    have hread := NameFields.replaceFrom_behind lowLine_apply hps.tail (some f) hx hlast none
    rw [join_append_cons] at hread
    have htext : marked true (NameFields.text 4 (some f :: qs)) =
        (Source.dunder ++ [' ']) ++ NameFields.written (some f) ++ NameFields.behind (some f) qs := by
      rw [NameFields.text_four]
      simp only [marked, if_true, List.append_assoc]
      rfl
    rw [htext]
    refine hread.trans ?_
    rw [List.append_assoc]
    rfl

/-- The rule for a name behind the marker for doubled low lines. -/
def wrapRow : Pattern × Action :=
  (⟨markedWord "dunder", [some "next".toList]⟩, .function "dunder_wrap" .dunderWrap)

/-- The rule for what is left of the marker behind low lines. -/
def dunderRow : Pattern × Action := (⟨sequence (literal "__dunder"), []⟩, .literal "__".toList)

/-- A name between doubled low lines, or without them. -/
def wrapped (doubled : Bool) (t : Text) : Text :=
  if doubled then "__".toList ++ t ++ "__".toList else t

theorem nameChars_sound : ∀ a ∈ nameChars, isWordChar a = true ∧ Unicode.isBlank a = false := by
  decide

theorem mem_wrapped {t : Text} (ht : ∀ a ∈ t, a ∈ nameChars) (doubled : Bool) :
    ∀ a ∈ wrapped doubled t, a ∈ nameChars := by
  have hlow : ∀ a ∈ "__".toList, a ∈ nameChars := by decide
  cases doubled with
  | false => exact ht
  | true =>
    intro a ha
    rcases List.mem_append.mp ha with ha | ha
    · exact (List.mem_append.mp ha).elim (hlow a) (ht a)
    · exact hlow a ha

theorem rewrite_wrapRow {t : Text} (hne : t ≠ []) (ht : ∀ a ∈ t, a ∈ nameChars) :
    rewrite wrapRow (marked true t) = wrapped true t := by
  have hword : IsWord t := ⟨hne, fun a ha => (nameChars_sound a (ht a ha)).1,
    fun a ha => (nameChars_sound a (ht a ha)).2⟩
  have hn : (markedWord "dunder").consumes = true := by decide
  have hmatch := markedWord_matchAt? (markers_sound "dunder" (by decide)) (b := none) nofun hword (t := []) nofun
  have hfound := replaceFrom_found hn (wrapRow.2.apply wrapRow.1) hmatch rfl
  rw [replaceFrom_nil hn, List.append_nil, List.append_nil] at hfound
  have htrim : t.trim = t := (isTrimmed_of_isSolid (isSolid_of_isBlank hne hword.blank)).trim
  rw [rewrite_eq]
  refine hfound.trans ?_
  change ['_', '_'] ++ t.trim ++ ['_', '_'] = _
  rw [htrim]
  rfl

/-- The words for doubled low lines and what is left of their marker. -/
def dunderWord : Text := "__dunder".toList

theorem dunderWord_sound : ∀ c ∈ dunderWord, ∀ a ∈ nameChars,
    (CharSet.counterpart c).contains a = true ↔ a.toLower = c := by
  decide

end RuleTable

/-- A name without the word `dunder` behind two low lines, in any case. -/
def dropDunder : Text → Text
  | [] => []
  | c :: t =>
    if RuleTable.dunderWord <+: (c :: t).map Char.toLower then "__".toList ++ dropDunder (t.drop 7)
    else c :: dropDunder t
  termination_by t => t.length
  decreasing_by
    all_goals
      simp only [List.length_drop, List.length_cons]
      omega

namespace RuleTable

section
variable {cs : Text}
  (hcs : ∀ c ∈ cs, ∀ a ∈ nameChars, (CharSet.counterpart c).contains a = true ↔ a.toLower = c)
include hcs

theorem leads_chars {p q : Cursor} (hp : ∀ a ∈ p.rest, a ∈ nameChars)
    (h : (sequence (cs.map fun c => set (.counterpart c))).Leads p q) : cs <+: p.rest.map Char.toLower := by
  induction cs generalizing p with
  | nil => exact List.nil_prefix
  | cons c cs ih =>
    obtain ⟨e, hset, hmore⟩ := leads_sequence_cons.mp h
    obtain ⟨a, ha, hreads⟩ := Cursor.reads_consume? hset
    have hrest : p.rest = a :: e.rest := hreads.rest_eq
    rw [hrest] at hp ⊢
    have hsame : a.toLower = c := (hcs c List.mem_cons_self a (hp a List.mem_cons_self)).mp ha
    rw [List.map_cons, hsame, List.cons_prefix_cons]
    exact ⟨rfl, ih (fun c hc => hcs c (List.mem_cons_of_mem _ hc)) (fun b hb => hp b (List.mem_cons_of_mem a hb)) hmore⟩

theorem takes_chars {x : Text} (hx : ∀ a ∈ x, a ∈ nameChars) (hsame : x.map Char.toLower = cs) (rest : Text) :
    (sequence (cs.map fun c => set (.counterpart c))).Takes x rest := by
  induction cs generalizing x with
  | nil =>
    rw [List.map_eq_nil_iff.mp hsame]
    exact .of_leftovers rfl rfl rest
  | cons c cs ih =>
    obtain ⟨a, y, rfl, ha, hy⟩ := List.map_eq_cons_iff.mp hsame
    have hset : (sequence [set (.counterpart c)]).Takes [a] (y ++ rest) :=
      .one ((hcs c List.mem_cons_self a (hx a List.mem_cons_self)).mpr ha) _
    exact .sequence_append hset (ih (fun c hc => hcs c (List.mem_cons_of_mem _ hc))
      (fun b hb => hx b (List.mem_cons_of_mem a hb)) hy)

end

theorem replaceFrom_dunderRow {t : Text} (ht : ∀ a ∈ t, a ∈ nameChars) (b : Option Char) :
    dunderRow.1.node.replaceFrom (dunderRow.2.apply dunderRow.1) b t = dropDunder t := by
  have hnode : dunderRow.1.node.consumes = true ∧ dunderRow.1.node.unmarked = true := by decide
  obtain ⟨hn, hunmarked⟩ := hnode
  have happly : ∀ m, dunderRow.2.apply dunderRow.1 m = "__".toList := fun m => Slot.expand_quoted _ m "__".toList
  fun_induction dropDunder t generalizing b with
  | case1 => exact replaceFrom_nil hn _ b
  | case2 c t h ih =>
    -- Eight characters are replaced.
    obtain ⟨u, hu⟩ := h
    have hlen : dunderWord.length = 8 := by decide
    have htake : ((c :: t).take 8).map Char.toLower = dunderWord := by
      rw [List.map_take, ← hu, ← hlen, List.take_left]
    have hmem : ∀ a ∈ (c :: t).take 8, a ∈ nameChars := fun a ha => ht a (List.mem_of_mem_take ha)
    have hmatch := (Captures.of_takes (takes_chars dunderWord_sound hmem htake (t.drop 7)) b).matchAt? hunmarked
    have hfound := replaceFrom_found hn (dunderRow.2.apply dunderRow.1) hmatch rfl
    rw [happly, ih (fun a ha => ht a (List.mem_cons_of_mem c (List.mem_of_mem_drop ha)))] at hfound
    rw [← hfound]
    exact congrArg _ (List.take_append_drop 8 (c :: t)).symm
  | case3 c t h ih =>
    have hdead : dunderRow.1.node.Dead (c :: t) := by
      intro p q hp hq
      exact h (hp ▸ leads_chars dunderWord_sound (hp ▸ ht) hq)
    have hmiss : dunderRow.1.node.Misses b [c] t :=
      DeadIn.misses (deadIn_cons_iff.mpr ⟨hdead, deadIn_nil _ _⟩) b
    have hskip := replaceFrom_misses hn (dunderRow.2.apply dunderRow.1) hmiss
    rw [ih (fun a ha => ht a (List.mem_cons_of_mem c ha))] at hskip
    exact hskip

end RuleTable

theorem dropDunder_append (t : Text) : dropDunder ("__dunder".toList ++ t) = "__".toList ++ dropDunder t := by
  have hstart : RuleTable.dunderWord <+: ("__dunder".toList ++ t).map Char.toLower := by
    have hlower : "__dunder".toList.map Char.toLower = RuleTable.dunderWord := by decide
    rw [List.map_append, hlower]
    exact List.prefix_append _ _
  have hcons : "__dunder".toList ++ t = '_' :: ("_dunder".toList ++ t) := rfl
  rw [hcons] at hstart ⊢
  rw [dropDunder, if_pos hstart]
  rfl

theorem length_dropDunder_le (t : Text) : (dropDunder t).length ≤ t.length := by
  fun_induction dropDunder t with
  | case1 => exact Nat.le_refl 0
  | case2 c t h ih =>
    have hlen : 8 ≤ (c :: t).length := by
      have := h.length_le
      rwa [List.length_map] at this
    simp only [List.length_append, List.length_drop, List.length_cons] at ih hlen ⊢
    have htwo : "__".toList.length = 2 := by decide
    omega
  | case3 c t h ih => simpa using ih

/-- A name is changed just if the word stands in it behind two low lines. -/
theorem dropDunder_eq_self_iff (t : Text) : dropDunder t = t ↔ ¬ RuleTable.dunderWord <:+: t.map Char.toLower := by
  fun_induction dropDunder t with
  | case1 =>
    refine iff_of_true rfl fun h => ?_
    have hlen : RuleTable.dunderWord.length = 8 := by decide
    have hle := h.length_le
    rw [hlen] at hle
    cases hle
  | case2 c t h ih =>
    have hlen : 8 ≤ (c :: t).length := by
      have := h.length_le
      rwa [List.length_map] at this
    have hle := length_dropDunder_le (t.drop 7)
    have htwo : "__".toList.length = 2 := by decide
    refine iff_of_false (fun heq => ?_) (not_not.mpr h.isInfix)
    have hsame := congrArg List.length heq
    simp only [List.length_append, List.length_drop, List.length_cons] at hle hlen hsame
    omega
  | case3 c t h ih =>
    rw [List.cons.injEq, List.map_cons, List.infix_cons_iff, not_or, ih]
    exact ⟨fun hrest => ⟨h, hrest.2⟩, fun hrest => ⟨rfl, hrest.2⟩⟩

theorem mem_dropDunder {t : Text} (ht : ∀ a ∈ t, a ∈ nameChars) : ∀ a ∈ dropDunder t, a ∈ nameChars := by
  have hlow : ∀ a ∈ "__".toList, a ∈ nameChars := by decide
  fun_induction dropDunder t with
  | case1 => nofun
  | case2 c t h ih =>
    intro a ha
    rcases List.mem_append.mp ha with ha | ha
    · exact hlow a ha
    · exact ih (fun b hb => ht b (List.mem_cons_of_mem c (List.mem_of_mem_drop hb))) a ha
  | case3 c t h ih =>
    intro a ha
    rcases List.mem_cons.mp ha with rfl | ha
    · exact ht a List.mem_cons_self
    · exact ih (fun b hb => ht b (List.mem_cons_of_mem c hb)) a ha

theorem dropDunder_ne_nil {t : Text} (ht : t ≠ []) : dropDunder t ≠ [] := by
  obtain ⟨c, u, rfl⟩ := List.exists_cons_of_ne_nil ht
  have htwo : "__".toList ≠ [] := by decide
  unfold dropDunder
  split
  · exact List.append_ne_nil_of_left_ne_nil htwo _
  · exact List.cons_ne_nil _ _

namespace NameFields

variable {ps : NameFields} (hps : ps.Valid)
include hps

theorem mem_name : ∀ a ∈ name ps, a ∈ nameChars := by
  intro a ha
  rcases mem_join ha with rfl | ⟨x, hx, ha⟩
  · exact List.mem_cons_self
  · obtain ⟨p, hp, rfl⟩ := List.mem_map.mp hx
    exact List.mem_cons_of_mem _ (mem_written (fun f hf => hps f (hf ▸ hp)) a ha)

theorem words_ne_nil (hne : ps.name ≠ []) : words ps ≠ [] := by
  intro hnil
  have htext := text_zero hps
  rw [hnil] at htext
  rcases (text_eq_nil_iff hps 0).mp htext with rfl | rfl
  · exact hne rfl
  · exact hne rfl

theorem mem_text_four : ∀ a ∈ text 4 ps, a ∈ '-' :: ' ' :: nameChars := by
  have hfield : ∀ p ∈ ps, ∀ a ∈ field 4 p, a ∈ '-' :: ' ' :: nameChars := by
    intro p hp a ha
    rw [field_four] at ha
    have hletter := mem_written (fun f hf => hps f (hf ▸ hp)) a ha
    exact List.mem_cons_of_mem _ (List.mem_cons_of_mem _ (List.mem_cons_of_mem _ hletter))
  have hunder : ∀ p, ∀ a ∈ under 4 p, a ∈ '-' :: ' ' :: nameChars := by
    have hcase : ∀ c : Casing, ∀ a ∈ c.gap ++ c.low, a ∈ '-' :: ' ' :: nameChars := by
      intro c
      cases c <;> decide
    have hnone : ∀ a ∈ Source.under, a ∈ '-' :: ' ' :: nameChars := by decide
    intro p
    rw [under_four]
    cases p with
    | none => exact hnone
    | some f => exact hcase f.casing
  induction ps with
  | nil => nofun
  | cons p ps ih =>
    cases ps with
    | nil => exact hfield p List.mem_cons_self
    | cons q ps =>
      have hmore := ih hps.tail fun p hp => hfield p (List.mem_cons_of_mem _ hp)
      intro a ha
      rw [text] at ha
      rcases List.mem_append.mp ha with ha | ha
      · exact (List.mem_append.mp ha).elim (hfield p List.mem_cons_self a) (hunder p a)
      · unfold spaced at ha
        split at ha
        · cases ha
        · rcases List.mem_cons.mp ha with rfl | ha
          · exact List.mem_cons_of_mem _ List.mem_cons_self
          · exact hmore a ha

end NameFields

theorem mem_marked {chars : List Char} (hchars : ∀ a ∈ Source.dunder ++ [' '], a ∈ chars) {t : Text}
    (ht : ∀ a ∈ t, a ∈ chars) (doubled : Bool) : ∀ a ∈ marked doubled t, a ∈ chars := by
  intro a ha
  cases doubled with
  | false => exact ht a ha
  | true =>
    have hsplit : marked true t = (Source.dunder ++ [' ']) ++ t := by
      rw [List.append_assoc]
      rfl
    rw [hsplit] at ha
    exact (List.mem_append.mp ha).elim (hchars a) (ht a)

namespace RuleTable

/-- The rule for a name between two words for doubled low lines. -/
def bracketRow : Pattern × Action :=
  (⟨sequence (literal "__dunder" ++ [someBlanks, anything, blanks] ++ literal "__dunder"), [some "next".toList]⟩,
    .function "dunder_wrap" .dunderWrap)

theorem rows_name : (rows.drop 20).take 5 = markerRows ∧ rows[58]? = some lowLine.row ∧
    (rows.drop 78).take 3 = [bracketRow, wrapRow, dunderRow] ∧
    (∀ r ∈ rows.take 20, idleOn NameFields.units triggerWords r.1.node = true) ∧
    (∀ r ∈ (rows.drop 25).take 33, lacks ('-' :: ' ' :: nameChars) r.1.node = true) ∧
    (∀ r ∈ (rows.drop 59).take 19, lacks (' ' :: nameChars) r.1.node = true) ∧
    ∀ r ∈ bracketRow :: wrapRow :: rows.drop 81, lacks nameChars r.1.node = true := by
  rw [spelledRows.2]
  decide +kernel

theorem bracketRow_rewrite {t : Text} (ht : ∀ a ∈ t, a ∈ nameChars) (hlacks : lacks nameChars bracketRow.1.node = true)
    (doubled : Bool) : rewrite bracketRow (marked doubled t) = marked doubled t := by
  have hn := (Bool.and_eq_true _ _ |>.mp hlacks).1
  have hmiss := misses_of_lacks hlacks ht
  refine rewrite_of_misses hn ?_
  cases doubled with
  | false => exact hmiss none
  | true =>
    -- The only blank stands behind the marker, which has no low lines.
    have hfirst : bracketRow.1.node = sequence (set (.counterpart '_') :: (literal "_dunder" ++
        [someBlanks, anything, blanks] ++ literal "__dunder")) := by decide
    have hbegins : bracketRow.1.node.Begins (.counterpart '_') := by
      intro c d hd
      rw [hfirst] at hd
      obtain ⟨e, hlow, _⟩ := leads_sequence_cons.mp hd
      exact Begins.set _ c e hlow
    have h := ((hbegins.deadIn dunder_apart (t ++ [])).misses none).append (hmiss _)
    rw [List.append_assoc] at h
    exact h

theorem foldl_dunderRows {t : Text} (hne : t ≠ []) (ht : ∀ a ∈ t, a ∈ nameChars)
    (hlacks : ∀ r ∈ [bracketRow, wrapRow], lacks nameChars r.1.node = true) (doubled : Bool) :
    [bracketRow, wrapRow, dunderRow].foldl (fun t r => rewrite r t) (marked doubled t) =
      dropDunder (wrapped doubled t) := by
  have hdrop : ∀ {t : Text}, (∀ a ∈ t, a ∈ nameChars) → rewrite dunderRow t = dropDunder t := fun ht => by
    rw [rewrite_eq]
    exact replaceFrom_dunderRow ht none
  have hbracket := bracketRow_rewrite ht (hlacks _ List.mem_cons_self) doubled
  simp only [List.foldl_cons, List.foldl_nil]
  rw [hbracket]
  cases doubled with
  | false =>
    have hwrap := hlacks wrapRow (by simp)
    have hsame : rewrite wrapRow t = t :=
      rewrite_of_misses (Bool.and_eq_true _ _ |>.mp hwrap).1 (misses_of_lacks hwrap ht none)
    change rewrite dunderRow (rewrite wrapRow t) = dropDunder t
    rw [hsame, hdrop ht]
  | true =>
    rw [rewrite_wrapRow hne ht, hdrop (mem_wrapped ht true)]

/-- The rules make a name of its words, but for the word `dunder` behind two low lines. -/
theorem apply_spokenName {ps : NameFields} (hps : ps.Valid) {doubled : Bool}
    (hdoubled : doubled = true → ∃ f qs, ps = some f :: qs) (hne : ps.name ≠ []) :
    shipped.apply (join [' '] (NameFields.spoken doubled ps)) = dropDunder (wrapped doubled ps.name) := by
  obtain ⟨hmarkers, hlow, hdunder, hidle, hlacks, hlacksLow, hlacksName⟩ := rows_name
  have hsplit : ∀ n m, rows.drop n = (rows.drop n).take m ++ rows.drop (n + m) := fun n m => by
    rw [← List.drop_drop, List.take_append_drop]
  have hname := NameFields.mem_name hps
  have hchars : ∀ a ∈ Source.dunder ++ [' '], a ∈ ' ' :: nameChars := by decide
  have hwrapped := mem_dropDunder (mem_wrapped hname doubled)
  rw [shipped_apply, show rows = rows.take 20 ++ rows.drop 20 from (List.take_append_drop 20 rows).symm,
    List.foldl_append, foldl_idleOn NameFields.units_sound.1 hidle (NameFields.spoken_cases hps doubled),
    ← NameFields.marked_text_zero hps (NameFields.words_ne_nil hps hne), hsplit 20 5, List.foldl_append, hmarkers,
    foldl_markerRows hps, hsplit 25 33, List.foldl_append,
    foldl_of_lacks hlacks (mem_marked (fun a ha => List.mem_cons_of_mem _ (hchars a ha))
      (NameFields.mem_text_four hps) doubled),
    drop_rows hlow (Nat.le_refl 58), Nat.sub_self, List.take_zero, List.nil_append, List.foldl_cons,
    rewrite_lowLine hps hdoubled, hsplit 59 19, List.foldl_append,
    foldl_of_lacks hlacksLow (mem_marked hchars (fun a ha => List.mem_cons_of_mem _ (hname a ha)) doubled),
    hsplit 78 3, List.foldl_append, hdunder,
    foldl_dunderRows hne hname (fun r hr => hlacksName r ?_) doubled]
  · exact foldl_of_lacks (fun r hr => hlacksName r (by simp [hr])) hwrapped
  · exact List.mem_append_left (rows.drop 81) hr

end RuleTable

end Dictation
