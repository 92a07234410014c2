import Dictation.Proofs.Rewrite.IdleRules
import Dictation.Proofs.Unicode.Folding
/-!
# Words that are spelled out

The first rule puts marks around the characters of a word that is spelled out, and the last one takes them
away. In between, every other character of the text is a mark. No rule reads two characters in a row neither
of which is a mark, and none asks for a mark, so that the rules in between find nothing.
-/
namespace Dictation

open Node Text ActionFunction

/-- Marks and other characters take turns; `marked` says that a mark comes next. -/
inductive Alternates : Bool → Text → Prop where
  | nil (marked : Bool) : Alternates marked []
  | mark {t : Text} (h : Alternates false t) : Alternates true (spellMark :: t)
  | other {c : Char} {t : Text} (hc : c ≠ spellMark) (h : Alternates true t) : Alternates false (c :: t)

theorem Alternates.of_append {x t : Text} {marked : Bool} (h : Alternates marked (x ++ t)) :
    ∃ marked', Alternates marked' t := by
  induction x generalizing marked with
  | nil => exact ⟨marked, h⟩
  | cons c x ih =>
    cases h with
    | mark h => exact ih h
    | other _ h => exact ih h

namespace Node

/-- Whether a node leads nowhere where marks and other characters take turns, if what follows it says so
for what comes next there. -/
def trips : Node → (Bool → Bool) → Bool → Bool
  | empty, k, marked | assertion _, k, marked | mark _, k, marked => k marked
  | set s, k, marked => if marked then !s.contains spellMark || k false else k true
  | group _ body, k, marked => body.trips k marked
  | seq a b, k, marked => a.trips (b.trips k) marked
  | alt a b, k, marked => a.trips k marked && b.trips k marked
  | opt _ body, k, marked => body.trips k marked && k marked
  | star _ _ _, k, _ => k true && k false
  | plus _ _ body, k, marked => body.trips (fun _ => k true && k false) marked

theorem trips_sound {n : Node} {k : Bool → Bool} {marked : Bool} (hn : n.trips k marked = true)
    {c d : Cursor} (hc : Alternates marked c.rest) (h : n.Leads c d) :
    ∃ marked', k marked' = true ∧ Alternates marked' d.rest := by
  -- Behind a repetition nothing is known of what comes next.
  have hany : ∀ {m : Node} {k : Bool → Bool} {marked : Bool} {c d : Cursor},
      (k true && k false) = true → Alternates marked c.rest → m.Leads c d →
      ∃ marked', k marked' = true ∧ Alternates marked' d.rest := by
    intro m k marked c d hk hc h
    obtain ⟨x, hx, _⟩ := h.reads
    rw [hx.rest_eq] at hc
    obtain ⟨marked', hd⟩ := hc.of_append
    obtain ⟨htrue, hfalse⟩ := Bool.and_eq_true _ _ |>.mp hk
    cases marked' with
    | true => exact ⟨true, htrue, hd⟩
    | false => exact ⟨false, hfalse, hd⟩
  induction n generalizing k marked c d with
  | empty =>
    cases h
    exact ⟨marked, hn, hc⟩
  | set s =>
    obtain ⟨a, ha, hreads⟩ := Cursor.reads_consume? h
    rw [hreads.rest_eq] at hc
    cases hc with
    | mark hd =>
      simp only [trips, ha, if_true, Bool.not_true, Bool.false_or] at hn
      exact ⟨false, hn, hd⟩
    | other _ hd => exact ⟨true, hn, hd⟩
  | assertion a =>
    obtain ⟨_, rfl⟩ := h
    exact ⟨marked, hn, hc⟩
  | group i body ih =>
    obtain ⟨e, hlead, rfl⟩ := h
    obtain ⟨marked', hk, he⟩ := ih hn hc hlead
    exact ⟨marked', hk, he⟩
  | seq a b iha ihb =>
    obtain ⟨e, ha, hb⟩ := h
    obtain ⟨marked', hnext, he⟩ := iha hn hc ha
    exact ihb hnext he hb
  | alt a b iha ihb =>
    obtain ⟨hna, hnb⟩ := Bool.and_eq_true _ _ |>.mp hn
    rcases h with h | h
    · exact iha hna hc h
    · exact ihb hnb hc h
  | opt greedy body ih =>
    obtain ⟨hbody, hk⟩ := Bool.and_eq_true _ _ |>.mp hn
    rcases h with rfl | h
    · exact ⟨marked, hk, hc⟩
    · exact ih hbody hc h
  | star m greedy body ih => exact hany hn hc h
  | plus m greedy body ih =>
    obtain ⟨e, ⟨e', hlead, _⟩, _⟩ := Relation.TransGen.head'_iff.mp h
    obtain ⟨_, hk, _⟩ := ih hn hc hlead
    exact hany hk hc h
  | mark m =>
    have hreads := Cursor.reads_pass? h
    rw [hreads.rest_eq] at hc
    exact ⟨marked, hn, hc⟩

/-- Whether a pattern finds nothing where marks and other characters take turns. -/
def tripsAnywhere (n : Node) : Bool :=
  n.consumes && (n.trips (fun _ => false) true && n.trips (fun _ => false) false)

theorem misses_of_trips {n : Node} (hn : n.tripsAnywhere = true) {marked : Bool} {t : Text}
    (ht : Alternates marked t) (b : Option Char) : n.Misses b t [] := by
  apply DeadIn.misses
  intro y a z hyz c d hc hd
  rw [hyz] at ht
  obtain ⟨marked', hrest⟩ := ht.of_append
  rw [← List.append_nil (a :: z), List.cons_append, ← hc] at hrest
  obtain ⟨htrue, hfalse⟩ := Bool.and_eq_true _ _ |>.mp (Bool.and_eq_true _ _ |>.mp hn).2
  have hnone : n.trips (fun _ => false) marked' = true := by
    cases marked' with
    | true => exact htrue
    | false => exact hfalse
  obtain ⟨_, hk, _⟩ := trips_sound hnone hrest hd
  cases hk

/-- Where a word of a text with single blanks can stand: at the start or behind a blank, and in front of the
end or a blank. -/
structure Framed (b : Option Char) (rest : Text) : Prop where
  before : ∀ a ∈ b, a = ' '
  behind : ∀ a ∈ rest.head?, a = ' '

theorem replaceFrom_join {n : Node} (hn : n.consumes = true) {f : Match → Text} {g h : Text → Text}
    {ws : List Text} (hblank : n.leftovers [' '] = some [])
    (hmatch : ∀ w ∈ ws, ∀ b rest, Framed b rest →
      ∃ m, n.matchAt? b (g w ++ rest) = some m ∧ m.text = g w ∧ f m = h w) :
    n.replaceFrom f none (join [' '] (ws.map g)) = join [' '] (ws.map h) := by
  have hmore : ∀ us : List Text, (∀ w ∈ us, w ∈ ws) → ∀ b : Option Char,
      n.replaceFrom f b (us.flatMap fun w => ' ' :: g w) = us.flatMap fun w => ' ' :: h w := by
    intro us
    induction us with
    | nil => exact fun _ b => replaceFrom_nil hn f b
    | cons w us ih =>
      intro hus b
      have hdead : n.Misses b [' '] (g w ++ us.flatMap fun w => ' ' :: g w) := by
        apply DeadIn.misses
        refine deadIn_cons_iff.mpr ⟨?_, deadIn_nil _ _⟩
        intro c d hc hd
        exact not_leads_of_leftovers (t := [' ']) hblank hc d hd
      have hframed : Framed (some ' ') (us.flatMap fun w => ' ' :: g w) := by
        refine ⟨by simp, ?_⟩
        cases us <;> simp
      obtain ⟨m, hm, htext, hf⟩ := hmatch w (hus w List.mem_cons_self) _ _ hframed
      have hrest := ih (fun v hv => hus v (List.mem_cons_of_mem w hv))
      simp only [List.flatMap_cons]
      rw [List.cons_append, ← List.singleton_append (l := g w ++ _), replaceFrom_misses hn f hdead]
      rw [show lastOf b [' '] = some ' ' from rfl, replaceFrom_found hn f hm htext, hf, hrest]
      simp
  cases ws with
  | nil => exact replaceFrom_nil hn f none
  | cons w ws =>
    have hframed : Framed none (ws.flatMap fun w => ' ' :: g w) := by
      refine ⟨by simp, ?_⟩
      cases ws <;> simp
    obtain ⟨m, hm, htext, hf⟩ := hmatch w List.mem_cons_self _ _ hframed
    have hrest := hmore ws (fun v hv => List.mem_cons_of_mem w hv)
    rw [List.map_cons, List.map_cons, join_eq_flatMap, join_eq_flatMap, List.flatMap_map, List.flatMap_map,
      replaceFrom_found hn f hm htext, hf, hrest]

end Node

/-- A word with marks around its characters. -/
def veil (w : Text) : Text := spellMark :: w.flatMap fun c => [c, spellMark]

/-- Words that are spelled out, as they are spoken. -/
def spokenOut (ws : List Text) : Text := join [' '] (ws.map ("spell out ".toList ++ ·))

/-- Words that are spelled out, as the rules see them. -/
def veiled (ws : List Text) : Text := join [' '] (ws.map veil)

theorem filter_veil {w : Text} (hw : spellMark ∉ w) : (veil w).filter (· ≠ spellMark) = w := by
  unfold veil
  rw [List.filter_cons_of_neg (by simp)]
  induction w with
  | nil => rfl
  | cons c w ih =>
    simp only [List.mem_cons, not_or] at hw
    have hc : c ≠ spellMark := fun h => hw.1 h.symm
    simpa [hc] using ih hw.2

theorem alternates_veil {w t : Text} (hw : spellMark ∉ w) (ht : Alternates false t) :
    Alternates true (veil w ++ t) := by
  refine .mark ?_
  induction w with
  | nil => exact ht
  | cons c w ih =>
    simp only [List.mem_cons, not_or] at hw
    exact .other (fun h => hw.1 h.symm) (.mark (ih hw.2))

theorem alternates_veiled {ws : List Text} (hws : ∀ w ∈ ws, spellMark ∉ w) : Alternates true (veiled ws) := by
  have hmore : ∀ us : List Text, (∀ w ∈ us, spellMark ∉ w) →
      Alternates false (us.flatMap fun w => ' ' :: veil w) := by
    intro us hus
    induction us with
    | nil => exact .nil false
    | cons w us ih =>
      have hrest := ih fun v hv => hus v (List.mem_cons_of_mem w hv)
      rw [List.flatMap_cons]
      exact .other (by decide) (alternates_veil (hus w List.mem_cons_self) hrest)
  cases ws with
  | nil => exact .nil true
  | cons w ws =>
    unfold veiled
    rw [List.map_cons, join_eq_flatMap, List.flatMap_map]
    exact alternates_veil (hws w List.mem_cons_self) (hmore ws fun v hv => hws v (List.mem_cons_of_mem w hv))

namespace RuleTable

def veilRow : Pattern × Action :=
  (⟨sequence (bound :: literal "spell out" ++ [someBlanks, group 1 (plus none true (set (.compl .space)))]),
    [some "word".toList]⟩, .function "spell_out_escape" .spellOutEscape)

theorem matchAt?_spellOut {w : Text} (hw : isSolid w = true) {b : Option Char} {rest : Text}
    (h : Framed b rest) :
    veilRow.1.node.matchAt? b ("spell out ".toList ++ w ++ rest) =
      some ⟨"spell out ".toList ++ w, [(1, w)]⟩ := by
  have hne := ne_nil_of_isSolid hw
  have hword : ∀ a ∈ w, (CharSet.compl .space).contains a = true := by
    intro a ha
    simp [CharSet.contains, isBlank_of_isSolid hw ha]
  have hend : ∀ a ∈ rest.head?, (CharSet.compl .space).contains a = false := by
    intro a ha
    rw [h.behind a ha]
    decide
  have hstart : Assertion.holds (.boundary .unicode) b ("spell out".toList ++ ([' '] ++ w) ++ rest) = true := by
    apply boundary_before
    · intro a ha
      rw [h.before a ha]
      decide
    · exact ⟨'s', rfl, by decide⟩
  have hletters : (sequence (literal "spell out")).Captures b "spell out".toList [] ([' '] ++ w ++ rest) :=
    .of_takes (Takes.of_leftovers (by decide) (by decide) _) _
  have hblank : ∀ a ∈ (w ++ rest).head?, Unicode.isBlank a = false := by
    obtain ⟨a, x, rfl⟩ := List.exists_cons_of_ne_nil hne
    intro a' ha'
    cases ha'
    exact isBlank_of_isSolid hw List.mem_cons_self
  have hgroup : (group 1 (plus none true (set (.compl .space)))).Captures (some ' ') w [(1, w)] rest :=
    .group (.of_takes (Takes.many hne hword hend) _) 1
  have htail : (sequence [someBlanks, group 1 (plus none true (set (.compl .space)))]).Captures
      (lastOf b "spell out".toList) ([' '] ++ w) [(1, w)] rest :=
    .seq (.of_takes (takes_space hblank) _) hgroup
  have hall := Captures.sequence_cons (.assertion hstart) (.sequence_append hletters htail)
  exact hall.matchAt? (by decide)

theorem rewrite_veilRow {ws : List Text} (hws : ∀ w ∈ ws, isSolid w = true) :
    rewrite veilRow (spokenOut ws) = veiled ws := by
  rw [rewrite_eq]
  apply replaceFrom_join (by decide) (by decide)
  intro w hw b rest hframed
  exact ⟨_, matchAt?_spellOut (hws w hw) hframed, rfl, rfl⟩

def veilable : CharSet := .compl (.folded (.union (.one '\ue000') .space))

def unveilRow : Pattern × Action :=
  (⟨seq (set (.counterpart '\ue000')) (plus none true (seq (set veilable) (set (.counterpart '\ue000')))), []⟩,
    .function "spell_out_unescape" .spellOutUnescape)

theorem veilable_contains {c : Char} (hc : Unicode.isBlank c = false) (hmark : c ≠ spellMark) :
    veilable.contains c = true := by
  have hstands : ∀ d, (CharSet.union (.one '\ue000') .space).contains d = true →
      isUnfolded d = true ∧ d ≠ c := by
    intro d hd
    rw [CharSet.contains, Bool.or_eq_true, CharSet.contains_one] at hd
    rcases hd with rfl | hblank
    · exact ⟨by decide +kernel, Ne.symm hmark⟩
    · refine ⟨isUnfolded_of_isBlank hblank, ?_⟩
      rintro rfl
      exact Bool.false_ne_true (hc.symm.trans hblank)
  cases h : (CharSet.folded (.union (.one '\ue000') .space)).contains c with
  | false =>
    rw [veilable, CharSet.contains, h]
    rfl
  | true =>
    rw [CharSet.contains, Bool.or_eq_true, List.any_eq_true] at h
    rcases h with h | ⟨d, hd, h⟩
    · exact absurd rfl (hstands c h).2
    · exact absurd (eq_of_mem_counterparts (hstands d h).1 hd).symm (hstands d h).2

theorem matchAt?_veil {w : Text} (hw : isSolid w = true) (hmark : spellMark ∉ w) {b : Option Char}
    {rest : Text} (h : Framed b rest) : unveilRow.1.node.matchAt? b (veil w ++ rest) = some ⟨veil w, []⟩ := by
  obtain ⟨c, cs, rfl⟩ := List.exists_cons_of_ne_nil (ne_nil_of_isSolid hw)
  have hone : (CharSet.counterpart '\ue000').contains spellMark = true := by decide
  have hpair : ∀ a ∈ c :: cs, ∀ t, (seq (set veilable) (set (.counterpart '\ue000'))).Takes [a, spellMark] t := by
    intro a ha t
    have hveilable := veilable_contains (isBlank_of_isSolid hw ha) fun heq => hmark (heq ▸ ha)
    exact .seq (.one hveilable _) (.one hone _)
  have hdead : (seq (set veilable) (set (.counterpart '\ue000'))).Dead rest := by
    apply (Begins.set veilable).seq.dead
    intro a ha
    rw [h.behind a ha]
    decide +kernel
  have hpairs : (plus none true (seq (set veilable) (set (.counterpart '\ue000')))).Takes
      ((c :: cs).flatMap fun a => [a, spellMark]) rest := by
    apply takes_plus (by decide) hdead (by simp)
    intro a as has
    exact hpair a (has.subset List.mem_cons_self) _
  have hall := Captures.of_takes (Takes.seq (.one hone _) hpairs) b
  exact hall.matchAt? (by decide)

theorem rewrite_unveilRow {ws : List Text} (hws : ∀ w ∈ ws, isSolid w = true ∧ spellMark ∉ w) :
    rewrite unveilRow (veiled ws) = join [' '] ws := by
  rw [rewrite_eq]
  refine (replaceFrom_join (h := id) (by decide) (by decide +kernel) ?_).trans (by rw [List.map_id])
  intro w hw b rest hframed
  obtain ⟨hsolid, hmark⟩ := hws w hw
  exact ⟨_, matchAt?_veil hsolid hmark hframed, rfl, filter_veil hmark⟩

theorem rows_eq_veil : rows = veilRow :: rows.tail.dropLast ++ [unveilRow] := by
  have hhead : veilRow ∈ rows.head? := by decide +kernel
  have hlast : unveilRow ∈ rows.tail.getLast? := by decide +kernel
  rw [List.cons_append, List.dropLast_append_getLast? _ hlast, List.cons_head?_tail hhead]

/-- No rule between the first and the last finds anything where marks and other characters take turns. -/
theorem between_trips : ∀ r ∈ rows.tail.dropLast, r.1.node.tripsAnywhere = true := by
  rw [spelledRows.2]
  decide +kernel

theorem rewrite_between {r : Pattern × Action} (hr : r ∈ rows.tail.dropLast) {ws : List Text}
    (hws : ∀ w ∈ ws, spellMark ∉ w) : rewrite r (veiled ws) = veiled ws := by
  have htrips := between_trips r hr
  apply rewrite_of_misses (Bool.and_eq_true _ _ |>.mp htrips).1
  exact misses_of_trips htrips (alternates_veiled hws) none

/-- Words that are spelled out are typed as they are. The first rule hides them, those up to the last one
leave the hidden words alone one by one, and the last one shows the words again. -/
theorem shipped_apply_spokenOut {ws : List Text} (hws : ∀ w ∈ ws, isSolid w = true ∧ spellMark ∉ w) :
    (∃ r ∈ shipped.rules.head?, r.apply (spokenOut ws) = veiled ws) ∧
      (∀ r ∈ shipped.rules.tail.dropLast, r.apply (veiled ws) = veiled ws) ∧
      (∃ r ∈ shipped.rules.getLast?, r.apply (veiled ws) = join [' '] ws) ∧
      shipped.apply (spokenOut ws) = join [' '] ws := by
  have hfirst := rewrite_veilRow fun w hw => (hws w hw).1
  have hbetween : ∀ r ∈ rows.tail.dropLast, rewrite r (veiled ws) = veiled ws := fun r hr =>
    rewrite_between hr fun w hw => (hws w hw).2
  have hlast := rewrite_unveilRow hws
  have hhead : shipped.rules.head?.map (fun r => (r.pattern, r.action)) = some veilRow := by
    rw [← List.head?_map, shipped_rows, rows_eq_veil]
    rfl
  have hend : shipped.rules.getLast?.map (fun r => (r.pattern, r.action)) = some unveilRow := by
    rw [← List.getLast?_map, shipped_rows, rows_eq_veil, List.getLast?_concat]
  refine ⟨?_, ?_, ?_, ?_⟩
  · obtain ⟨r, hr, hrow⟩ := Option.map_eq_some_iff.mp hhead
    exact ⟨r, hr, (congrArg (rewrite · (spokenOut ws)) hrow).trans hfirst⟩
  · intro r hr
    refine hbetween (r.pattern, r.action) ?_
    rw [← shipped_rows, ← List.map_tail, ← List.map_dropLast]
    exact List.mem_map_of_mem hr
  · obtain ⟨r, hr, hrow⟩ := Option.map_eq_some_iff.mp hend
    exact ⟨r, hr, (congrArg (rewrite · (veiled ws)) hrow).trans hlast⟩
  · calc shipped.apply (spokenOut ws)
        = (veilRow :: rows.tail.dropLast ++ [unveilRow]).foldl (fun t r => rewrite r t) (spokenOut ws) := by
          rw [shipped_apply, ← rows_eq_veil]
      _ = rewrite unveilRow (rows.tail.dropLast.foldl (fun t r => rewrite r t) (veiled ws)) := by
          rw [List.foldl_concat, List.foldl_cons, hfirst]
      _ = join [' '] ws := by rw [foldl_eq_self hbetween, hlast]

/-- Words that are spelled out may be those that rules are about. -/
theorem shipped_apply_spokenOut_cap :
    let ws := ["cap", "__dunder", "three", ".dot"].map String.toList
    (∀ w ∈ ws, isSolid w = true ∧ spellMark ∉ w) ∧
      shipped.apply "spell out cap spell out __dunder spell out three spell out .dot".toList =
        "cap __dunder three .dot".toList := by
  intro ws
  have hws : ∀ w ∈ ws, isSolid w = true ∧ spellMark ∉ w := by decide
  have hspoken : "spell out cap spell out __dunder spell out three spell out .dot".toList = spokenOut ws := by
    decide
  rw [hspoken]
  exact ⟨hws, (shipped_apply_spokenOut hws).2.2.2⟩

end RuleTable

end Dictation
