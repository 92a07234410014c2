import Dictation.Proofs.Text.Alphabet
import Dictation.Proofs.Source.Spoken
/-!
# Names of letters

The cues of a name that consists of letters and low lines. Its fields between low lines are cued one by
one; a field of letters is a single token, whose pieces are its words.
-/
namespace Dictation

namespace Combiners

variable {k : Combiners}

theorem categoryOf_small {a : Char} (ha : a ∈ smallLetters) (hk : k.has a = false) :
    k.categoryOf a = .letter .lower := by
  have hall : ∀ a ∈ smallLetters, ({} : Combiners).categoryOf a = .letter .lower := by decide
  have hnone : ∀ a ∈ smallLetters, ({} : Combiners).has a = false := by decide
  have h := hall a ha
  unfold categoryOf at h ⊢
  rw [hnone a ha] at h
  rw [hk]
  exact h

theorem categoryOf_capital {a : Char} (ha : a ∈ capitals) (hk : k.has a = false) :
    k.categoryOf a = .letter .upper := by
  have hall : ∀ a ∈ capitals, ({} : Combiners).categoryOf a = .letter .upper := by decide
  have hnone : ∀ a ∈ capitals, ({} : Combiners).has a = false := by decide
  have h := hall a ha
  unfold categoryOf at h ⊢
  rw [hnone a ha] at h
  rw [hk]
  exact h

/-- Whether a text consists of letters none of which is a combiner. -/
structure Letters (k : Combiners) (x : Text) : Prop where
  letters : ∀ a ∈ x, a ∈ asciiLetters
  uncombined : ∀ a ∈ x, k.has a = false

theorem runs_same {g : Category} {x : Text} (hne : x ≠ []) (h : ∀ a ∈ x, k.categoryOf a = g) :
    k.runs x = [⟨g, x⟩] := by
  induction x with
  | nil => exact absurd rfl hne
  | cons a x ih =>
    have ha := h a List.mem_cons_self
    cases x with
    | nil => rw [runs, ha, runs, Run.prepend]
    | cons b x =>
      have hmore := ih (List.cons_ne_nil b x) fun c hc => h c (List.mem_cons_of_mem a hc)
      rw [runs, ha, hmore, Run.prepend, if_pos rfl]

theorem mem_run {x : Text} {r : Run} (hr : r ∈ k.runs x) {a : Char} (ha : a ∈ r.text) :
    a ∈ x ∧ k.categoryOf a = r.category := by
  induction x generalizing r a with
  | nil => cases hr
  | cons c x ih =>
    have hlater : ∀ r ∈ k.runs x, ∀ a ∈ r.text, a ∈ c :: x ∧ k.categoryOf a = r.category := fun r hr a ha =>
      ⟨List.mem_cons_of_mem c (ih hr ha).1, (ih hr ha).2⟩
    rw [runs] at hr
    unfold Run.prepend at hr
    split at hr
    case h_1 =>
      rw [List.mem_singleton.mp hr] at ha ⊢
      rw [List.mem_singleton.mp ha]
      exact ⟨List.mem_cons_self, rfl⟩
    case h_2 first others hruns =>
      split at hr
      case isTrue hsame =>
        rcases List.mem_cons.mp hr with rfl | hr
        · rcases List.mem_cons.mp ha with rfl | ha
          · exact ⟨List.mem_cons_self, rfl⟩
          · obtain ⟨hmem, hcategory⟩ := hlater first (hruns ▸ List.mem_cons_self) a ha
            exact ⟨hmem, hcategory.trans hsame⟩
        · exact hlater r (hruns ▸ List.mem_cons_of_mem first hr) a ha
      case isFalse =>
        rcases List.mem_cons.mp hr with rfl | hr
        · rw [List.mem_singleton.mp ha]
          exact ⟨List.mem_cons_self, rfl⟩
        · exact hlater r (hruns ▸ hr) a ha

theorem flatMap_runs (x : Text) : (k.runs x).flatMap Run.text = x := by
  induction x with
  | nil => rfl
  | cons c x ih =>
    rw [runs]
    unfold Run.prepend
    split
    case h_1 hruns =>
      rw [hruns] at ih
      rw [← ih]
      rfl
    case h_2 first others hruns =>
      rw [hruns, List.flatMap_cons] at ih
      split
      case isTrue => simp [ih]
      case isFalse => simp [ih]

theorem Letters.category {x : Text} (hx : k.Letters x) {r : Run} (hr : r ∈ k.runs x) :
    r.category = .letter .upper ∨ r.category = .letter .lower := by
  obtain ⟨a, t, htext⟩ := List.exists_cons_of_ne_nil (text_ne_nil_of_mem_runs hr)
  obtain ⟨hmem, hcategory⟩ := mem_run hr (htext ▸ List.mem_cons_self)
  rw [← hcategory]
  rcases List.mem_append.mp (hx.letters a hmem) with ha | ha
  · exact .inr (categoryOf_small ha (hx.uncombined a hmem))
  · exact .inl (categoryOf_capital ha (hx.uncombined a hmem))

end Combiners

theorem Token.group_letters {rs : List Run} (hne : rs ≠ [])
    (h : ∀ r ∈ rs, r.category = .letter .upper ∨ r.category = .letter .lower) :
    group rs = [⟨rs⟩] := by
  induction rs with
  | nil => exact absurd rfl hne
  | cons r rs ih =>
    have hsplits : ∀ r' ∈ r :: rs, ∀ rest, splitsAt (r' :: rest) = false := by
      intro r' hr' rest
      rcases h r' hr' with hcase | hcase <;> simp [splitsAt, hcase, Category.splitsWords]
    rw [group, hsplits r List.mem_cons_self, Bool.false_or]
    cases rs with
    | nil => rfl
    | cons r' rs =>
      have hmore := ih (List.cons_ne_nil r' rs) fun r hr => h r (List.mem_cons_of_mem _ hr)
      rw [hsplits r' (by simp), hmore]
      rfl

theorem Piece.splitAfter_letters {rs : List Run} (hne : ∀ r ∈ rs, r.text ≠ [])
    (h : ∀ r ∈ rs, r.category = .letter .upper ∨ r.category = .letter .lower) (pending : Text) :
    ∃ ws : List Text, splitAfter pending rs = ws.map word ∧ ws.flatten = pending ++ rs.flatMap Run.text ∧ [] ∉ ws := by
  have hfinish : ∀ t : Text, ∃ ws : List Text, finish t = ws.map word ∧ ws.flatten = t ∧ [] ∉ ws := by
    intro t
    cases t with
    | nil => exact ⟨[], rfl, rfl, List.not_mem_nil⟩
    | cons a t => exact ⟨[a :: t], rfl, by simp, by simp⟩
  induction rs generalizing pending with
  | nil => simpa [splitAfter] using hfinish pending
  | cons r rs ih =>
    have ih := ih (fun r hr => hne r (List.mem_cons_of_mem _ hr)) fun r hr => h r (List.mem_cons_of_mem _ hr)
    unfold splitAfter
    rcases h r List.mem_cons_self with hr | hr <;> rw [hr]
    · obtain ⟨us, hus, husText, husNe⟩ := hfinish pending
      by_cases hcut : (startsLower rs && decide (1 < r.text.length)) = true
      · obtain ⟨ws, hws, htext, hwsNe⟩ := ih (r.text.drop (r.text.length - 1))
        have hlen : 1 < r.text.length := by simpa using (Bool.and_eq_true _ _ |>.mp hcut).2
        have hdrop : r.text.dropLast ++ r.text.drop (r.text.length - 1) = r.text := by
          rw [List.dropLast_eq_take, List.take_append_drop]
        refine ⟨us ++ r.text.dropLast :: ws, ?_, ?_, ?_⟩
        · simp only [hcut, if_true, hus, hws, List.map_append, List.map_cons]
        · rw [List.flatten_append, List.flatten_cons, husText, htext, List.flatMap_cons,
            ← List.append_assoc r.text.dropLast, hdrop]
        · have hlast : r.text.dropLast ≠ [] := by
            refine List.ne_nil_of_length_pos ?_
            rw [List.length_dropLast]
            omega
          simp [husNe, hwsNe, hlast.symm]
      · obtain ⟨ws, hws, htext, hwsNe⟩ := ih r.text
        refine ⟨us ++ ws, ?_, ?_, ?_⟩
        · simp only [hcut, Bool.false_eq_true, if_false, hus, hws, List.map_append]
        · simp [husText, htext]
        · simp [husNe, hwsNe]
    · obtain ⟨ws, hws, htext, hwsNe⟩ := ih (pending ++ r.text)
      exact ⟨ws, hws, by simp [htext], hwsNe⟩

namespace Cue

/-- The words between changes of case. -/
def caseWords (k : Combiners) (x : Text) : List Text := (Piece.split (k.runs x)).filterMap Piece.word?

theorem ofRunsAfter_letters {rs : List Run}
    (h : ∀ r ∈ rs, r.category = .letter .upper ∨ r.category = .letter .lower) (name : List Run) :
    ofRunsAfter name rs = ofName (name ++ rs) := by
  induction rs generalizing name with
  | nil => rw [ofRunsAfter, List.append_nil]
  | cons r rs ih =>
    have hr : r.category.isNamePart = true := by
      rcases h r List.mem_cons_self with hr | hr <;> rw [hr] <;> rfl
    rw [ofRunsAfter, if_pos hr, ih (fun r hr => h r (List.mem_cons_of_mem _ hr)), List.append_assoc]
    rfl

theorem ofText_letters {k : Combiners} {x : Text} (hne : x ≠ []) (hx : k.Letters x) :
    ofText k x = ofName (k.runs x) := by
  have hcategory : ∀ r ∈ k.runs x, r.category = .letter .upper ∨ r.category = .letter .lower :=
    fun r hr => hx.category hr
  obtain ⟨r, rs, hruns⟩ := List.exists_cons_of_ne_nil (runs_ne_nil (k := k) hne)
  have hr : r.category = .letter .upper ∨ r.category = .letter .lower :=
    hcategory r (hruns ▸ List.mem_cons_self)
  have hsplitting : Token.isSplitting ⟨k.runs x⟩ = false := by
    rw [hruns]
    cases rs with
    | nil => rcases hr with hr | hr <;> simp [Token.isSplitting, hr, Category.splitsWords]
    | cons r' rs => rfl
  have hdigit : startsWithDigit ⟨k.runs x⟩ = false := by
    rw [hruns]
    rcases hr with hr | hr <;> simp [startsWithDigit, hr]
  rw [ofText, Combiners.tokens, Token.group_letters (hruns ▸ List.cons_ne_nil r rs) hcategory,
    List.flatMap_singleton, ofToken, hsplitting, hdigit, if_neg Bool.false_ne_true, Bool.false_and]
  exact ofRunsAfter_letters hcategory []

theorem split_letters {k : Combiners} {x : Text} (hx : k.Letters x) :
    Piece.split (k.runs x) = (caseWords k x).map .word ∧ (caseWords k x).flatten = x ∧ [] ∉ caseWords k x := by
  have hsolid : ∀ r ∈ k.runs x, r.text ≠ [] := fun r hr => text_ne_nil_of_mem_runs hr
  obtain ⟨ws, hws, htext, hne⟩ := Piece.splitAfter_letters hsolid (fun r hr => hx.category hr) []
  have hsame : caseWords k x = ws := by
    rw [caseWords, Piece.split, hws, List.filterMap_map]
    exact List.filterMap_some
  rw [List.nil_append, Combiners.flatMap_runs] at htext
  rw [hsame]
  exact ⟨hws, htext, hne⟩

theorem ofText_eq {k : Combiners} {x : Text} (hne : x ≠ []) (hx : k.Letters x) :
    ofText k x = (markers (caseWords k x)).map fixed ++ (caseWords k x).map name := by
  have hcues : ∀ ws : List Text, (ws.map Piece.word).flatMap ofPiece = ws.map name := fun ws => by
    rw [List.flatMap_map, List.map_eq_flatMap]
    rfl
  rw [ofText_letters hne hx, ofName, (split_letters hx).1, hcues, ← (split_letters hx).1]
  rfl

end Cue

namespace Source

open Text

/-- Lists of fields with an empty field between any two lists. -/
def spread : List (List Text) → List Text
  | [] => []
  | [fs] => fs
  | fs :: rest => fs ++ [] :: spread rest

theorem spread_cons (f : Text) (fs : List Text) (rest : List (List Text)) :
    spread ((f :: fs) :: rest) = f :: spread (fs :: rest) := by
  cases rest with
  | nil => rfl
  | cons gs rest => rfl

theorem fields_eq_spread (name : Text) :
    fields '_' name = spread ((doubledFields name).map (fields '_')) := by
  fun_induction doubledFields name with
  | case1 => rfl
  | case2 => rfl
  | case3 c d rest h ih =>
    obtain ⟨rfl, rfl⟩ := h
    obtain ⟨f, fs, hparts, _⟩ := doubledFields_cases rest
    rw [hparts] at ih ⊢
    have htwice : fields '_' ('_' :: '_' :: rest) = [] :: [] :: fields '_' rest := by
      rw [fields, if_pos rfl, fields, if_pos rfl]
    rw [htwice, ih]
    rfl
  | case4 c d rest _ hparts _ =>
    obtain ⟨f, fs, hf, _⟩ := doubledFields_cases (d :: rest)
    rw [hparts] at hf
    cases hf
  | case5 c d rest h f fs hparts ih =>
    rw [hparts, List.map_cons] at ih
    rw [List.map_cons]
    by_cases hc : c = '_'
    · have hone : ∀ t, fields '_' (c :: t) = [] :: fields '_' t := fun t => by rw [fields, if_pos hc]
      rw [hone, hone, spread_cons, ih]
    · obtain ⟨g, gs, hg⟩ := List.exists_cons_of_ne_nil (fields_ne_nil '_' f)
      have hfields := ih
      rw [hg, spread_cons] at hfields
      rw [fields, if_neg hc, hfields, fields, if_neg hc, hg, spread_cons]

theorem joinCues_cons {between cues : List Cue} {ls : List (List Cue)} (h : ls ≠ []) :
    joinCues between (cues :: ls) = cues ++ between ++ joinCues between ls := by
  obtain ⟨l, ls, rfl⟩ := List.exists_cons_of_ne_nil h
  rfl

theorem joinCues_append {between : List Cue} {ls ms : List (List Cue)} (hls : ls ≠ []) (hms : ms ≠ []) :
    joinCues between (ls ++ ms) = joinCues between ls ++ between ++ joinCues between ms := by
  induction ls with
  | nil => exact absurd rfl hls
  | cons l ls ih =>
    cases ls with
    | nil => exact joinCues_cons hms
    | cons l' ls =>
      rw [List.cons_append, joinCues_cons (by simp), ih (List.cons_ne_nil l' ls),
        joinCues_cons (List.cons_ne_nil l' ls)]
      simp only [List.append_assoc]

/-- Empty fields have no cues, so doubled low lines need not be told apart from single ones. -/
theorem joinCues_spread (c : Cue) {f : Text → List Cue} (hf : f [] = []) {fss : List (List Text)}
    (hfss : ∀ fs ∈ fss, fs ≠ []) :
    joinCues [c] ((spread fss).map f) = joinCues [c, c] (fss.map fun fs => joinCues [c] (fs.map f)) := by
  induction fss with
  | nil => rfl
  | cons fs fss ih =>
    have hmore := ih fun gs hgs => hfss gs (List.mem_cons_of_mem fs hgs)
    cases fss with
    | nil => rfl
    | cons gs fss =>
      obtain ⟨g, gs, rfl⟩ := List.exists_cons_of_ne_nil (hfss gs (by simp))
      have hspread : spread ((g :: gs) :: fss) ≠ [] := by simp [spread_cons]
      have hfs : fs.map f ≠ [] := by simpa using hfss fs List.mem_cons_self
      rw [List.map_cons, joinCues_cons (by simp), ← hmore]
      change joinCues [c] ((fs ++ [] :: spread ((g :: gs) :: fss)).map f) = _
      rw [List.map_append, joinCues_append hfs (by simp), List.map_cons, joinCues_cons (by simpa using hspread), hf]
      simp only [List.append_assoc, List.nil_append, List.cons_append]

theorem fragmentCues_eq (k : Combiners) (name : Text) :
    fragmentCues k name = joinCues [.fixed under] ((fields '_' name).map (Cue.ofText k)) := by
  rw [fields_eq_spread, joinCues_spread (.fixed under) rfl fun fs hfs => ?_, fragmentCues, List.map_map]
  · rfl
  · obtain ⟨part, _, rfl⟩ := List.mem_map.mp hfs
    exact fields_ne_nil '_' part

theorem fields_letters {k : Combiners} {x : Text} (hx : k.Letters x) : fields '_' x = [x] := by
  induction x with
  | nil => rfl
  | cons a x ih =>
    have hlow : '_' ∉ asciiLetters := by decide
    have ha : a ≠ '_' := fun h => hlow (h ▸ hx.letters a List.mem_cons_self)
    have hmore : k.Letters x := ⟨fun b hb => hx.letters b (List.mem_cons_of_mem a hb),
      fun b hb => hx.uncombined b (List.mem_cons_of_mem a hb)⟩
    rw [fields, if_neg ha, ih hmore]

/-- A name in doubled low lines that no further low line touches. -/
theorem dunderInner?_eq_some_iff {n inner : Text} :
    dunderInner? n = some inner ↔ n = "__".toList ++ inner ++ "__".toList ∧ inner ≠ [] ∧
      inner.head? ≠ some '_' ∧ inner.getLast? ≠ some '_' := by
  have htwo : "__".toList = ['_', '_'] := by decide
  constructor
  · intro h
    unfold dunderInner? at h
    dsimp only at h
    split at h
    case isFalse => cases h
    case isTrue hdoubled =>
      obtain ⟨hlen, hfirst, hlast, hhead, hend⟩ := hdoubled
      cases h
      refine ⟨?_, ?_, hhead, hend⟩
      · have hrest : (n.drop 2).drop (n.length - 4) = ['_', '_'] := by
          rw [List.drop_drop, ← hlast]
          congr 1
          omega
        calc n = n.take 2 ++ n.drop 2 := (List.take_append_drop 2 n).symm
          _ = n.take 2 ++ ((n.drop 2).take (n.length - 4) ++ (n.drop 2).drop (n.length - 4)) :=
            congrArg _ (List.take_append_drop _ _).symm
          _ = "__".toList ++ (n.drop 2).take (n.length - 4) ++ "__".toList := by
            rw [hfirst, hrest, htwo, List.append_assoc]
      · refine List.ne_nil_of_length_pos ?_
        rw [List.length_take, List.length_drop]
        omega
  · rintro ⟨rfl, hne, hhead, hend⟩
    have hpos := List.length_pos_iff.mpr hne
    have hinner : (("__".toList ++ inner ++ "__".toList).drop 2).take
        (("__".toList ++ inner ++ "__".toList).length - 4) = inner := by
      simp [htwo]
    unfold dunderInner?
    dsimp only
    rw [hinner, if_pos]
    refine ⟨?_, ?_, ?_, hhead, hend⟩
    · simp [htwo]
      omega
    · simp [htwo]
    · simp [htwo]

theorem identifierCues_letters {k : Combiners} {x : Text} (hne : x ≠ []) (hx : k.Letters x) :
    identifierCues k x = (Cue.markers (Cue.caseWords k x)).map .fixed ++ (Cue.caseWords k x).map .name := by
  have hlow : '_' ∉ asciiLetters := by decide
  have hinner : dunderInner? x = none := by
    unfold dunderInner?
    refine if_neg fun h => ?_
    obtain ⟨a, y, rfl⟩ := List.exists_cons_of_ne_nil hne
    obtain ⟨rfl, _⟩ := List.cons.inj h.2.1
    exact hlow (hx.letters _ List.mem_cons_self)
  rw [identifierCues, hinner, fragmentCues_eq, fields_letters hx, ← Cue.ofText_eq hne hx]
  rfl

end Source

end Dictation
