import Dictation.Text.Basic
/-!
# Fields

A text is its fields with the separator between them, and texts that are joined may themselves be
joined from fields.
-/
namespace Dictation.Text

theorem fields_ne_nil (sep : Char) (t : Text) : fields sep t ≠ [] := by
  cases t with
  | nil => exact List.cons_ne_nil _ _
  | cons c t =>
    unfold fields
    split
    · exact List.cons_ne_nil _ _
    · split
      · exact List.cons_ne_nil _ _
      · exact List.cons_ne_nil _ _

theorem join_cons {sep t : Text} {ts : List Text} (h : ts ≠ []) :
    join sep (t :: ts) = t ++ sep ++ join sep ts := by
  obtain ⟨u, us, rfl⟩ := List.exists_cons_of_ne_nil h
  rfl

theorem join_fields (sep : Char) (t : Text) : join [sep] (fields sep t) = t := by
  induction t with
  | nil => rfl
  | cons c t ih =>
    have hne := fields_ne_nil sep t
    unfold fields
    split
    case isTrue hc =>
      subst hc
      rw [join_cons hne, ih]
      rfl
    case isFalse hc =>
      obtain ⟨f, fs, hf⟩ := List.exists_cons_of_ne_nil hne
      rw [hf] at ih ⊢
      cases fs with
      | nil => exact congrArg (c :: ·) ih
      | cons g fs => exact congrArg (c :: ·) ih

theorem fields_append (sep : Char) (t u : Text) : fields sep (t ++ sep :: u) = fields sep t ++ fields sep u := by
  induction t with
  | nil =>
    change fields sep (sep :: u) = [] :: fields sep u
    rw [fields, if_pos rfl]
  | cons c t ih =>
    rw [List.cons_append]
    by_cases hc : c = sep
    · rw [fields, if_pos hc, fields, if_pos hc, ih]
      rfl
    · obtain ⟨f, fs, hf⟩ := List.exists_cons_of_ne_nil (fields_ne_nil sep t)
      rw [fields, if_neg hc, ih, hf, fields, if_neg hc, hf]
      rfl

theorem fields_of_not_mem {sep : Char} {t : Text} (h : sep ∉ t) : fields sep t = [t] := by
  induction t with
  | nil => rfl
  | cons c t ih =>
    simp only [List.mem_cons, not_or] at h
    rw [fields, if_neg (Ne.symm h.1), ih h.2]

theorem mem_fields {sep : Char} {t x : Text} (hx : x ∈ fields sep t) {a : Char} (ha : a ∈ x) : a ∈ t ∧ a ≠ sep := by
  induction t generalizing x a with
  | nil =>
    rw [List.mem_singleton.mp hx] at ha
    cases ha
  | cons c t ih =>
    by_cases hc : c = sep
    · rw [fields, if_pos hc] at hx
      rcases List.mem_cons.mp hx with rfl | hx
      · cases ha
      · exact ⟨List.mem_cons_of_mem c (ih hx ha).1, (ih hx ha).2⟩
    · obtain ⟨f, fs, hf⟩ := List.exists_cons_of_ne_nil (fields_ne_nil sep t)
      rw [hf] at ih
      rw [fields, if_neg hc, hf] at hx
      rcases List.mem_cons.mp hx with rfl | hx
      · rcases List.mem_cons.mp ha with rfl | ha
        · exact ⟨List.mem_cons_self, hc⟩
        · exact ⟨List.mem_cons_of_mem c (ih List.mem_cons_self ha).1, (ih List.mem_cons_self ha).2⟩
      · have hlater := ih (List.mem_cons_of_mem f hx) ha
        exact ⟨List.mem_cons_of_mem c hlater.1, hlater.2⟩

theorem length_le_join (sep : Text) {ts : List Text} {t : Text} (h : t ∈ ts) :
    t.length ≤ (join sep ts).length := by
  induction ts with
  | nil => cases h
  | cons u us ih =>
    by_cases hus : us = []
    · subst hus
      simp [List.mem_singleton.mp h, join]
    · simp only [join_cons hus, List.length_append]
      rcases List.mem_cons.mp h with rfl | h
      · omega
      · have := ih h
        omega

theorem length_lt_join {sep : Text} (hsep : sep ≠ []) {u : Text} {us : List Text} (hus : us ≠ []) {t : Text}
    (h : t ∈ u :: us) : t.length < (join sep (u :: us)).length := by
  have hpos := List.length_pos_iff.mpr hsep
  simp only [join_cons hus, List.length_append]
  rcases List.mem_cons.mp h with rfl | h
  · omega
  · have := length_le_join sep h
    omega

theorem join_append {sep : Text} {ts us : List Text} (hts : ts ≠ []) (hus : us ≠ []) :
    join sep (ts ++ us) = join sep ts ++ sep ++ join sep us := by
  induction ts with
  | nil => exact absurd rfl hts
  | cons t ts ih =>
    cases ts with
    | nil => exact join_cons hus
    | cons t' ts =>
      have hne : (t' :: ts) ++ us ≠ [] := List.cons_ne_nil t' (ts ++ us)
      rw [List.cons_append, join_cons hne, join_cons (List.cons_ne_nil t' ts),
        ih (List.cons_ne_nil t' ts)]
      simp only [List.append_assoc]

theorem join_flatMap_fields (sep : Char) (ts : List Text) :
    join [sep] (ts.flatMap (fields sep)) = join [sep] ts := by
  induction ts with
  | nil => rfl
  | cons t ts ih =>
    rw [List.flatMap_cons]
    cases ts with
    | nil =>
      rw [List.flatMap_nil, List.append_nil, join_fields]
      rfl
    | cons t' ts =>
      have hne : (t' :: ts).flatMap (fields sep) ≠ [] := by
        rw [List.flatMap_cons]
        exact List.append_ne_nil_of_left_ne_nil (fields_ne_nil sep t') _
      rw [join_append (fields_ne_nil sep t) hne, ih, join_fields,
        join_cons (List.cons_ne_nil t' ts)]

end Dictation.Text
