import Dictation.Files.Inputs
import Dictation.Proofs.Files.Tasks
import Dictation.Proofs.Text.Order
import Mathlib.Data.List.Basic
/-!
# The order of input files

Paths are ordered by their parts, and paths with the same parts are one. The files that some paths stand
for come in this order, each of them once.
-/
namespace Dictation.Files

namespace Path

theorem isLexicographic_leKey : IsLexicographic leKey lePart where
  nil _ := rfl
  cons_nil _ _ := rfl
  cons_cons _ _ _ _ := rfl
  total a b _ := by
    have htotal := Text.le_total a b
    rw [Bool.or_eq_true] at htotal
    by_cases h : partRank a = partRank b
    · simpa [lePart, h] using htotal
    · simp only [lePart, if_neg h, if_neg (Ne.symm h), decide_eq_true_eq]
      omega
  trans a b c hab hbc := by
    unfold lePart at hab hbc ⊢
    by_cases h₁ : partRank a = partRank b
    · by_cases h₂ : partRank b = partRank c
      · rw [if_pos h₁] at hab
        rw [if_pos h₂] at hbc
        rw [if_pos (h₁.trans h₂)]
        exact Text.le_trans a b c hab hbc
      · rw [h₁]
        rwa [if_neg h₂] at hbc ⊢
    · rw [if_neg h₁, decide_eq_true_eq] at hab
      by_cases h₂ : partRank b = partRank c
      · rw [← h₂, if_neg h₁]
        exact decide_eq_true hab
      · rw [if_neg h₂, decide_eq_true_eq] at hbc
        have hac : partRank a < partRank c := Nat.lt_trans hab hbc
        rw [if_neg (Nat.ne_of_lt hac)]
        exact decide_eq_true hac
  antisymm a b hab hba := by
    unfold lePart at hab hba
    by_cases h : partRank a = partRank b
    · rw [if_pos h] at hab
      rw [if_pos h.symm] at hba
      exact Text.le_antisymm hab hba
    · rw [if_neg h, decide_eq_true_eq] at hab
      rw [if_neg (Ne.symm h), decide_eq_true_eq] at hba
      omega

theorem le_total (p q : Path) : (p.le q || q.le p) = true := isLexicographic_leKey.le_total _ _

theorem le_trans (p q r : Path) (hpq : p.le q = true) (hqr : q.le r = true) : p.le r = true :=
  isLexicographic_leKey.le_trans _ _ _ hpq hqr

/-- Whether a path comes before another one. -/
def Before (p q : Path) : Prop := p.le q = true ∧ p.sortKey ≠ q.sortKey

/-- A path of which the parts differ from those of the first path in order comes behind that path. -/
theorem before_of_le {p q r : Path} (hpq : p.Before q) (hqr : q.le r = true) : p.Before r := by
  refine ⟨le_trans p q r hpq.1 hqr, fun heq => hpq.2 ?_⟩
  -- If `r` had the parts of `p`, then `q` would come before `p`.
  have hqp : leKey q.sortKey p.sortKey = true := heq ▸ hqr
  exact isLexicographic_leKey.le_antisymm _ _ hpq.1 hqp

theorem dropSame_sublist (ps : List Path) : (dropSame ps).Sublist ps := by
  induction ps using dropSame.induct with
  | case1 p q rest heq ih =>
    rw [dropSame, if_pos heq]
    exact ih.trans (.cons_cons p (.cons q (.refl rest)))
  | case2 p q rest hne ih =>
    rw [dropSame, if_neg hne]
    exact .cons_cons p ih
  | case3 ps h => rw [dropSame.eq_2 ps h]

theorem exists_mem_dropSame {ps : List Path} {p : Path} (h : p ∈ ps) :
    ∃ q ∈ dropSame ps, q.sortKey = p.sortKey := by
  induction ps using dropSame.induct generalizing p with
  | case1 q r rest heq ih =>
    rw [dropSame, if_pos heq]
    rcases List.mem_cons.mp h with rfl | h
    · exact ih List.mem_cons_self
    · rcases List.mem_cons.mp h with rfl | h
      · obtain ⟨q', hq', hkey⟩ := ih List.mem_cons_self
        exact ⟨q', hq', hkey.trans heq⟩
      · exact ih (List.mem_cons_of_mem q h)
  | case2 q r rest hne ih =>
    rw [dropSame, if_neg hne]
    rcases List.mem_cons.mp h with rfl | h
    · exact ⟨p, List.mem_cons_self, rfl⟩
    · obtain ⟨q', hq', hkey⟩ := ih h
      exact ⟨q', List.mem_cons_of_mem q hq', hkey⟩
  | case3 ps hps =>
    rw [dropSame.eq_2 ps hps]
    exact ⟨p, h, rfl⟩

theorem pairwise_dropSame {ps : List Path} (h : ps.Pairwise fun p q => p.le q = true) :
    (dropSame ps).Pairwise Before := by
  induction ps using dropSame.induct with
  | case1 p q rest heq ih =>
    rw [dropSame, if_pos heq]
    exact ih (h.sublist (.cons_cons p (.cons q (.refl rest))))
  | case2 p q rest hne ih =>
    obtain ⟨hp, hrest⟩ := List.pairwise_cons.mp h
    have hpq : p.Before q := ⟨hp q List.mem_cons_self, hne⟩
    rw [dropSame, if_neg hne]
    refine List.pairwise_cons.mpr ⟨fun r hr => ?_, ih hrest⟩
    rcases List.mem_cons.mp ((dropSame_sublist _).subset hr) with rfl | hr
    · exact hpq
    · exact before_of_le hpq ((List.pairwise_cons.mp hrest).1 r hr)
  | case3 ps hps =>
    rw [dropSame.eq_2 ps hps]
    match ps with
    | [] => exact .nil
    | [p] => exact List.pairwise_singleton _ p
    | p :: q :: rest => exact absurd rfl (hps p q rest)

end Path

/-- Files one before the other, and each of some found ones by its parts. -/
structure IsSorting (found files : List Path) : Prop where
  ne_nil : files ≠ []
  ascending : files.Pairwise Path.Before
  subset : files ⊆ found
  covers : ∀ p ∈ found, ∃ q ∈ files, q.sortKey = p.sortKey

theorem isSorting_dropSame {found : List Path} (h : found ≠ []) :
    IsSorting found (Path.dropSame (found.mergeSort Path.le)) where
  ne_nil := by
    obtain ⟨p, hp⟩ := List.exists_mem_of_ne_nil found h
    obtain ⟨q, hq, _⟩ := Path.exists_mem_dropSame (List.mem_mergeSort.mpr hp)
    exact List.ne_nil_of_mem hq
  ascending := Path.pairwise_dropSame (List.pairwise_mergeSort Path.le_trans Path.le_total found)
  subset := fun _ hp => List.mem_mergeSort.mp ((Path.dropSame_sublist _).subset hp)
  covers := fun _ hp => Path.exists_mem_dropSame (List.mem_mergeSort.mpr hp)

theorem isSorting_of_resolveInputs {W : Type} [FileSystem (StateM W)] {w w' : W}
    {ps files : List Path}
    (h : (resolveInputs ps : Task (StateM W) (List Path)).run.run w = (.ok files, w')) :
    ∃ found, (ps.mapM filesAt : Task (StateM W) (List (List Path))).run.run w = (.ok found, w') ∧
      IsSorting found.flatten files := by
  unfold resolveInputs at h
  obtain ⟨found, after, hfound, h⟩ := exists_of_bind_run h
  by_cases hempty : found.flatten.isEmpty = true
  · simp only [hempty, if_true] at h
    cases h
  · simp only [hempty] at h
    cases h
    exact ⟨found, hfound, isSorting_dropSame (mt List.isEmpty_iff.mpr hempty)⟩

end Dictation.Files
