/-!
# `EntitlementClient.Proofs.Text.Levels`: the levels of a path, and its dot segments

The levels of a path are what stands between its slashes, as `List.splitOn` gives them.
The first level of an absolute path is the empty text before its first slash.

Whoever resolves a path reads two levels in a special way: a point stands for the level it
is on, two points for the level above. `removeDots` is the path with these worked off. It
is the path itself exactly when none of its levels is one of the two
(`removeDots_eq_self_iff`).
-/

set_option autoImplicit false

namespace EntitlementClient.Text

universe u

/-! ### Splitting -/

section

variable {α : Type u} [BEq α] [LawfulBEq α]

/-- What stands between separators is all that is not a separator. -/
theorem exists_mem_splitOn_iff {separator x : α} {xs : List α} :
    (∃ level ∈ xs.splitOn separator, x ∈ level) ↔ x ∈ xs ∧ x ≠ separator := by
  induction xs with
  | nil => simp [List.splitOn_nil]
  | cons y rest ih =>
    obtain ⟨first, levels, hlevels⟩ :=
      List.exists_cons_of_ne_nil (List.splitOn_ne_nil separator rest)
    rw [hlevels] at ih
    rw [List.splitOn_cons_eq_if_modifyHead, hlevels]
    simp only [List.mem_cons, exists_eq_or_imp] at ih
    by_cases hy : y = separator
    · -- The first level ends before `y`.
      rw [if_pos (beq_iff_eq.mpr hy)]
      simp only [List.mem_cons, exists_eq_or_imp, List.not_mem_nil, false_or, ih]
      refine and_congr_left fun hne => ?_
      exact (or_iff_right fun heq => hne (heq.trans hy)).symm
    · -- The first level is longer by `y`.
      rw [if_neg fun hbeq => hy (beq_iff_eq.mp hbeq), List.modifyHead_cons]
      simp only [List.mem_cons, exists_eq_or_imp, or_assoc, ih]
      constructor
      · rintro (rfl | ⟨hx, hne⟩)
        · exact ⟨Or.inl rfl, hy⟩
        · exact ⟨Or.inr hx, hne⟩
      · rintro ⟨rfl | hx, hne⟩
        · exact Or.inl rfl
        · exact Or.inr ⟨hx, hne⟩

/-- The separator does not stand in any of the levels between separators. -/
theorem not_mem_of_mem_splitOn {separator : α} {xs level : List α}
    (h : level ∈ xs.splitOn separator) : separator ∉ level := by
  intro hmem
  exact (exists_mem_splitOn_iff.mp ⟨level, h, hmem⟩).2 rfl

/-- Text without separators belongs to the first level of what follows it. -/
theorem splitOn_append_of_not_mem {separator : α} {xs : List α} (h : separator ∉ xs)
    (ys : List α) :
    (xs ++ ys).splitOn separator = (ys.splitOn separator).modifyHead (xs ++ ·) := by
  induction xs with
  | nil =>
    obtain ⟨first, levels, hlevels⟩ :=
      List.exists_cons_of_ne_nil (List.splitOn_ne_nil separator ys)
    rw [List.nil_append, hlevels]
    rfl
  | cons x rest ih =>
    have hx : ¬ (x == separator) = true := by
      intro heq
      rw [eq_of_beq heq] at h
      exact h List.mem_cons_self
    have hrest := ih fun hmem => h (List.mem_cons_of_mem x hmem)
    rw [List.cons_append, List.splitOn_cons_eq_if_modifyHead, if_neg hx, hrest,
      List.modifyHead_modifyHead]
    rfl

end

/-! ### Dot segments -/

/-- A level that is a point or two points. -/
def IsDots (level : List Char) : Prop := level = ['.'] ∨ level = ['.', '.']

instance : DecidablePred IsDots := fun _ => inferInstanceAs (Decidable (_ ∨ _))

/-- The levels that are left after one more, the last one first. -/
def keepLevel (kept : List (List Char)) (level : List Char) : List (List Char) :=
  if level = ['.'] then kept else if level = ['.', '.'] then kept.tail else level :: kept

/-- The levels with dot segments worked off. A dot segment at the end leaves an empty level. -/
def resolveLevels (levels : List (List Char)) : List (List Char) :=
  let kept := levels.foldl keepLevel []
  (if ∃ level ∈ levels.getLast?, IsDots level then [] :: kept else kept).reverse

/-- The path with dot segments worked off. They never lead above its root. -/
def removeDots (path : List Char) : List Char :=
  match path.splitOn '/' with
  | [] => []
  | root :: levels => List.intercalate ['/'] (root :: resolveLevels levels)

/-- A level that is no dot segment is kept. -/
theorem keepLevel_of_not_isDots {level : List Char} (h : ¬ IsDots level)
    (kept : List (List Char)) : keepLevel kept level = level :: kept := by
  rw [keepLevel, if_neg fun hone => h (Or.inl hone), if_neg fun htwo => h (Or.inr htwo)]

/-- What is left after a level was there before, or is the level itself and no dot segment. -/
theorem mem_keepLevel {kept : List (List Char)} {level l : List Char}
    (h : l ∈ keepLevel kept level) : l ∈ kept ∨ l = level ∧ ¬ IsDots l := by
  unfold keepLevel at h
  split at h
  · exact Or.inl h
  rename_i hone
  split at h
  · exact Or.inl (List.mem_of_mem_tail h)
  · rename_i htwo
    rcases List.mem_cons.mp h with rfl | h
    · exact Or.inr ⟨rfl, fun hdots => hdots.elim hone htwo⟩
    · exact Or.inl h

/-- A level that is kept was there before, or is one of the new levels and no dot segment. -/
theorem mem_foldl_keepLevel {kept levels : List (List Char)} {l : List Char}
    (h : l ∈ levels.foldl keepLevel kept) : l ∈ kept ∨ l ∈ levels ∧ ¬ IsDots l := by
  induction levels generalizing kept with
  | nil => exact Or.inl h
  | cons level rest ih =>
    rcases ih h with hkept | ⟨hmem, hdots⟩
    · rcases mem_keepLevel hkept with hkept | ⟨rfl, hdots⟩
      · exact Or.inl hkept
      · exact Or.inr ⟨List.mem_cons_self, hdots⟩
    · exact Or.inr ⟨List.mem_cons_of_mem level hmem, hdots⟩

/-- Without dot segments all levels are kept, the last one first. -/
theorem foldl_keepLevel_of_forall {levels : List (List Char)} (h : ∀ l ∈ levels, ¬ IsDots l)
    (kept : List (List Char)) : levels.foldl keepLevel kept = levels.reverse ++ kept := by
  induction levels generalizing kept with
  | nil => rfl
  | cons level rest ih =>
    have hlevel := h level List.mem_cons_self
    have hrest := ih fun l hl => h l (List.mem_cons_of_mem level hl)
    rw [List.foldl_cons, keepLevel_of_not_isDots hlevel, hrest, List.reverse_cons,
      List.append_assoc, List.singleton_append]

/-- A resolved level is empty, or one of the levels and no dot segment. The empty one is left by a
dot segment at the end. -/
theorem mem_resolveLevels {levels : List (List Char)} {l : List Char}
    (h : l ∈ resolveLevels levels) : l = [] ∨ l ∈ levels ∧ ¬ IsDots l := by
  have hkept : l ∈ levels.foldl keepLevel [] → l ∈ levels ∧ ¬ IsDots l := by
    intro hl
    rcases mem_foldl_keepLevel hl with hl | hl
    · cases hl
    · exact hl
  have hmem := List.mem_reverse.mp h
  split at hmem
  · rcases List.mem_cons.mp hmem with hnil | hmem
    · exact Or.inl hnil
    · exact Or.inr (hkept hmem)
  · exact Or.inr (hkept hmem)

/-- Levels are resolved to themselves exactly when there is no dot segment among them. If there is
one, it is gone afterwards. -/
theorem resolveLevels_eq_self_iff {levels : List (List Char)} :
    resolveLevels levels = levels ↔ ∀ l ∈ levels, ¬ IsDots l := by
  constructor
  · intro h l hl
    rw [← h] at hl
    rcases mem_resolveLevels hl with rfl | ⟨-, hdots⟩
    · decide
    · exact hdots
  · intro h
    have hlast : ¬ ∃ level ∈ levels.getLast?, IsDots level := by
      rintro ⟨level, hlevel, hdots⟩
      exact h level (List.mem_of_getLast? hlevel) hdots
    unfold resolveLevels
    dsimp only
    rw [if_neg hlast, foldl_keepLevel_of_forall h, List.append_nil, List.reverse_reverse]

/-- A path is resolved to itself exactly when no level of it is a dot segment. The text before the
first slash is no level. -/
theorem removeDots_eq_self_iff {path root : List Char} {levels : List (List Char)}
    (hlevels : path.splitOn '/' = root :: levels) :
    removeDots path = path ↔ ∀ l ∈ levels, ¬ IsDots l := by
  have hpath : List.intercalate ['/'] (root :: levels) = path := by
    rw [← hlevels, List.intercalate_splitOn]
  have hslash : ∀ l ∈ root :: levels, '/' ∉ l := by
    intro l hl
    rw [← hlevels] at hl
    exact not_mem_of_mem_splitOn hl
  have hresolved : ∀ l ∈ root :: resolveLevels levels, '/' ∉ l := by
    intro l hl
    rcases List.mem_cons.mp hl with rfl | hl
    · exact hslash l List.mem_cons_self
    rcases mem_resolveLevels hl with rfl | ⟨hl, -⟩
    · exact List.not_mem_nil
    · exact hslash l (List.mem_cons_of_mem root hl)
  have hremove : removeDots path = List.intercalate ['/'] (root :: resolveLevels levels) := by
    rw [removeDots, hlevels]
  rw [← resolveLevels_eq_self_iff, hremove]
  constructor
  · intro h
    -- Splitting both sides at the slashes gives their levels back.
    have hsplit := congrArg (List.splitOn '/') h
    rw [List.splitOn_intercalate '/' hresolved (List.cons_ne_nil root _), hlevels] at hsplit
    exact List.tail_eq_of_cons_eq hsplit
  · intro h
    rw [h, hpath]

example : removeDots "/a/b/c/./../../g/..".toList = "/a/".toList := by decide +kernel

end EntitlementClient.Text
