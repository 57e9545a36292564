import RestBindings.Files.Path
import RestBindings.Proofs.Text.Split

/-! # The directory above a path

The parent of a path is a text, cut off before the last name and put together again from the pieces
before it.  Pieces that mean nothing are dropped at both ends of the cut, so the text may differ from
the start of the path, but as a path it takes all steps but the last (`pathSteps_of_parent?`), from
the same place (`isAbsolute_of_parent?`), and has no characters of its own
(`mem_of_mem_parent?`).
-/
namespace RestBindings
namespace Files

/-- A piece of a path that means a step. -/
def isStep (p : String) : Bool := p != "" && p != "."

theorem pathSteps_eq (path : String) : pathSteps path = (pathPieces path).filter isStep := rfl

/-! ## The pieces of a path -/

theorem pathPieces_ne_nil (path : String) : pathPieces path ≠ [] := by
  simp [pathPieces]

theorem slash_not_mem_of_mem_pathPieces {path p : String} (h : p ∈ pathPieces path) :
    '/' ∉ p.toList := by
  obtain ⟨piece, hpiece, rfl⟩ := List.mem_map.mp h
  rw [String.toList_ofList]
  intro hslash
  have hsep := Text.not_sep_of_mem_splitOn hpiece hslash
  cases hsep

/-- A path holds the characters of its pieces, and slashes. -/
theorem mem_pathPieces_iff {path : String} {c : Char} (hc : c ≠ '/') :
    (∃ p ∈ pathPieces path, c ∈ p.toList) ↔ c ∈ path.toList := by
  have hsep : (c == '/') = false := beq_eq_false_iff_ne.mpr hc
  have hpieces := @Text.mem_splitOn_iff (· == '/') path.toList c
  rw [hsep, and_iff_left rfl] at hpieces
  rw [← hpieces, pathPieces]
  simp

/-- Pieces that are joined by slashes are the pieces of the path. -/
theorem pathPieces_intercalate {pieces : List String} (hne : pieces ≠ [])
    (h : ∀ p ∈ pieces, '/' ∉ p.toList) : pathPieces (String.intercalate "/" pieces) = pieces := by
  have hchars : (String.intercalate "/" pieces).toList =
      List.intercalate ['/'] (pieces.map String.toList) := String.toList_intercalate
  have hsplit : Text.splitOn (· == '/') (List.intercalate ['/'] (pieces.map String.toList)) =
      pieces.map String.toList := by
    refine Text.splitOn_intercalate rfl (by simpa using hne) ?_
    rw [List.forall_mem_map]
    exact fun p hp => Text.beq_eq_false_of_not_mem (h p hp)
  rw [pathPieces, hchars, hsplit, List.map_map]
  simp [Function.comp_def]

/-- A path starts at the root when its first piece is empty and not its only one. -/
theorem isAbsolute_iff {path : String} :
    isAbsolute path = true ↔ ∃ p rest, pathPieces path = "" :: p :: rest := by
  rw [isAbsolute, pathPieces]
  cases path.toList with
  | nil => simp [Text.splitOn]
  | cons c cs =>
    obtain ⟨piece, pieces, hcs⟩ := List.exists_cons_of_ne_nil (Text.splitOn_ne_nil (· == '/') cs)
    by_cases hc : c = '/'
    · subst hc
      simp [Text.splitOn, hcs]
    · have hfirst : Text.splitOn (· == '/') (c :: cs) = (c :: piece) :: pieces := by
        simp [Text.splitOn, hc, hcs]
      simp [hfirst, hc]

/-! ## Cutting off the last name -/

/-- What is dropped means nothing. -/
theorem exists_dropEmptyPieces (l : List String) :
    ∃ dropped, l = dropped ++ dropEmptyPieces l ∧ ∀ p ∈ dropped, isStep p = false := by
  induction l using dropEmptyPieces.induct with
  | case1 => exact ⟨[], rfl, nofun⟩
  | case2 p => exact ⟨[], rfl, nofun⟩
  | case3 p q rest h ih =>
    obtain ⟨dropped, heq, hdropped⟩ := ih
    have hp : isStep p = false := by simpa [isStep, or_comm, imp_iff_not_or] using h
    refine ⟨p :: dropped, ?_, List.forall_mem_cons.mpr ⟨hp, hdropped⟩⟩
    rw [dropEmptyPieces, if_pos h, List.cons_append, ← heq]
  | case4 p q rest h =>
    refine ⟨[], ?_, nofun⟩
    rw [dropEmptyPieces, if_neg h]
    rfl

theorem dropEmptyPieces_eq_nil_iff {l : List String} : dropEmptyPieces l = [] ↔ l = [] := by
  induction l using dropEmptyPieces.induct with
  | case1 => simp [dropEmptyPieces]
  | case2 p => simp [dropEmptyPieces]
  | case3 p q rest h ih => simpa [dropEmptyPieces, h] using ih
  | case4 p q rest h => simp [dropEmptyPieces, h]

/-- What is kept starts with a step, if it is not the last piece. -/
theorem isStep_of_dropEmptyPieces {l rest : List String} {p : String}
    (h : dropEmptyPieces l = p :: rest) (hrest : rest ≠ []) : isStep p = true := by
  induction l using dropEmptyPieces.induct with
  | case1 => cases h
  | case2 q =>
    cases h
    exact absurd rfl hrest
  | case3 q r others hq ih =>
    rw [dropEmptyPieces, if_pos hq] at h
    exact ih h
  | case4 q r others hq =>
    rw [dropEmptyPieces, if_neg hq] at h
    cases h
    simpa [isStep, or_comm, imp_iff_not_or] using hq

/-- **Where a path is cut**: in front of its last name, with what means nothing before and after the
name.  The parent is written with the pieces that are kept. -/
theorem exists_cut_of_parent? {path above : String} (h : parent? path = some above) :
    ∃ kept between last after, pathPieces path = kept ++ between ++ last :: after ∧
      (∀ p ∈ between, isStep p = false) ∧ (∀ p ∈ after, isStep p = false) ∧
      last ≠ "" ∧ (kept ≠ [] → isStep last = true) ∧ (kept = [] → between = []) ∧
      above = if kept = [""] then "/" else String.intercalate "/" kept := by
  rw [parent?] at h
  split at h
  next => cases h
  next last rest hlast =>
    split at h
    next => cases h
    next hne =>
      obtain ⟨after, hafter, hblank⟩ := exists_dropEmptyPieces (pathPieces path).reverse
      obtain ⟨between, hbetween, hblank'⟩ := exists_dropEmptyPieces rest
      generalize hkept : dropEmptyPieces rest = kept at h hbetween
      have hnothing : rest = [] ↔ kept = [] := by rw [← hkept, dropEmptyPieces_eq_nil_iff]
      refine ⟨kept.reverse, between.reverse, last, after.reverse, ?_, by simpa using hblank',
        by simpa using hblank, by simpa using hne, fun hsome => ?_, fun hnil => ?_, ?_⟩
      · rw [List.reverse_eq_iff.mp hafter, hlast, hbetween]
        simp
      · refine isStep_of_dropEmptyPieces hlast fun hrest => hsome ?_
        rw [hnothing.mp hrest, List.reverse_nil]
      · rw [hnothing.mpr (List.reverse_eq_nil_iff.mp hnil)] at hbetween
        rw [(List.append_eq_nil_iff.mp hbetween.symm).1, List.reverse_nil]
      · split at h
        next => exact (Option.some.inj h).symm
        next pieces hpieces =>
          rw [if_neg (by simpa [List.reverse_eq_iff] using hpieces)]
          exact (Option.some.inj h).symm

/-- **A path with a parent** has the pieces of the parent, in which all its steps but the last are. -/
theorem exists_kept_of_parent? {path above : String} (h : parent? path = some above) :
    ∃ kept tail, pathPieces path = kept ++ tail ∧ tail ≠ [] ∧
      (kept = [] → tail.head? ≠ some "") ∧
      kept.filter isStep = (pathSteps path).dropLast ∧
      above = if kept = [""] then "/" else String.intercalate "/" kept := by
  obtain ⟨kept, between, last, after, hpieces, hbetween, hafter, hlast, hstep, hnil, habove⟩ :=
    exists_cut_of_parent? h
  have hblank {l : List String} (hl : ∀ p ∈ l, isStep p = false) : l.filter isStep = [] :=
    List.filter_eq_nil_iff.mpr fun p hp => by simp [hl p hp]
  refine ⟨kept, between ++ last :: after, by rw [hpieces, List.append_assoc], by simp,
    fun hkept => by simpa [hnil hkept] using hlast, ?_, habove⟩
  rw [pathSteps_eq, hpieces, List.filter_append, List.filter_append, List.filter_cons,
    hblank hbetween, hblank hafter, List.append_nil]
  by_cases hkept : kept = []
  · subst hkept
    split <;> rfl
  · rw [if_pos (hstep hkept), List.dropLast_concat]

/-! ## The parent as a path -/

section Parent

variable {path above : String} (h : parent? path = some above)
include h

/-- The parent takes all steps but the last. -/
theorem pathSteps_of_parent? : pathSteps above = (pathSteps path).dropLast := by
  obtain ⟨kept, tail, hpieces, -, -, hsteps, rfl⟩ := exists_kept_of_parent? h
  rw [← hsteps, pathSteps_eq]
  split
  next hroot =>
    rw [hroot]
    decide
  next =>
    cases kept with
    | nil => decide
    | cons p rest =>
      rw [pathPieces_intercalate (List.cons_ne_nil p rest) fun q hq =>
        slash_not_mem_of_mem_pathPieces (hpieces ▸ List.mem_append_left tail hq)]

/-- It starts from the same place. -/
theorem isAbsolute_of_parent? : isAbsolute above = isAbsolute path := by
  obtain ⟨kept, tail, hpieces, htail, hfirst, -, rfl⟩ := exists_kept_of_parent? h
  obtain ⟨last, others, rfl⟩ := List.exists_cons_of_ne_nil htail
  rw [Bool.eq_iff_iff, isAbsolute_iff, isAbsolute_iff, hpieces]
  split
  next hroot =>
    have hslash : pathPieces "/" = ["", ""] := by decide
    simp [hroot, hslash]
  next hroot =>
    cases kept with
    | nil =>
      have hempty : pathPieces "" = [""] := by decide
      have hlast : last ≠ "" := by simpa using hfirst rfl
      simp [String.intercalate_nil, hempty, hlast]
    | cons p rest =>
      rw [pathPieces_intercalate (List.cons_ne_nil p rest) fun q hq =>
        slash_not_mem_of_mem_pathPieces (hpieces ▸ List.mem_append_left _ hq)]
      cases rest with
      | nil =>
        have hp : p ≠ "" := fun hp => hroot (by rw [hp])
        simp [hp]
      | cons q rest => simp

/-- It has no characters of its own. -/
theorem mem_of_mem_parent? {c : Char} (hc : c ≠ '/') (hmem : c ∈ above.toList) :
    c ∈ path.toList := by
  obtain ⟨kept, tail, hpieces, -, -, -, rfl⟩ := exists_kept_of_parent? h
  rw [← mem_pathPieces_iff hc, hpieces]
  split at hmem
  next => simp [hc] at hmem
  next =>
    cases kept with
    | nil => simp [String.intercalate_nil] at hmem
    | cons p rest =>
      have hkept := pathPieces_intercalate (List.cons_ne_nil p rest) fun q hq =>
        slash_not_mem_of_mem_pathPieces (hpieces ▸ List.mem_append_left tail hq)
      obtain ⟨q, hq, hcq⟩ := (mem_pathPieces_iff hc).mpr hmem
      rw [hkept] at hq
      exact ⟨q, List.mem_append_left tail hq, hcq⟩

end Parent

/-- A path that takes a step has a parent. -/
theorem exists_parent?_of_pathSteps_ne_nil {path : String} (h : pathSteps path ≠ []) :
    ∃ above, parent? path = some above := by
  rw [parent?]
  split
  next hnil =>
    rw [dropEmptyPieces_eq_nil_iff, List.reverse_eq_nil_iff] at hnil
    exact absurd hnil (pathPieces_ne_nil path)
  next last rest hlast =>
    have hne : last ≠ "" := by
      rintro rfl
      have hrest : rest = [] := by
        by_contra hrest
        cases isStep_of_dropEmptyPieces hlast hrest
      obtain ⟨after, hafter, hblank⟩ := exists_dropEmptyPieces (pathPieces path).reverse
      rw [hlast, hrest] at hafter
      refine h ?_
      rw [pathSteps_eq, List.reverse_eq_iff.mp hafter, List.filter_reverse, List.filter_append,
        List.filter_eq_nil_iff.mpr fun p hp => by simp [hblank p hp]]
      rfl
    rw [if_neg (by simpa using hne)]
    split <;> exact ⟨_, rfl⟩

/-- It is no empty text. -/
theorem isEmpty_of_pathSteps_ne_nil {path : String} (h : pathSteps path ≠ []) :
    path.isEmpty = false := by
  rw [Bool.eq_false_iff]
  intro hempty
  rw [String.isEmpty_iff.mp hempty] at h
  exact h (by decide)

/-- A path that names no directory takes a step. -/
theorem pathSteps_ne_nil {path : String} (h : namesDirectory path = false) :
    pathSteps path ≠ [] := by
  have hlast := List.getLast_mem (pathPieces_ne_nil path)
  rw [namesDirectory, List.getLast?_eq_some_getLast (pathPieces_ne_nil path),
    Option.getD_some] at h
  have hstep : isStep ((pathPieces path).getLast (pathPieces_ne_nil path)) = true := by
    simp only [List.contains_eq_mem, decide_eq_false_iff_not, List.mem_cons, not_or] at h
    simp [isStep, h.1, h.2.1]
  rw [pathSteps_eq]
  exact List.ne_nil_of_mem (List.mem_filter.mpr ⟨hlast, hstep⟩)

/-- A path takes no more steps than it has characters, but one. -/
theorem length_pathSteps_le (path : String) : (pathSteps path).length ≤ path.length + 1 := by
  calc (pathSteps path).length ≤ (pathPieces path).length := List.length_filter_le ..
    _ = (Text.splitOn (· == '/') path.toList).length := List.length_map ..
    _ ≤ path.toList.length + 1 := Text.length_splitOn_le ..
    _ = path.length + 1 := by rw [String.length_toList]

end Files
end RestBindings
