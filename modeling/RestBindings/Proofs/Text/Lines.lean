import RestBindings.Text.Blank

/-! # Line feeds and lines

No line of a text holds a line feed (`not_mem_of_mem_linesFrom`).  A line feed makes a second line
unless nothing comes after it, so a text of one line has none once it is trimmed
(`not_mem_trim_of_length_linesFrom_le`): what stands between the marks of a comment on one line ends
no line.
-/
namespace RestBindings
namespace Text

theorem mem_of_mem_trimEnd {cs : List Char} {c : Char} (h : c ∈ trimEnd cs) : c ∈ cs := by
  rw [trimEnd, List.mem_reverse] at h
  exact List.mem_reverse.mp ((List.dropWhile_sublist _).mem h)

theorem not_mem_of_mem_linesFrom {line cs l : List Char} (hl : l ∈ linesFrom line cs)
    (hline : '\n' ∉ line) : '\n' ∉ l := by
  induction line, cs using linesFrom.induct with
  | case1 line hempty => simp [linesFrom, hempty] at hl
  | case2 line hne =>
    rw [linesFrom, if_neg hne, List.mem_singleton] at hl
    simpa [hl] using hline
  | case3 line rest ih =>
    rw [linesFrom] at hl
    rcases List.mem_cons.mp hl with rfl | hl
    · have hreverse : '\n' ∉ line.reverse := by simpa using hline
      rw [dropReturn]
      split
      · exact fun h => hreverse ((List.dropLast_sublist _).mem h)
      · exact hreverse
    · exact ih hl List.not_mem_nil
  | case4 line c rest hc ih =>
    rw [linesFrom] at hl
    · exact ih hl (by simp [hline, Ne.symm hc])
    · exact hc

theorem linesFrom_ne_nil {line cs : List Char} (h : line ≠ [] ∨ cs ≠ []) :
    linesFrom line cs ≠ [] := by
  induction line, cs using linesFrom.induct with
  | case1 line hempty => simp_all
  | case2 line hne => simp [linesFrom, hne]
  | case3 line rest ih => simp [linesFrom]
  | case4 line c rest hc ih =>
    rw [linesFrom]
    · exact ih (.inl (List.cons_ne_nil c line))
    · exact hc

/-- A line feed that something follows makes a second line. -/
theorem two_le_length_linesFrom {after : List Char} (h : after ≠ []) (line before : List Char) :
    2 ≤ (linesFrom line (before ++ '\n' :: after)).length := by
  induction before generalizing line with
  | nil =>
    have hpos : 0 < (linesFrom [] after).length :=
      List.length_pos_iff.mpr (linesFrom_ne_nil (.inr h))
    rw [List.nil_append, linesFrom, List.length_cons]
    omega
  | cons c before ih =>
    by_cases hc : c = '\n'
    · have hrest := ih []
      rw [hc, List.cons_append, linesFrom, List.length_cons]
      omega
    · rw [List.cons_append, linesFrom]
      · exact ih (c :: line)
      · exact hc

/-- A trimmed text ends in something other than white space. -/
theorem isBlank_of_trimEnd_eq_concat {cs before : List Char} {c : Char}
    (h : trimEnd cs = before ++ [c]) : isBlank c = false := by
  have hreverse : cs.reverse.dropWhile isBlank = c :: before.reverse := by
    rw [← List.reverse_reverse (cs.reverse.dropWhile isBlank)]
    rw [trimEnd] at h
    simp [h]
  have hhead := List.head?_dropWhile_not isBlank cs.reverse
  rw [hreverse] at hhead
  simpa using hhead

/-- A text of one line, trimmed, has no line feed. -/
theorem not_mem_trim_of_length_linesFrom_le {cs : List Char} (h : (linesFrom [] cs).length ≤ 1) :
    '\n' ∉ trim cs := by
  intro hmem
  obtain ⟨before, after, htrim⟩ := List.append_of_mem hmem
  have hfront : cs = cs.takeWhile isBlank ++ cs.dropWhile isBlank :=
    List.takeWhile_append_dropWhile.symm
  have hback : cs.dropWhile isBlank =
      trim cs ++ ((cs.dropWhile isBlank).reverse.takeWhile isBlank).reverse := by
    rw [trim, trimEnd, ← List.reverse_append, List.takeWhile_append_dropWhile, List.reverse_reverse]
  have hafter : after ≠ [] := by
    rintro rfl
    exact absurd (isBlank_of_trimEnd_eq_concat htrim) (by decide)
  have hcs : ∃ before after, cs = before ++ '\n' :: after ∧ after ≠ [] := by
    refine ⟨cs.takeWhile isBlank ++ before,
      after ++ ((cs.dropWhile isBlank).reverse.takeWhile isBlank).reverse, ?_, by simp [hafter]⟩
    rw [htrim] at hback
    rw [List.append_assoc, ← List.cons_append, ← List.append_assoc before, ← hback]
    exact hfront
  obtain ⟨before, after, heq, hafter⟩ := hcs
  have htwo := two_le_length_linesFrom hafter [] before
  rw [← heq] at htwo
  omega

end Text
end RestBindings
