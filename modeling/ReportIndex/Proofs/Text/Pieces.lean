/-!
Contract: texts that are cut at a separator.

Owns:
- what a piece between separators holds;
- what pieces hold together that are joined by a separator.

Does not own: which texts are cut, and where.
-/

namespace ReportIndex

/-- No piece between separators holds one, or anything that the whole does not hold. -/
theorem mem_of_mem_splitOn
    {separator character : Char}
    {characters piece : List Char}
    (isPiece : piece ∈ characters.splitOn separator)
    (member : character ∈ piece) :
    character ≠ separator ∧ character ∈ characters := by
  induction characters generalizing piece with
  | nil =>
      rw [List.splitOn_eq_singleton (by simp), List.mem_singleton] at isPiece
      simp [isPiece] at member
  | cons first rest inductionHypothesis =>
      rw [List.splitOn, List.splitOnP_cons_eq_if_modifyHead, ← List.splitOn] at isPiece
      split at isPiece
      next =>
        rcases List.mem_cons.mp isPiece with rfl | later
        · cases member
        · obtain ⟨different, inRest⟩ := inductionHypothesis later member
          exact ⟨different, List.mem_cons_of_mem first inRest⟩
      next notSeparator =>
        cases pieces : rest.splitOn separator with
        | nil => exact absurd pieces (List.splitOn_ne_nil separator rest)
        | cons head others =>
            rw [pieces, List.modifyHead_cons] at isPiece
            rw [pieces] at inductionHypothesis
            rcases List.mem_cons.mp isPiece with rfl | later
            · rcases List.mem_cons.mp member with rfl | inHead
              · exact ⟨by simpa using notSeparator, by simp⟩
              · obtain ⟨different, inRest⟩ := inductionHypothesis (by simp) inHead
                exact ⟨different, List.mem_cons_of_mem first inRest⟩
            · obtain ⟨different, inRest⟩ :=
                inductionHypothesis (List.mem_cons_of_mem head later) member
              exact ⟨different, List.mem_cons_of_mem first inRest⟩

/-- Only a separator stands between the pieces. -/
theorem count_intercalate
    {separator mark : Char}
    (different : mark ≠ separator)
    (pieces : List (List Char)) :
    ([separator].intercalate pieces).count mark = pieces.flatten.count mark := by
  induction pieces with
  | nil => rfl
  | cons first others inductionHypothesis =>
      cases others with
      | nil => simp
      | cons second others =>
          rw [List.intercalate_cons_cons, List.count_append, List.count_append, inductionHypothesis,
            List.flatten_cons, List.count_append]
          simp [different.symm]

theorem not_mem_intercalate
    {separator character : Char}
    (different : character ≠ separator)
    {pieces : List (List Char)}
    (nowhere : ∀ piece ∈ pieces, character ∉ piece) :
    character ∉ [separator].intercalate pieces := by
  rw [← List.count_eq_zero, count_intercalate different, List.count_eq_zero, List.mem_flatten]
  rintro ⟨piece, isPiece, member⟩
  exact nowhere piece isPiece member

end ReportIndex
