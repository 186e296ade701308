import ReportIndex.Proofs.Text.Pieces

/-!
Contract: texts with one row a line, and tabs between the cells of a row.

Owns:
- writing rows, and reading the rows of a text;
- rows are read back exactly if no cell holds a tab or a line break, and there is one line
  a row exactly if none holds a line break.

Does not own: what the cells say.
-/

namespace ReportIndex.Text

/-- Every row on a line of its own, with the line's break behind it. -/
def writeRows (rows : List (List String)) : String :=
  String.join (rows.map fun row => "\t".intercalate row ++ "\n")

/-- The lines of a text, cut at tabs. What stands behind the last line break is a line as
well. -/
def rowsOf (text : String) : List (List String) :=
  (text.toList.splitOn '\n').map fun line => (line.splitOn '\t').map String.ofList

/-- A text without a tab and a line break. -/
structure IsCell (cell : String) : Prop where
  noTab : '\t' ∉ cell.toList
  noBreak : '\n' ∉ cell.toList

instance (cell : String) : Decidable (IsCell cell) :=
  decidable_of_iff ('\t' ∉ cell.toList ∧ '\n' ∉ cell.toList)
    ⟨fun ⟨noTab, noBreak⟩ => ⟨noTab, noBreak⟩, fun isCell => ⟨isCell.noTab, isCell.noBreak⟩⟩

/-! ## Characters -/

/-- A row's line without its break. -/
def lineOf (row : List String) : List Char :=
  ['\t'].intercalate (row.map String.toList)

theorem toList_writeRows (rows : List (List String)) :
    (writeRows rows).toList = rows.flatMap fun row => lineOf row ++ ['\n'] := by
  have tab : "\t".toList = ['\t'] := rfl
  have lineBreak : "\n".toList = ['\n'] := rfl
  simp only [writeRows, String.toList_join, List.flatMap_map, String.toList_append,
    String.toList_intercalate, tab, lineBreak, lineOf]

/-! ## Reading -/

/-- Whatever is read, it is read in cells. -/
theorem isCell_of_mem_rowsOf
    {text cell : String}
    {row : List String}
    (isRow : row ∈ rowsOf text)
    (member : cell ∈ row) :
    IsCell cell := by
  obtain ⟨line, isLine, rfl⟩ := List.mem_map.mp isRow
  obtain ⟨piece, isPiece, rfl⟩ := List.mem_map.mp member
  constructor
  · rw [String.toList_ofList]
    exact fun tab => (mem_of_mem_splitOn isPiece tab).1 rfl
  · rw [String.toList_ofList]
    intro lineBreak
    exact (mem_of_mem_splitOn isLine (mem_of_mem_splitOn isPiece lineBreak).2).1 rfl

theorem splitOn_lineOf
    {row : List String}
    (notEmpty : row ≠ [])
    (areCells : ∀ cell ∈ row, IsCell cell) :
    ((lineOf row).splitOn '\t').map String.ofList = row := by
  rw [lineOf, List.splitOn_intercalate '\t' _ (by simpa using notEmpty), List.map_map]
  · simp [Function.comp_def]
  · rw [List.forall_mem_map]
    exact fun cell member => (areCells cell member).noTab

theorem lineBreak_not_mem_lineOf
    {row : List String}
    (areCells : ∀ cell ∈ row, IsCell cell) :
    '\n' ∉ lineOf row := by
  refine not_mem_intercalate (by decide) ?_
  rw [List.forall_mem_map]
  exact fun cell member => (areCells cell member).noBreak

section

variable {rows : List (List String)}

theorem rowsOf_writeRows
    (notEmpty : ∀ row ∈ rows, row ≠ [])
    (areCells : ∀ row ∈ rows, ∀ cell ∈ row, IsCell cell) :
    rowsOf (writeRows rows) = rows ++ [[""]] := by
  rw [rowsOf, toList_writeRows]
  induction rows with
  | nil => rfl
  | cons row others inductionHypothesis =>
      rw [List.forall_mem_cons] at notEmpty areCells
      rw [List.flatMap_cons, List.append_assoc, List.singleton_append,
        List.splitOn_append_cons_self_of_not_mem (lineBreak_not_mem_lineOf areCells.1),
        List.map_cons, splitOn_lineOf notEmpty.1 areCells.1,
        inductionHypothesis notEmpty.2 areCells.2, List.cons_append]

/-- Rows are read back exactly if what they hold are cells. -/
theorem rowsOf_writeRows_iff (notEmpty : ∀ row ∈ rows, row ≠ []) :
    rowsOf (writeRows rows) = rows ++ [[""]] ↔ ∀ row ∈ rows, ∀ cell ∈ row, IsCell cell := by
  constructor
  · intro same row isRow cell member
    have isRead : row ∈ rowsOf (writeRows rows) := by
      rw [same]
      exact List.mem_append_left _ isRow
    exact isCell_of_mem_rowsOf isRead member
  · exact rowsOf_writeRows notEmpty

/-! ## Lines -/

/-- Every row has a line break of its own, besides those that it holds. -/
theorem count_writeRows :
    (writeRows rows).toList.count '\n' =
      rows.length + (rows.flatten.flatMap String.toList).count '\n' := by
  rw [toList_writeRows]
  induction rows with
  | nil => rfl
  | cons row others inductionHypothesis =>
      have inLine : (lineOf row).count '\n' = (row.flatMap String.toList).count '\n' := by
        rw [lineOf, count_intercalate (by decide), List.flatMap_def]
      rw [List.flatMap_cons, List.count_append, List.count_append, inLine, inductionHypothesis,
        List.flatten_cons, List.flatMap_append, List.count_append, List.count_singleton_self,
        List.length_cons]
      omega

/-- There is one line a row exactly if none of them holds a line break. -/
theorem count_writeRows_iff :
    (writeRows rows).toList.count '\n' = rows.length ↔
      ∀ row ∈ rows, ∀ cell ∈ row, '\n' ∉ cell.toList := by
  rw [count_writeRows, Nat.add_eq_left, List.count_eq_zero, List.mem_flatMap]
  simp only [List.mem_flatten]
  grind

end

end ReportIndex.Text
