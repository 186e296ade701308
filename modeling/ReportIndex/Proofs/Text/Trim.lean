import Mathlib.Data.List.DropRight
import ReportIndex.Text.Blank

/-!
Contract: laws of trimming.

Owns:
- what is dropped at the end of a text, and where the dropping ends;
- a trimmed text neither begins nor ends with a blank, so that trimming again
  changes nothing;
- a trimmed text holds no other characters, and all that are not blank; it is empty
  exactly if the text is blank.

Does not own: which texts are trimmed.
-/

namespace ReportIndex.Text

theorem dropEndWhile_eq_rdropWhile (drop : Char → Bool) (characters : List Char) :
    dropEndWhile drop characters = characters.rdropWhile drop :=
  rfl

/-! ## The end of a text -/

/-- Only what satisfies the test is dropped. -/
theorem exists_dropEndWhile_append (drop : Char → Bool) (characters : List Char) :
    ∃ dropped, characters = dropEndWhile drop characters ++ dropped
      ∧ ∀ character ∈ dropped, drop character = true := by
  refine ⟨characters.rtakeWhile drop, ?_, fun _ member => List.mem_rtakeWhile_imp member⟩
  rw [dropEndWhile_eq_rdropWhile, List.rdropWhile_append_rtakeWhile]

/-- The dropping ends where a character is kept. -/
theorem kept_of_getLast?_dropEndWhile
    {drop : Char → Bool}
    {characters : List Char}
    {last : Char}
    (found : (dropEndWhile drop characters).getLast? = some last) :
    drop last = false := by
  have stopped := List.head?_dropWhile_not drop characters.reverse
  rw [dropEndWhile, List.getLast?_reverse] at found
  rwa [found] at stopped

theorem dropEndWhile_append_of_all
    {drop : Char → Bool}
    {dropped : List Char}
    (all : ∀ character ∈ dropped, drop character = true)
    (front : List Char) :
    dropEndWhile drop (front ++ dropped) = dropEndWhile drop front := by
  rw [dropEndWhile, dropEndWhile, List.reverse_append, List.dropWhile_append_of_pos]
  intro character member
  exact all character (List.mem_reverse.mp member)

theorem dropEndWhile_eq_self
    {drop : Char → Bool}
    {characters : List Char}
    (kept : ∀ last, characters.getLast? = some last → drop last = false) :
    dropEndWhile drop characters = characters := by
  rw [dropEndWhile_eq_rdropWhile, List.rdropWhile_eq_self_iff]
  intro nonempty
  simpa using kept _ (List.getLast?_eq_some_getLast nonempty)

/-! ## Both ends -/

/-- What is left of a text that begins with no dropped character begins with
none either. -/
private theorem dropWhile_rdropWhile
    {drop : Char → Bool}
    {characters : List Char}
    (begun : characters.dropWhile drop = characters) :
    (characters.rdropWhile drop).dropWhile drop = characters.rdropWhile drop := by
  rw [List.dropWhile_eq_self_iff] at begun ⊢
  intro nonempty
  have isPrefix := List.rdropWhile_prefix drop (l := characters)
  have longer := Nat.lt_of_lt_of_le nonempty isPrefix.length_le
  rw [isPrefix.getElem nonempty]
  exact begun longer

theorem trimBlanks_trimBlanks (characters : List Char) :
    trimBlanks (trimBlanks characters) = trimBlanks characters := by
  have begun := List.dropWhile_idempotent (p := isBlank) (l := characters)
  simp only [trimBlanks, dropEndWhile_eq_rdropWhile]
  rw [dropWhile_rdropWhile begun, List.rdropWhile_idempotent]

@[simp]
theorem trim_trim (text : String) : trim (trim text) = trim text := by
  rw [trim, trim, String.toList_ofList, trimBlanks_trimBlanks]

/-- A trimmed text holds no other characters. -/
theorem toList_trim_subset (text : String) : (trim text).toList ⊆ text.toList := by
  rw [trim, String.toList_ofList, trimBlanks, dropEndWhile_eq_rdropWhile]
  exact List.Subset.trans (List.rdropWhile_prefix isBlank _).subset
    (List.dropWhile_suffix isBlank).subset

private theorem mem_dropWhile_of_kept
    {drop : Char → Bool}
    {character : Char}
    {characters : List Char}
    (member : character ∈ characters)
    (kept : drop character = false) :
    character ∈ characters.dropWhile drop := by
  rw [← List.takeWhile_append_dropWhile (p := drop) (l := characters), List.mem_append] at member
  rcases member with dropped | rest
  · rw [List.mem_takeWhile_imp dropped] at kept
    cases kept
  · exact rest

/-- Nothing is left of a text exactly when it is blank. -/
theorem trimBlanks_eq_nil_iff (characters : List Char) :
    trimBlanks characters = [] ↔ ∀ character ∈ characters, isBlank character = true := by
  rw [trimBlanks, dropEndWhile_eq_rdropWhile, List.rdropWhile_eq_nil_iff]
  constructor
  · intro allBlank character member
    by_contra visible
    rw [Bool.not_eq_true] at visible
    rw [allBlank character (mem_dropWhile_of_kept member visible)] at visible
    cases visible
  · intro allBlank character member
    exact allBlank character ((List.dropWhile_suffix isBlank).subset member)

theorem trim_eq_empty_iff (text : String) :
    trim text = "" ↔ isBlankText text = true := by
  rw [isBlankText, List.all_eq_true, ← trimBlanks_eq_nil_iff, trim, ← String.toList_inj]
  simp

/-- Only blanks are trimmed. -/
theorem mem_toList_trim
    {text : String}
    {character : Char}
    (member : character ∈ text.toList)
    (visible : isBlank character = false) :
    character ∈ (trim text).toList := by
  rw [trim, String.toList_ofList, trimBlanks, dropEndWhile, List.mem_reverse]
  refine mem_dropWhile_of_kept ?_ visible
  rw [List.mem_reverse]
  exact mem_dropWhile_of_kept member visible

end ReportIndex.Text
