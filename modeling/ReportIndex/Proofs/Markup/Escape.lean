import Mathlib.Tactic.SplitIfs
import ReportIndex.Markup.Basic

/-!
Contract: reading escaped texts and attribute values back.

Owns:
- `unescape`, which undoes both escapings;
- the delimiters that an escaped text or value cannot hold.

Does not own: where in markup texts and values stand.
-/

namespace ReportIndex.Markup

/-- The characters that written ones stand for: the four references are read
back, and every other character stands for itself. -/
def unescape : List Char → List Char
  | '&' :: 'a' :: 'm' :: 'p' :: ';' :: rest => '&' :: unescape rest
  | '&' :: 'l' :: 't' :: ';' :: rest => '<' :: unescape rest
  | '&' :: 'g' :: 't' :: ';' :: rest => '>' :: unescape rest
  | '&' :: 'q' :: 'u' :: 'o' :: 't' :: ';' :: rest => '"' :: unescape rest
  | character :: rest => character :: unescape rest
  | [] => []

/-- What a reader sees of a text: an empty one is one blank. -/
def shownText (content : String) : String :=
  if content = "" then " " else content

theorem shownText_eq_iff (left right : String) :
    shownText left = shownText right ↔
      left = right ∨ (left = "" ∧ right = " ") ∨ (left = " " ∧ right = "") := by
  unfold shownText
  split_ifs with leftEmpty rightEmpty rightEmpty
  · simp [leftEmpty, rightEmpty]
  · simp [leftEmpty, Ne.symm rightEmpty, @eq_comm _ " " right]
  · simp [leftEmpty, rightEmpty]
  · simp [leftEmpty, rightEmpty]

/-! ## The way back -/

theorem unescape_cons_of_ne
    {character : Char}
    (ordinary : character ≠ '&')
    (rest : List Char) :
    unescape (character :: rest) = character :: unescape rest := by
  rw [unescape] <;> simp [ordinary]

theorem unescape_escapeTextCharacter_append (character : Char) (rest : List Char) :
    unescape (escapeTextCharacter character ++ rest) = character :: unescape rest := by
  unfold escapeTextCharacter
  split_ifs with isAmpersand isLess isGreater
  · simp [unescape, isAmpersand]
  · simp [unescape, isLess]
  · simp [unescape, isGreater]
  · exact unescape_cons_of_ne isAmpersand rest

theorem unescape_escapeValueCharacter_append (character : Char) (rest : List Char) :
    unescape (escapeValueCharacter character ++ rest) = character :: unescape rest := by
  unfold escapeValueCharacter
  split_ifs with isQuote
  · simp [unescape, isQuote]
  · exact unescape_escapeTextCharacter_append character rest

/-- An escaping that is undone character by character is undone for a whole
text. -/
private theorem unescape_flatMap
    {escape : Char → List Char}
    (undone : ∀ character rest,
      unescape (escape character ++ rest) = character :: unescape rest)
    (characters : List Char) :
    unescape (characters.flatMap escape) = characters := by
  induction characters with
  | nil => rfl
  | cons character rest inductionHypothesis =>
      rw [List.flatMap_cons, undone, inductionHypothesis]

/-- An attribute's value is read back as it was given. -/
theorem unescape_escapeValue (value : String) :
    unescape (escapeValue value) = value.toList :=
  unescape_flatMap unescape_escapeValueCharacter_append value.toList

/-- A text is read back as it was given, but for an empty one. -/
theorem unescape_escapeText (content : String) :
    unescape (escapeText content) = (shownText content).toList := by
  unfold escapeText shownText
  by_cases isEmpty : content = ""
  · rw [if_pos isEmpty, isEmpty]
    rfl
  · rw [if_neg isEmpty]
    split
    · exact absurd (String.toList_eq_nil_iff.mp ‹_›) isEmpty
    · exact unescape_flatMap unescape_escapeTextCharacter_append content.toList

/-! ## What an escaped text cannot hold -/

theorem less_not_mem_escapeTextCharacter (character : Char) :
    '<' ∉ escapeTextCharacter character := by
  unfold escapeTextCharacter
  split_ifs with isAmpersand isLess isGreater
  · decide
  · decide
  · decide
  · simpa using Ne.symm isLess

theorem less_not_mem_escapeText (content : String) : '<' ∉ escapeText content := by
  unfold escapeText
  split
  · decide
  · intro member
    obtain ⟨character, _, escaped⟩ := List.mem_flatMap.mp member
    exact less_not_mem_escapeTextCharacter character escaped

theorem quote_not_mem_escapeValueCharacter (character : Char) :
    '"' ∉ escapeValueCharacter character := by
  unfold escapeValueCharacter escapeTextCharacter
  split_ifs with isQuote isAmpersand isLess isGreater
  · decide
  · decide
  · decide
  · decide
  · simpa using Ne.symm isQuote

theorem quote_not_mem_escapeValue (value : String) : '"' ∉ escapeValue value := by
  intro member
  obtain ⟨character, _, escaped⟩ := List.mem_flatMap.mp member
  exact quote_not_mem_escapeValueCharacter character escaped

end ReportIndex.Markup
