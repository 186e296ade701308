import ReportIndex.Proofs.Text.Trim
import ReportIndex.Theme

/-!
Contract: which words stand for a theme, and which for an encoding of versions.

Owns:
- the exact reading takes one word for each value, its name;
- the forgiving reading takes it in any case and with blanks around it, and `auto`
  for a theme;
- the forgiving reading of a name is the exact one.

Does not own: where the words come from.
-/

namespace ReportIndex

namespace Text

/-- What begins with a character that is not blank begins with it when trimmed. -/
theorem head?_trim
    {text : String}
    {first : Char}
    (begins : text.toList.head? = some first)
    (notBlank : isBlank first = false) :
    (trim text).toList.head? = some first := by
  obtain ⟨rest, characters⟩ := List.head?_eq_some_iff.mp begins
  have kept : dropEndWhile isBlank (first :: rest) <+: first :: rest :=
    List.rdropWhile_prefix isBlank _
  have left : dropEndWhile isBlank (first :: rest) ≠ [] := by
    rw [Ne, dropEndWhile_eq_rdropWhile, List.rdropWhile_eq_nil_iff, List.forall_mem_cons, notBlank]
    simp
  rw [trim, String.toList_ofList, trimBlanks, characters,
    List.dropWhile_cons_of_neg (by simp [notBlank])]
  obtain ⟨behind, split⟩ := kept
  generalize dropEndWhile isBlank (first :: rest) = trimmed at split left
  cases trimmed with
  | nil => exact absurd rfl left
  | cons character others => exact congrArg some (List.cons.inj split).1

/-- The word that a user means by a text: without blanks at its ends, and in lower case. -/
def meant (text : String) : String :=
  lowerAscii (trim text)

theorem head?_meant
    {text : String}
    {first : Char}
    (begins : text.toList.head? = some first)
    (notBlank : isBlank first = false) :
    (meant text).toList.head? = some first.toLower := by
  rw [meant, lowerAscii, String.toList_ofList, List.head?_map, head?_trim begins notBlank]
  rfl

end Text

theorem Theme.ofName?_eq_some (word : String) (theme : Theme) :
    ofName? word = some theme ↔ word = theme.name := by
  rw [ofName?]
  cases theme <;> grind [Theme.name]

theorem Theme.ofText_eq_ok (text : String) (theme : Theme) :
    ofText text = .ok theme ↔
      Text.meant text = theme.name ∨ (Text.meant text = "auto" ∧ theme = .system) := by
  have word : Text.lowerAscii (Text.trim text) = Text.meant text := rfl
  rw [ofText, word, ← ofName?_eq_some]
  by_cases other : Text.meant text = "auto"
  · have noName : ofName? "auto" = none := by decide
    simp [other, noName, eq_comm]
  · cases ofName? (Text.meant text) <;> simp [other]

theorem LinkEncoding.ofName?_eq_some (word : String) (encoding : LinkEncoding) :
    ofName? word = some encoding ↔ word = encoding.name := by
  rw [ofName?]
  cases encoding <;> grind [LinkEncoding.name]

theorem LinkEncoding.ofText_eq_ok (text : String) (encoding : LinkEncoding) :
    ofText text = .ok encoding ↔ Text.meant text = encoding.name := by
  have word : Text.lowerAscii (Text.trim text) = Text.meant text := rfl
  rw [ofText, word, ← ofName?_eq_some]
  cases ofName? (Text.meant text) <;> simp

@[simp]
theorem Theme.meant_name (theme : Theme) : Text.meant theme.name = theme.name := by
  cases theme <;> decide

@[simp]
theorem LinkEncoding.meant_name (encoding : LinkEncoding) :
    Text.meant encoding.name = encoding.name := by
  cases encoding <;> decide

/-- No word for a theme begins with a dash. -/
theorem Theme.head?_of_ofText
    {text : String}
    {theme : Theme}
    (accepted : ofText text = .ok theme) :
    text.toList.head? ≠ some '-' := by
  intro dash
  have begins := Text.head?_meant dash (by decide)
  rcases (ofText_eq_ok text theme).mp accepted with word | ⟨word, _⟩
  · rw [word] at begins
    revert begins
    cases theme <;> decide
  · rw [word] at begins
    revert begins
    decide

/-- No word for an encoding begins with a dash. -/
theorem LinkEncoding.head?_of_ofText
    {text : String}
    {encoding : LinkEncoding}
    (accepted : ofText text = .ok encoding) :
    text.toList.head? ≠ some '-' := by
  intro dash
  have begins := Text.head?_meant dash (by decide)
  rw [(ofText_eq_ok text encoding).mp accepted] at begins
  revert begins
  cases encoding <;> decide

end ReportIndex
