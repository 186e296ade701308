import Mathlib.Tactic.Ring
import ReportIndex.Toml.Reader

/-!
Contract: every text can be written in a TOML document.

Owns:
- a quoted form of any text, in which each character is an escape;
- reading it back;
- the documents that set one key, at the top or below a heading, to a text.

Does not own: the other ways in which documents write texts.
-/

namespace ReportIndex.Toml

/-! ## Escapes -/

/-- The last `count` hexadecimal digits of a code point. -/
def codeDigits : Nat → Nat → List Char
  | 0, _ => []
  | count + 1, code => codeDigits count (code / 16) ++ [(code % 16).digitChar]

/-- The escape of a character by its code point. -/
def escape (character : Char) : List Char :=
  '\\' :: 'U' :: codeDigits 8 character.toNat

theorem hexDigit?_digitChar (digit : Nat) (small : digit < 16) :
    Text.hexDigit? digit.digitChar = some digit := by
  revert digit
  decide

theorem readCodePoint?_codeDigits
    (count more before code : Nat)
    (rest : List Char) :
    readCodePoint? (count + more) before (codeDigits count code ++ rest) =
      readCodePoint? more (before * 16 ^ count + code % 16 ^ count) rest := by
  induction count generalizing more code rest with
  | zero => simp [codeDigits, Nat.mod_one]
  | succ count inductionHypothesis =>
      have isDigit : code % 16 < 16 := Nat.mod_lt code (by decide)
      have value : (before * 16 ^ count + code / 16 % 16 ^ count) * 16 + code % 16 =
          before * 16 ^ (count + 1) + code % 16 ^ (count + 1) := by
        rw [Nat.pow_succ', Nat.mod_mul]
        ring
      rw [codeDigits, List.append_assoc, List.singleton_append, Nat.add_right_comm count 1 more,
        Nat.add_assoc count more 1, inductionHypothesis, readCodePoint?,
        hexDigit?_digitChar _ isDigit]
      dsimp only
      rw [value]

theorem readEscape?_escape (character : Char) (rest : List Char) :
    readEscape? ((escape character).tail ++ rest) = some (character, rest) := by
  have isCode : character.toNat.isValidChar := character.valid
  have small : character.toNat < 16 ^ 8 := by
    rcases isCode with small | ⟨_, small⟩ <;> omega
  have read := readCodePoint?_codeDigits 8 0 0 character.toNat rest
  rw [Nat.mod_eq_of_lt small, Nat.zero_mul, Nat.zero_add, readCodePoint?] at read
  simp only [escape, List.tail_cons, List.cons_append, readEscape?]
  rw [read, if_pos isCode, Char.ofNat_toNat]

/-! ## Quoted texts -/

/-- A text between double quotes, with each character as an escape. -/
def quoted (text : String) : List Char :=
  '"' :: text.toList.flatMap escape ++ ['"']

theorem readBasic?_escapes
    {steps : Nat}
    {characters : List Char}
    (enough : characters.length < steps)
    (rest : List Char) :
    readBasic? steps (characters.flatMap escape ++ '"' :: rest) = some (characters, rest) := by
  induction characters generalizing steps with
  | nil =>
      obtain ⟨further, rfl⟩ := Nat.exists_eq_add_one.mpr enough
      rfl
  | cons character characters inductionHypothesis =>
      obtain ⟨further, rfl⟩ := Nat.exists_eq_add_one.mpr (Nat.zero_lt_of_lt enough)
      have read := readEscape?_escape character (characters.flatMap escape ++ '"' :: rest)
      rw [List.flatMap_cons, List.append_assoc]
      simp only [escape, List.tail_cons, List.cons_append] at read ⊢
      rw [readBasic?, read]
      dsimp only
      rw [inductionHypothesis (Nat.lt_of_succ_lt_succ enough)]
      rfl

theorem length_le_escapes (characters : List Char) :
    characters.length ≤ (characters.flatMap escape).length := by
  induction characters with
  | nil => exact Nat.le_refl 0
  | cons character characters inductionHypothesis =>
      rw [List.flatMap_cons, List.length_append, List.length_cons, escape, List.length_cons]
      omega

/-- A quoted text is no text of several lines, and is read back. -/
theorem readText?_quoted
    {rest : List Char}
    (ends : rest.head? ≠ some '"')
    (text : String) :
    readText? (quoted text ++ rest) = some (text, rest) := by
  have enough : text.toList.length <
      (text.toList.flatMap escape ++ '"' :: rest).length + 1 := by
    have bound := length_le_escapes text.toList
    rw [List.length_append]
    omega
  have read := readBasic?_escapes enough rest
  have single : quoted text ++ rest = '"' :: (text.toList.flatMap escape ++ '"' :: rest) := by
    simp [quoted]
  have oneLine : readText? (quoted text ++ rest) = readLineText? (quoted text ++ rest) := by
    rw [single]
    cases text.toList with
    | cons character characters => rfl
    | nil =>
        cases rest with
        | nil => rfl
        | cons next rest =>
            have noQuote : next ≠ '"' := by simpa using ends
            rw [readText?]
            · intro further same
              exact noQuote (List.cons.inj (List.cons.inj (List.cons.inj same).2).2).1
            · intro further same
              exact absurd (List.cons.inj same).1 (by decide)
  rw [oneLine, single, readLineText?, read]
  simp

/-! ## Documents -/

theorem readValue?_quoted
    {rest : List Char}
    (ends : rest.head? ≠ some '"')
    (levels : Nat)
    (text : String) :
    readValue? levels (quoted text ++ rest) = some (.string text, rest) := by
  have read := readText?_quoted ends text
  have begins : quoted text ++ rest = '"' :: (text.toList.flatMap escape ++ '"' :: rest) := by
    simp [quoted]
  rw [begins] at read ⊢
  rw [readValue?, read]
  rfl

/-- The pair of a bare key and a text, from the key on. -/
theorem readPair?_quoted
    {line : List Char}
    {key : String}
    (text : String)
    (isKey : readKey? line = some ([key], '=' :: ' ' :: (quoted text ++ ['\n']))) :
    readPair? (fun blanks => some (blanks.dropWhile isSpace)) (readValue? nestingLimit) line =
      some (([], key, .string text), ['\n']) := by
  have noQuote : ['\n'].head? ≠ some '"' := by decide
  have value := readValue?_quoted noQuote nestingLimit text
  have before : ('=' :: ' ' :: (quoted text ++ ['\n'])).dropWhile isSpace =
      '=' :: ' ' :: (quoted text ++ ['\n']) := rfl
  have behind : (' ' :: (quoted text ++ ['\n'])).dropWhile isSpace = quoted text ++ ['\n'] := rfl
  rw [readPair?, isKey]
  simp only [Option.bind_eq_bind, Option.bind_some, before, behind, value]
  rfl

/-- A statement that does not begin with a bracket is a pair. -/
theorem readStatement?_of_pair
    {line behind : List Char}
    {pair : Pair}
    (notHeading : line.head? ≠ some '[')
    (read :
      readPair? (fun blanks => some (blanks.dropWhile isSpace)) (readValue? nestingLimit) line =
        some (pair, behind)) :
    readStatement? line = some (.pair pair.1 pair.2.1 pair.2.2, behind) := by
  rw [readStatement?]
  · rw [read]
    rfl
  · rintro rest rfl
    exact notHeading rfl
  · rintro rest rfl
    exact notHeading rfl

section

variable {line behind rest : List Char} {statement : Statement}
  (begins : skipBetween? line = some line)
  (nonempty : line ≠ [])

include begins nonempty

theorem readStatements?_succ
    (read : readStatement? line = some (statement, behind))
    (ends : endLine? behind = some rest)
    (steps : Nat) :
    readStatements? (steps + 1) line = (readStatements? steps rest).map (statement :: ·) := by
  rw [readStatements?, begins]
  cases line with
  | nil => exact absurd rfl nonempty
  | cons first rest =>
      dsimp only
      rw [read]
      dsimp only
      rw [ends]

end

/-- A bare key with a text, in a line of its own. -/
def textLine (key text : String) : List Char :=
  key.toList ++ ' ' :: '=' :: ' ' :: (quoted text ++ ['\n'])

theorem textLine_ne_nil (key text : String) : textLine key text ≠ [] := by
  simp [textLine]

theorem readStatements?_textLine
    {key text : String}
    (begins : skipBetween? (textLine key text) = some (textLine key text))
    (notHeading : (textLine key text).head? ≠ some '[')
    (isKey :
      readKey? (textLine key text) = some ([key], '=' :: ' ' :: (quoted text ++ ['\n'])))
    {steps : Nat}
    (enough : 2 ≤ steps) :
    readStatements? steps (textLine key text) = some [.pair [] key (.string text)] := by
  obtain ⟨further, rfl⟩ := Nat.exists_eq_add_of_le' enough
  have read := readStatement?_of_pair notHeading (readPair?_quoted text isKey)
  exact readStatements?_succ begins (textLine_ne_nil key text) read rfl (further + 1)

/-- The document that says only what the theme is. -/
def themeDocument (text : String) : String :=
  String.ofList (textLine "theme" text)

/-- Lines below the heading of the link settings. -/
def belowLink (lines : List Char) : List Char :=
  '[' :: 'l' :: 'i' :: 'n' :: 'k' :: ']' :: '\n' :: lines

/-- The document that says only what the strategy of links is. -/
def strategyDocument (text : String) : String :=
  String.ofList (belowLink (textLine "strategy" text))

theorem parse?_themeDocument (text : String) :
    parse? (themeDocument text) = some [("theme", .string text)] := by
  have enough : 2 ≤ (textLine "theme" text).length + 1 := by simp [textLine]
  have notHeading : (textLine "theme" text).head? ≠ some '[' := by simp [textLine]
  have statements := readStatements?_textLine rfl notHeading rfl enough
  have noMark : dropByteOrderMark (textLine "theme" text) = textLine "theme" text := rfl
  rw [parse?, themeDocument, String.toList_ofList]
  simp only [noMark, statements]
  rfl

theorem parse?_strategyDocument (text : String) :
    parse? (strategyDocument text) = some [("link", .table [("strategy", .string text)])] := by
  have enough : 2 ≤ (belowLink (textLine "strategy" text)).length := by
    simp [belowLink, textLine]
  have notHeading : (textLine "strategy" text).head? ≠ some '[' := by simp [textLine]
  have last := readStatements?_textLine rfl notHeading rfl enough
  have nonempty : belowLink (textLine "strategy" text) ≠ [] := by simp [belowLink]
  have heading : readStatement? (belowLink (textLine "strategy" text)) =
    some (.heading ["link"], '\n' :: textLine "strategy" text) := rfl
  have statements := readStatements?_succ rfl nonempty heading rfl
    (belowLink (textLine "strategy" text)).length
  have noMark : dropByteOrderMark (belowLink (textLine "strategy" text)) =
    belowLink (textLine "strategy" text) := rfl
  rw [last] at statements
  rw [parse?, strategyDocument, String.toList_ofList]
  simp only [noMark, statements]
  rfl

end ReportIndex.Toml
