import Mathlib.Algebra.Group.Nat.Defs
import Mathlib.Tactic.SplitIfs
import ReportIndex.Json.Printer
import ReportIndex.Json.Reader

/-!
Contract: a printed string, and a printed whole number, can be read back.

Owns:
- the escapes of a string, each of which stands for the character that was
  escaped;
- the digits of a whole number that fits into 64 bits, where what follows them
  does not continue the number.

Does not own: lists and objects.

A reader gives what is left of the text. So every statement is about a printed
form with any text behind it.
-/

namespace ReportIndex.Json

/-! ## Strings -/

/-- Two small hexadecimal digits stand for the control that they were made from. -/
theorem hexUnit?_lowerHexDigit (code : Nat) (control : code < 0x20) :
    hexUnit? '0' '0' (lowerHexDigit (code / 16)) (lowerHexDigit (code % 16)) = some code := by
  revert code
  decide

theorem not_surrogate_of_control {code : Nat} (control : code < 0x20) :
    isLowSurrogate code = false ∧ isHighSurrogate code = false := by
  simp only [isLowSurrogate, isHighSurrogate, Bool.and_eq_false_iff, decide_eq_false_iff_not]
  omega

theorem readEscape_control
    (character : Char)
    (control : character.toNat < 0x20)
    (rest : List Char) :
    readEscape
        ('u' :: '0' :: '0' :: lowerHexDigit (character.toNat / 16)
          :: lowerHexDigit (character.toNat % 16) :: rest) =
      .ok (character, rest) := by
  obtain ⟨notLow, notHigh⟩ := not_surrogate_of_control control
  have unit : readUnit
      ('0' :: '0' :: lowerHexDigit (character.toNat / 16)
        :: lowerHexDigit (character.toNat % 16) :: rest) = .ok (character.toNat, rest) := by
    simp only [readUnit, hexUnit?_lowerHexDigit _ control, Option.map_some]
  rw [readEscape, unit]
  simp [bind, Except.bind, pure, Except.pure, notLow, notHigh, Char.ofNat_toNat]

/-- A character is printed as an escape that is read as this character, or, where
no escape is needed, as itself. -/
theorem escapeCharacter_cases (character : Char) :
    (∃ letters, escapeCharacter character = '\\' :: letters
        ∧ ∀ rest, readEscape (letters ++ rest) = .ok (character, rest))
      ∨ (escapeCharacter character = [character]
        ∧ character ≠ '"' ∧ character ≠ '\\' ∧ ¬character.toNat < 0x20) := by
  rw [escapeCharacter]
  split_ifs with quote backslash backspace formFeed lineFeed carriageReturn tab control
  · subst quote
    exact .inl ⟨_, rfl, fun rest => rfl⟩
  · subst backslash
    exact .inl ⟨_, rfl, fun rest => rfl⟩
  · exact .inl ⟨_, rfl, fun rest => backspace ▸ rfl⟩
  · exact .inl ⟨_, rfl, fun rest => formFeed ▸ rfl⟩
  · exact .inl ⟨_, rfl, fun rest => lineFeed ▸ rfl⟩
  · exact .inl ⟨_, rfl, fun rest => carriageReturn ▸ rfl⟩
  · exact .inl ⟨_, rfl, fun rest => tab ▸ rfl⟩
  · exact .inl ⟨_, rfl, readEscape_control character control⟩
  · exact .inr ⟨rfl, quote, backslash, control⟩

theorem length_flatMap_escapeCharacter (characters : List Char) :
    characters.length ≤ (characters.flatMap escapeCharacter).length := by
  induction characters with
  | nil => simp
  | cons character characters inductionHypothesis =>
      have nonempty : 0 < (escapeCharacter character).length := by
        rcases escapeCharacter_cases character with ⟨letters, escaped, _⟩ | ⟨plain, _⟩
        · simp [escaped]
        · simp [plain]
      rw [List.flatMap_cons, List.length_append, List.length_cons]
      omega

theorem readCharacters_escapeCharacter
    (steps : Nat)
    (character : Char)
    (rest : List Char) :
    readCharacters (steps + 1) (escapeCharacter character ++ rest) = do
      let (characters, remaining) ← readCharacters steps rest
      return (character :: characters, remaining) := by
  rcases escapeCharacter_cases character with
    ⟨letters, escaped, read⟩ | ⟨plain, notQuote, notBackslash, notControl⟩
  · rw [escaped, List.cons_append, readCharacters, read]
    rfl
  · rw [plain, List.singleton_append]
    simp only [readCharacters, notControl, ↓reduceIte]

theorem readCharacters_flatMap
    {steps : Nat}
    {characters : List Char}
    (enough : characters.length < steps)
    (rest : List Char) :
    readCharacters steps (characters.flatMap escapeCharacter ++ '"' :: rest) =
      .ok (characters, rest) := by
  induction characters generalizing steps with
  | nil =>
      obtain ⟨further, rfl⟩ := Nat.exists_eq_add_one.mpr enough
      rfl
  | cons character characters inductionHypothesis =>
      obtain ⟨further, rfl⟩ := Nat.exists_eq_add_one.mpr (Nat.zero_lt_of_lt enough)
      rw [List.flatMap_cons, List.append_assoc, readCharacters_escapeCharacter,
        inductionHypothesis (Nat.lt_of_succ_lt_succ enough)]
      rfl

/-- A printed string is read back from behind its opening quote. -/
theorem readString_printed (text : String) (rest : List Char) :
    readString (text.toList.flatMap escapeCharacter ++ '"' :: rest) = .ok (text, rest) := by
  have enough : text.toList.length <
      (text.toList.flatMap escapeCharacter ++ '"' :: rest).length + 1 := by
    have bound := length_flatMap_escapeCharacter text.toList
    rw [List.length_append]
    omega
  rw [readString, readCharacters_flatMap enough]
  simp [bind, Except.bind, pure, Except.pure]

theorem printString_append (text : String) (rest : List Char) :
    printString text ++ rest = '"' :: (text.toList.flatMap escapeCharacter ++ '"' :: rest) := by
  simp [printString]

/-! ## Whole numbers -/

/-- What stands behind a number does not continue it. -/
def EndsNumber (rest : List Char) : Prop :=
  ∀ character ∈ rest.head?,
    character.isDigit = false ∧ character ≠ '.' ∧ character ≠ 'e' ∧ character ≠ 'E'

theorem EndsNumber.not_startsWithDigit
    {rest : List Char}
    (ends : EndsNumber rest) :
    startsWithDigit rest = false := by
  cases rest with
  | nil => rfl
  | cons character rest => exact (ends character rfl).1

theorem isDigit_digitChar (digit : Nat) (small : digit < 10) :
    digit.digitChar.isDigit = true ∧ (digit.digitChar = '0' → digit = 0) := by
  revert digit
  decide

theorem digit?_digitChar (digit : Nat) (small : digit < 10) :
    Text.digit? digit.digitChar = some digit := by
  revert digit
  decide

theorem gatherDigits_of_not_startsWithDigit
    {rest : List Char}
    (ends : startsWithDigit rest = false)
    (significand : Nat) :
    gatherDigits significand rest = (significand, 0, rest) := by
  cases rest with
  | nil => rfl
  | cons character rest =>
      have noDigit : Text.digit? character = none := if_neg (Bool.eq_false_iff.mp ends)
      simp [gatherDigits, noDigit]

theorem gatherDigits_digitChar
    {significand digit : Nat}
    (isDigit : digit < 10)
    (small : significand * 10 + digit < 2 ^ 64)
    (rest : List Char) :
    gatherDigits significand (digit.digitChar :: rest) =
      ((gatherDigits (significand * 10 + digit) rest).1,
        (gatherDigits (significand * 10 + digit) rest).2.1 + 1,
        (gatherDigits (significand * 10 + digit) rest).2.2) := by
  rw [gatherDigits, digit?_digitChar digit isDigit]
  exact if_neg (Nat.not_le.mpr small)

/-- Behind the digits of a number that fits, gathering goes on with that number. -/
theorem gatherDigits_toDigits
    {value : Nat}
    (small : value < 2 ^ 64)
    (rest : List Char) :
    gatherDigits 0 (Nat.toDigits 10 value ++ rest) =
      ((gatherDigits value rest).1,
        (gatherDigits value rest).2.1 + (Nat.toDigits 10 value).length,
        (gatherDigits value rest).2.2) := by
  -- The last digit comes off at the end of the text; all before it are those of `value / 10`.
  induction value using Nat.strongRecOn generalizing rest with
  | ind value inductionHypothesis =>
      by_cases single : value < 10
      · have fits : 0 * 10 + value < 2 ^ 64 := by omega
        rw [Nat.toDigits_of_lt_base single, List.singleton_append,
          gatherDigits_digitChar single fits, Nat.zero_mul, Nat.zero_add]
        rfl
      · have above : 10 ≤ value := Nat.not_lt.mp single
        have isDigit : value % 10 < 10 := Nat.mod_lt value (by decide)
        have parts : value / 10 * 10 + value % 10 = value := Nat.div_add_mod' value 10
        rw [Nat.toDigits_of_base_le (by decide) above, List.append_assoc, List.singleton_append,
          inductionHypothesis (value / 10) (by omega) (by omega),
          gatherDigits_digitChar isDigit (by rwa [parts]), parts, List.length_append,
          List.length_singleton]
        simp only [Prod.mk.injEq, true_and, and_true]
        omega

/-- The digits of a number begin with a digit, which is zero only for zero. -/
theorem toDigits_begins (value : Nat) :
    ∃ first others, Nat.toDigits 10 value = first :: others
      ∧ first.isDigit = true ∧ (first = '0' → value = 0 ∧ others = []) := by
  induction value using Nat.strongRecOn with
  | ind value inductionHypothesis =>
      by_cases single : value < 10
      · obtain ⟨isDigit, zero⟩ := isDigit_digitChar value single
        exact ⟨value.digitChar, [], Nat.toDigits_of_lt_base single, isDigit,
          fun isZero => ⟨zero isZero, rfl⟩⟩
      · obtain ⟨first, others, begins, isDigit, zero⟩ :=
          inductionHypothesis (value / 10) (by omega)
        refine ⟨first, others ++ [(value % 10).digitChar], ?_, isDigit, fun isZero => ?_⟩
        · rw [Nat.toDigits_of_base_le (by decide) (Nat.not_lt.mp single), begins, List.cons_append]
        · have none := (zero isZero).1
          omega

theorem finishWhole_of_endsNumber
    {rest : List Char}
    (ends : EndsNumber rest)
    (positive : Bool)
    (significand : Nat) :
    finishWhole positive significand rest =
      if positive then .ok (.natural significand, rest)
      else if significand = 0 ∨ Nat.pow 2 63 < significand then
        .ok (.real (-significand.toUInt64.toFloat), rest)
      else .ok (.negative significand, rest) := by
  cases rest with
  | nil => rfl
  | cons character rest =>
      obtain ⟨_, notPoint, notSmall, notCapital⟩ := ends character rfl
      rw [finishWhole]
      · exact fun _ same => notPoint (List.cons.inj same).1
      · exact fun _ same => notSmall (List.cons.inj same).1
      · exact fun _ same => notCapital (List.cons.inj same).1

/-- Digits that do not go on are read as the whole number that they were made
from. -/
theorem readNumber_toDigits
    {value : Nat}
    {rest : List Char}
    (small : value < 2 ^ 64)
    (ends : EndsNumber rest)
    (positive : Bool) :
    readNumber positive (Nat.toDigits 10 value ++ rest) = finishWhole positive value rest := by
  obtain ⟨first, others, begins, isDigit, zero⟩ := toDigits_begins value
  have gathered := gatherDigits_toDigits small rest
  rw [gatherDigits_of_not_startsWithDigit ends.not_startsWithDigit, begins, List.cons_append]
    at gathered
  rw [begins, List.cons_append]
  by_cases isZero : first = '0'
  · obtain ⟨rfl, rfl⟩ := zero isZero
    rw [isZero, readNumber, List.nil_append, ends.not_startsWithDigit]
    rfl
  · simp only [readNumber, isDigit, gathered, ends.not_startsWithDigit, ↓reduceIte]
    rfl

end ReportIndex.Json
