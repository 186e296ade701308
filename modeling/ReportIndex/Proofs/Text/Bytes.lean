import Mathlib
import ReportIndex.Text.Bytes

/-!
Contract: cutting a text at a place given in bytes.

Owns:
- a text is cut in front of a character or nowhere, and nothing is lost;
- which characters have another one in lower case, and that it takes as many bytes.

Does not own: which texts are cut, and where.
-/

namespace ReportIndex.Text

theorem utf8Length_cons (first : Char) (rest : List Char) :
    utf8Length (first :: rest) = first.utf8Size + utf8Length rest :=
  rfl

theorem utf8Length_eq_zero_iff (characters : List Char) :
    utf8Length characters = 0 ↔ characters = [] := by
  cases characters with
  | nil => simp [utf8Length]
  | cons first rest =>
      have positive := first.utf8Size_pos
      simp only [utf8Length_cons, reduceCtorEq, iff_false]
      omega

/-! ## Cutting -/

/-- A text can be cut exactly where its first characters end. -/
theorem splitAtByte?_eq_some_iff (count : Nat) (characters front behind : List Char) :
    splitAtByte? count characters = some (front, behind) ↔
      front ++ behind = characters ∧ utf8Length front = count := by
  fun_induction splitAtByte? count characters generalizing front with
  | case1 characters =>
      rw [utf8Length_eq_zero_iff]
      constructor
      · intro cut
        cases cut
        exact ⟨rfl, rfl⟩
      · rintro ⟨rfl, rfl⟩
        rfl
  | case2 count =>
      refine iff_of_false (by simp) ?_
      rintro ⟨whole, length⟩
      rw [(List.append_eq_nil_iff.mp whole).1] at length
      cases length
  | case3 count first rest fits inductionHypothesis =>
      cases front with
      | nil => simp [utf8Length]
      | cons head others =>
          rw [Option.map_eq_some_iff]
          constructor
          · rintro ⟨halves, cut, same⟩
            cases same
            obtain ⟨whole, length⟩ := (inductionHypothesis _).mp cut
            rw [utf8Length_cons, List.cons_append, whole, length]
            exact ⟨rfl, Nat.add_sub_cancel' fits⟩
          · rintro ⟨whole, length⟩
            obtain ⟨rfl, behindHead⟩ := List.cons.inj whole
            rw [utf8Length_cons] at length
            exact ⟨(others, behind),
              (inductionHypothesis others).mpr ⟨behindHead, Nat.eq_sub_of_add_eq' length⟩, rfl⟩
  | case4 count first rest tooLong =>
      refine iff_of_false (by simp) ?_
      rintro ⟨whole, length⟩
      cases front with
      | nil => cases length
      | cons head others =>
          cases whole
          rw [utf8Length_cons] at length
          omega

/-! ## Lower case -/

/-- Only the letters `A` to `Z` become other ones. -/
theorem toLower_cases (character : Char) :
    character.toLower = character
      ∨ (65 ≤ character.toNat ∧ character.toNat ≤ 90
          ∧ character.toLower.toNat = character.toNat + 32) := by
  rw [Char.toLower]
  split
  next capital =>
    obtain ⟨low, high⟩ := capital
    rw [ge_iff_le, UInt32.le_iff_toNat_le] at low
    rw [UInt32.le_iff_toNat_le] at high
    have noCarry : character.val.toNat + 32 < 2 ^ 32 :=
      Nat.lt_of_le_of_lt (Nat.add_le_add_right high 32) (by decide)
    exact .inr ⟨low, high, (UInt32.toNat_add _ _).trans (Nat.mod_eq_of_lt noCarry)⟩
  next => exact .inl rfl

theorem utf8Size_toLower (character : Char) : character.toLower.utf8Size = character.utf8Size := by
  rcases toLower_cases character with same | ⟨_, high, lowered⟩
  · rw [same]
  · have before : character.utf8Size = 1 := by
      rw [Char.utf8Size_eq_one_iff, UInt32.le_iff_toNat_le]
      exact high.trans (by decide)
    have after : character.toLower.utf8Size = 1 := by
      rw [Char.utf8Size_eq_one_iff, UInt32.le_iff_toNat_le]
      exact lowered.trans_le (Nat.add_le_add_right high 32) |>.trans (by decide)
    rw [before, after]

theorem utf8Length_map_toLower (characters : List Char) :
    utf8Length (characters.map Char.toLower) = utf8Length characters := by
  induction characters with
  | nil => rfl
  | cons first rest inductionHypothesis =>
      rw [List.map_cons, utf8Length_cons, utf8Length_cons, utf8Size_toLower, inductionHypothesis]

end ReportIndex.Text
