/-!
Contract: results of steps that can fail.

Owns:
- what it takes for two steps, or for a step with a function behind it, to give a result;
- results of which the reason for a failure is changed or left out.

Does not own: the steps.
-/

namespace ReportIndex

variable {ε ν α β : Type}

theorem bind_eq_ok
    (first : Except ε α)
    (next : α → Except ε β)
    (result : β) :
    first >>= next = .ok result ↔ ∃ value, first = .ok value ∧ next value = .ok result := by
  cases first <;> simp [bind, Except.bind]

theorem map_eq_ok
    (first : Except ε α)
    (function : α → β)
    (result : β) :
    first.map function = .ok result ↔ ∃ value, first = .ok value ∧ function value = result := by
  cases first <;> simp [Except.map]

theorem toOption_eq_some (result : Except ε α) (value : α) :
    result.toOption = some value ↔ result = .ok value := by
  cases result <;> simp [Except.toOption]

/-- A check whether there is a result, with a notice if there is none. -/
theorem check_eq_ok (result : Except ε α) (notice : ε → ν) :
    (result.mapError notice |>.map fun _ => ()) = .ok () ↔
      ∃ value, result.toOption = some value := by
  cases result with
  | ok value => exact iff_of_true rfl ⟨value, rfl⟩
  | error reason =>
      constructor
      · intro accepted
        cases accepted
      · rintro ⟨_, read⟩
        cases read

end ReportIndex
