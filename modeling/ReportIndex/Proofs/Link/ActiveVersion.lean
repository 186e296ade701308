import ReportIndex.Link.Strategy
import ReportIndex.Proofs.Text.Trim

/-!
Contract: the active version is settled once.

Owns:
- when a version is active, and as what, and what a target is resolved to then;
- taking the active version again changes nothing, so that a target is the same
  whether it is resolved with the version as given or as active.

Does not own: how a strategy merges a version.
-/

namespace ReportIndex

theorem activeVersion_eq_some_iff (version : Option String) (active : String) :
    activeVersion version = some active ↔
      ∃ given, version = some given ∧ Text.trim given = active ∧ active ≠ "" := by
  cases version with
  | none => simp [activeVersion]
  | some given =>
      simp only [activeVersion, Option.map_some, Option.filter_eq_some_iff, Option.some.injEq,
        Bool.not_eq_eq_eq_not, Bool.not_true, String.isEmpty_eq_false_iff, exists_eq_left']

/-- An active version is active as it is. -/
@[simp]
theorem activeVersion_activeVersion (version : Option String) :
    activeVersion (activeVersion version) = activeVersion version := by
  cases found : activeVersion version with
  | none => rfl
  | some active =>
      obtain ⟨given, _, trimmed, present⟩ := (activeVersion_eq_some_iff _ _).mp found
      rw [activeVersion_eq_some_iff]
      exact ⟨active, rfl, by rw [← trimmed, Text.trim_trim], present⟩

/-- Blanks at the ends of a version do not count. -/
@[simp]
theorem activeVersion_trim (given : String) :
    activeVersion (some (Text.trim given)) = activeVersion (some given) := by
  simp [activeVersion]

theorem LinkStrategy.resolve_activeVersion
    (strategy : LinkStrategy)
    (href : String)
    (version : Option String) :
    strategy.resolve href (activeVersion version) = strategy.resolve href version := by
  rw [resolve, activeVersion_activeVersion, ← resolve]

theorem LinkStrategy.resolve_of_active
    {version : Option String}
    {active : String}
    (given : activeVersion version = some active)
    (strategy : LinkStrategy)
    (href : String) :
    strategy.resolve href version = strategy.apply href active := by
  rw [resolve, given]

theorem LinkStrategy.resolve_of_none
    {version : Option String}
    (absent : activeVersion version = none)
    (strategy : LinkStrategy)
    (href : String) :
    strategy.resolve href version = href := by
  rw [resolve, absent]

end ReportIndex
