import ReportIndex.Proofs.Link.External
import ReportIndex.Proofs.Text.Trim

/-!
Contract: a later version takes the place of an earlier one.

Owns:
- under the query strategy a second version replaces the first, if its parameter can be
  found again by its name;
- a parameter that cannot be found again is written once more with every version, so
  that the versions accumulate.

Does not own: what else a version changes.
-/

namespace ReportIndex

namespace Href

/-- What stands in a query and is no separator stands in its parameters. -/
theorem count_parameters
    {mark : Char}
    (different : mark ≠ '&')
    (href : List Char) :
    (parameters href).flatten.count mark = (query href).count mark := by
  rw [parameters, List.flatten_filter_not_isEmpty, ← count_intercalate different,
    List.intercalate_splitOn]

/-- Only the sign that announces the query stands in none of a target's three parts. -/
theorem count_parts
    {mark : Char}
    (different : mark ≠ '?')
    (href : List Char) :
    href.count mark =
      (path href).count mark + (query href).count mark + (fragment href).count mark := by
  have behind : ((withoutFragment href).dropWhile (· != '?')).count mark = (query href).count mark := by
    rw [query]
    cases found : (withoutFragment href).dropWhile (· != '?') with
    | nil => rfl
    | cons first rest =>
        have question : first = '?' := by simpa using kept_of_dropWhile_eq_cons found
        simp [question, different.symm]
  calc href.count mark
      = (withoutFragment href ++ fragment href).count mark := by
        rw [withoutFragment, fragment, List.takeWhile_append_dropWhile]
    _ = (withoutFragment href).count mark + (fragment href).count mark := List.count_append
    _ = (path href ++ (withoutFragment href).dropWhile (· != '?')).count mark
          + (fragment href).count mark := by
        rw [path, List.takeWhile_append_dropWhile]
    _ = (path href).count mark + (query href).count mark + (fragment href).count mark := by
        rw [List.count_append, behind]

/-- What a query is read into has names that can be found again. -/
theorem isParameterName_parameterName
    {parameter : List Char}
    (isParameter : IsParameter parameter) :
    IsParameterName (parameterName parameter) := by
  have subset : parameterName parameter ⊆ parameter := List.takeWhile_subset _
  refine ⟨fun member => isParameter.noAmpersand (subset member), fun member => ?_,
    fun member => isParameter.noHash (subset member)⟩
  simpa using List.mem_takeWhile_imp member

end Href

namespace LinkStrategy

/-! ## Names that are found again -/

/-- The second version takes the place of the first. -/
theorem mergeQuery_mergeQuery
    {name : List Char}
    (isName : Href.IsParameterName name)
    (version other : String)
    (href : List Char) :
    mergeQuery name other (mergeQuery name version href) = mergeQuery name other href := by
  have parameters : versionedParameters name other (mergeQuery name version href) =
      versionedParameters name other href := by
    rw [versionedParameters, parameters_mergeQuery isName, versionedParameters, versionedParameters,
      List.filter_append, List.filter_filter]
    simp [parameterName_written isName]
  rw [mergeQuery, parameters, path_mergeQuery isName, fragment_mergeQuery isName, ← mergeQuery]

/-! ## Names that are not -/

section

variable
  {name : List Char}
  (notName : ¬Href.IsParameterName name)
  (version : String)
  (href : List Char)

include notName

/-- No parameter gives way. -/
theorem versionedParameters_of_not_isParameterName :
    versionedParameters name version href =
      Href.parameters href ++ [name ++ '=' :: Percent.encode version] := by
  rw [versionedParameters, List.filter_eq_self.mpr]
  intro parameter member
  have isName := Href.isParameterName_parameterName (Href.isParameter_of_mem member)
  have different : Href.parameterName parameter ≠ name := fun same => notName (same ▸ isName)
  simpa using different

/-- Each version adds its own sign of equality, and those of the name. -/
theorem count_mergeQuery :
    (mergeQuery name version href).count '=' = href.count '=' + name.count '=' + 1 := by
  have noEquals : (Percent.encode version).count '=' = 0 :=
    List.count_eq_zero.mpr (Percent.not_mem_encode rfl version)
  rw [mergeQuery, versionedParameters_of_not_isParameterName notName, Href.count_parts (by decide) href,
    List.count_append, List.count_append, List.count_cons, count_intercalate (by decide),
    List.flatten_append, List.count_append, Href.count_parameters (by decide)]
  simp [noEquals]
  omega

end

/-- Whether a version replaces the one before depends on the name alone, not on the
target or the versions. -/
theorem mergeQuery_mergeQuery_iff
    (name : List Char)
    (version other : String)
    (href : List Char) :
    mergeQuery name other (mergeQuery name version href) = mergeQuery name other href ↔
      Href.IsParameterName name := by
  constructor
  · intro same
    by_contra notName
    -- Three versions are merged in all: two of them on the left, where both stay.
    have counts := congrArg (List.count '=') same
    rw [count_mergeQuery notName, count_mergeQuery notName, count_mergeQuery notName] at counts
    omega
  · intro isName
    exact mergeQuery_mergeQuery isName version other href

/-! ## Names as a user gives them -/

/-- Blanks at the ends of a name do not decide whether it can be found again. -/
theorem isParameterName_trim_iff (parameter : String) :
    Href.IsParameterName (Text.trim parameter).toList ↔ Href.IsParameterName parameter.toList := by
  constructor
  · intro isName
    exact ⟨fun member => isName.noAmpersand (Text.mem_toList_trim member rfl),
      fun member => isName.noEquals (Text.mem_toList_trim member rfl),
      fun member => isName.noHash (Text.mem_toList_trim member rfl)⟩
  · intro isName
    exact isName.of_subset (Text.toList_trim_subset parameter)

theorem exists_queryNamed (parameter : String) :
    ∃ name : String,
      queryNamed parameter = .query name
        ∧ (Href.IsParameterName name.toList ↔ Href.IsParameterName parameter.toList) := by
  cases blank : Text.isBlankText parameter with
  | true =>
      have trimmed : Text.trim parameter = "" := (Text.trim_eq_empty_iff parameter).mpr blank
      refine ⟨defaultParameter, by simp [queryNamed, trimmed], ?_⟩
      rw [← isParameterName_trim_iff parameter, trimmed]
      exact iff_of_true (by decide) (by decide)
  | false =>
      exact ⟨Text.trim parameter, queryNamed_of_not_blank blank, isParameterName_trim_iff parameter⟩

section

variable
  {other : Option String}
  {active : String}
  (given : activeVersion other = some active)

include given

/-- **When a later version replaces an earlier one.** Resolving a resolved target gives
what resolving the stored one gives, if the first version is blank, if the target
leaves the site, or if the name holds none of `&`, `=` and `#`, and in no other case:
for any other name the parameter of the first version stays. -/
theorem version_replaces_iff
    (parameter href : String)
    (version : Option String) :
    (queryNamed parameter).resolve ((queryNamed parameter).resolve href version) other =
        (queryNamed parameter).resolve href other ↔
      activeVersion version = none
        ∨ Href.LeavesSite href.toList
        ∨ Href.IsParameterName parameter.toList := by
  obtain ⟨name, named, sameName⟩ := exists_queryNamed parameter
  rw [named, ← sameName, ← Href.isExternal_eq_true_iff]
  cases found : activeVersion version with
  | none =>
      rw [resolve_of_none found]
      exact iff_of_true rfl (.inl rfl)
  | some earlier =>
      cases external : Href.isExternal href.toList with
      | true =>
          rw [resolve_external rfl external version]
          exact iff_of_true rfl (.inr (.inl rfl))
      | false =>
          have stillInternal : Href.isExternal ((query name).resolve href version).toList = false := by
            rw [isExternal_resolve rfl, external]
          have first : (query name).resolve href version =
              String.ofList (mergeQuery name.toList earlier href.toList) := by
            rw [resolve_of_active found, apply_query external]
          rw [resolve_of_active given, resolve_of_active given, apply_query stillInternal,
            apply_query external, first, String.ofList_inj, String.toList_ofList,
            mergeQuery_mergeQuery_iff]
          simp

end

/-- A name with a question mark is found again, though it stands behind another one; a
name with a number sign is not. -/
theorem version_replaces_question_mark :
    (queryNamed " v?w").resolve ((queryNamed " v?w").resolve "/a?x&v?w=0#y" (some "1")) (some "2 ") =
        (queryNamed " v?w").resolve "/a?x&v?w=0#y" (some "2 ")
      ∧ (queryNamed "v#w").resolve ((queryNamed "v#w").resolve "/a" (some "1")) (some "2 ") ≠
          (queryNamed "v#w").resolve "/a" (some "2 ") := by
  have given : activeVersion (some "2 ") = some "2" := by decide
  refine ⟨(version_replaces_iff given " v?w" _ _).mpr (.inr (.inr (by decide))), fun same => ?_⟩
  rcases (version_replaces_iff given "v#w" _ _).mp same with blank | leaves | isName
  · exact absurd blank (by decide)
  · exact absurd ((Href.isExternal_eq_true_iff _).mpr leaves) (by decide)
  · exact absurd isName (by decide)

/-- With a sign of equality in the name, the parameter of the earlier version stays. -/
theorem versions_accumulate :
    let strategy := queryNamed "a=b"
    activeVersion (some "v2") = some "v2"
      ∧ strategy.resolve (strategy.resolve "/foo" (some "v1")) (some "v2") = "/foo?a=b=v1&a=b=v2"
      ∧ strategy.resolve "/foo" (some "v2") = "/foo?a=b=v2" := by
  decide

end LinkStrategy

end ReportIndex
