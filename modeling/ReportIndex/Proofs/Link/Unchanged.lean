import ReportIndex.Proofs.Link.External

/-!
Contract: which targets a version leaves as they are.

Owns:
- the form of a target that already carries a version, as its last parameter and
  nowhere else;
- every other target of the site is changed, under either strategy of this library.

Does not own: how a changed target differs.
-/

namespace ReportIndex

namespace Href

/-! ## Targets that carry a version -/

/-- The query of the target is a list of parameters, none of them empty. The last one
has this name and this value, and no other one has the name. -/
inductive Carries (name value : List Char) : List Char → Prop where
  | intro
      {front behind : List Char}
      {others : List (List Char)}
      (noQuestion : '?' ∉ front)
      (noHash : '#' ∉ front)
      (isFragment : behind = [] ∨ behind.head? = some '#')
      (areOthers : ∀ parameter ∈ others,
        IsParameter parameter ∧ parameterName parameter ≠ name) :
      Carries name value
        (front ++ '?' :: ['&'].intercalate (others ++ [name ++ '=' :: value]) ++ behind)

theorem head?_fragment (href : List Char) :
    fragment href = [] ∨ (fragment href).head? = some '#' := by
  cases found : fragment href with
  | nil => exact .inl rfl
  | cons mark rest =>
      have stopped := kept_of_dropWhile_eq_cons found
      right
      simpa using stopped

theorem fragment_of_head?
    {behind : List Char}
    (isFragment : behind = [] ∨ behind.head? = some '#') :
    fragment behind = behind := by
  rcases isFragment with rfl | hash
  · rfl
  · obtain ⟨rest, rfl⟩ := List.head?_eq_some_iff.mp hash
    simp [fragment]

end Href

namespace LinkStrategy

/-- A merged target carries the version that was merged into it. -/
theorem carries_mergeQuery
    (name : List Char)
    (version : String)
    (href : List Char) :
    Href.Carries name (Percent.encode version) (mergeQuery name version href) := by
  refine .intro (Href.question_not_mem_path href) (Href.hash_not_mem_path href)
    (Href.head?_fragment href) ?_
  intro parameter member
  obtain ⟨isParameter, different⟩ := List.mem_filter.mp member
  exact ⟨Href.isParameter_of_mem isParameter, by simpa using different⟩

/-- A target that carries a version consists of what merging puts together. -/
theorem mergeQuery_of_carries
    {name : List Char}
    (isName : Href.IsParameterName name)
    {version : String}
    {href : List Char}
    (carries : Href.Carries name (Percent.encode version) href) :
    mergeQuery name version href = href := by
  cases carries with
  | @intro front behind others noQuestion noHash isFragment areOthers =>
      let pieces := others ++ [name ++ '=' :: Percent.encode version]
      have areParameters : ∀ piece ∈ pieces, Href.IsParameter piece := by
        rw [List.forall_mem_append, List.forall_mem_singleton]
        exact ⟨fun piece member => (areOthers piece member).1, isParameter_written isName version⟩
      have noHashInQuery := Href.hash_not_mem_parameters areParameters
      rw [← Href.fragment_of_head? isFragment]
      have kept : versionedParameters name version
          (front ++ '?' :: ['&'].intercalate pieces ++ Href.fragment behind) = pieces := by
        rw [versionedParameters,
          Href.parameters_target noHash noQuestion areParameters (by simp [pieces]) behind,
          List.filter_append, List.filter_eq_self.mpr]
        · simp [pieces, parameterName_written isName]
        · intro parameter member
          simpa using (areOthers parameter member).2
      rw [mergeQuery, kept, Href.path_target noHash noQuestion noHashInQuery,
        Href.fragment_target noHash noHashInQuery]

theorem mergeQuery_eq_self_iff
    {name : List Char}
    (isName : Href.IsParameterName name)
    (version : String)
    (href : List Char) :
    mergeQuery name version href = href ↔ Href.Carries name (Percent.encode version) href := by
  constructor
  · intro same
    have carries := carries_mergeQuery name version href
    rwa [same] at carries
  · intro carries
    exact mergeQuery_of_carries isName carries

/-- A segment makes a target longer. -/
theorem Inserts.ne
    {segment href merged : List Char}
    (inserted : Inserts segment href merged) :
    merged ≠ href := by
  intro same
  have length := congrArg List.length same
  cases inserted with
  | behindSlash rest =>
      simp at length
      omega
  | inFront href _ =>
      simp at length
      omega

/-! ## Unchanged targets -/

section

variable
  {version : Option String}
  {active : String}
  (given : activeVersion version = some active)

include given

/-- **Which targets a version leaves as they are.** Under the path strategy it leaves
those that leave the site; under the query strategy also those whose last parameter
is the version already, where no other parameter has its name and none is empty. -/
theorem version_leaves_unchanged_iff (href : String) :
    (path.resolve href version = href ↔ Href.LeavesSite href.toList)
      ∧ ∀ name : String,
          Href.IsParameterName name.toList →
          ((query name).resolve href version = href ↔
            Href.LeavesSite href.toList
              ∨ Href.Carries name.toList (Percent.encode active) href.toList) := by
  rw [← Href.isExternal_eq_true_iff]
  cases external : Href.isExternal href.toList with
  | true =>
      refine ⟨iff_of_true (resolve_external rfl external version) rfl, fun name _ => ?_⟩
      exact iff_of_true (resolve_external rfl external version) (.inl rfl)
  | false =>
      constructor
      · rw [resolve_of_active given, apply_path external, ← String.toList_inj, String.toList_ofList]
        exact iff_of_false (inserts_mergePath active href.toList).ne (by decide)
      · intro name isName
        rw [resolve_of_active given, apply_query external, ← String.toList_inj,
          String.toList_ofList, mergeQuery_eq_self_iff isName]
        simp

end

/-- A target whose last parameter is the version, encoded, with the name once more in
the fragment. -/
theorem version_leaves_unchanged_carried :
    let href := "/a?x&v=v%201#?v=0"
    path.resolve href (some " v 1\n") ≠ href ∧ (query "v").resolve href (some " v 1\n") = href := by
  intro href
  have given : activeVersion (some " v 1\n") = some "v 1" := by decide
  have parts : href.toList =
      ['/', 'a'] ++ '?' :: ['&'].intercalate ([['x']] ++ [['v'] ++ '=' :: Percent.encode "v 1"])
        ++ "#?v=0".toList := by
    decide
  have carries : Href.Carries ['v'] (Percent.encode "v 1") href.toList := by
    rw [parts]
    refine .intro (by decide) (by decide) (.inr rfl) ?_
    rw [List.forall_mem_singleton]
    exact ⟨⟨by decide, by decide, by decide⟩, by decide⟩
  obtain ⟨underPath, underQuery⟩ := version_leaves_unchanged_iff given href
  refine ⟨fun same => ?_, (underQuery "v" (by decide)).mpr (.inr carries)⟩
  have external := (Href.isExternal_eq_true_iff href.toList).mpr (underPath.mp same)
  exact absurd external (by decide)

end LinkStrategy

end ReportIndex
