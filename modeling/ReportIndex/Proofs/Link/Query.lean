import ReportIndex.Proofs.Link.Merge

/-!
Contract: what the query strategy makes of a target, part by part.

Owns:
- the structure law: path and fragment stay, the other parameters keep their order,
  and one parameter behind them carries the version.

Does not own: targets that leave the site, and names that no parameter can have.
-/

namespace ReportIndex.LinkStrategy

section

variable
  {name href : String}
  {version : Option String}
  {active : String}
  (isName : Href.IsParameterName name.toList)
  (internal : Href.isExternal href.toList = false)
  (given : activeVersion version = some active)

include isName internal given

/-- **The query strategy changes one parameter and nothing else.** The path and the
fragment of a target stay, and so do its parameters of other names, in their order.
Behind them stands the one parameter of this name, with a component that is decoded to
the active version. -/
theorem query_changes_one_parameter :
    Href.path ((query name).resolve href version).toList = Href.path href.toList
      ∧ Href.fragment ((query name).resolve href version).toList = Href.fragment href.toList
      ∧ ∃ component,
          Percent.IsComponent component
            ∧ Percent.decode component = some active
            ∧ Href.parameters ((query name).resolve href version).toList =
                (Href.parameters href.toList).filter (Href.parameterName · != name.toList)
                  ++ [name.toList ++ '=' :: component] := by
  have resolved : (query name).resolve href version =
      String.ofList (mergeQuery name.toList active href.toList) := by
    rw [resolve, given]
    exact apply_query internal name active
  rw [resolved, String.toList_ofList]
  refine ⟨path_mergeQuery isName active href.toList, fragment_mergeQuery isName active href.toList,
    Percent.encode active, Percent.isComponent_encode active, Percent.decode_encode active, ?_⟩
  exact parameters_mergeQuery isName active href.toList

end

/-- A name that is there without a value, with one and in the fragment, between empty
pieces; a version with blanks, a separator and a letter beyond ASCII. -/
theorem query_changes_repeated_parameter :
    let merged := (query "v").resolve "a?v&x=v=1&&v=2&y?#b?v=3" (some " 1&ü\t")
    Href.path merged.toList = ['a']
      ∧ Href.fragment merged.toList = ['#', 'b', '?', 'v', '=', '3']
      ∧ ∃ component,
          Percent.IsComponent component
            ∧ Percent.decode component = some "1&ü"
            ∧ Href.parameters merged.toList =
                [['x', '=', 'v', '=', '1'], ['y', '?'], 'v' :: '=' :: component] := by
  have isName : Href.IsParameterName "v".toList := by decide
  have internal : Href.isExternal "a?v&x=v=1&&v=2&y?#b?v=3".toList = false := by decide
  have given : activeVersion (some " 1&ü\t") = some "1&ü" := by decide
  exact query_changes_one_parameter isName internal given

end ReportIndex.LinkStrategy
