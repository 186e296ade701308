import ReportIndex.Link.Href
import ReportIndex.Percent
import ReportIndex.Text.Blank

/-!
Contract: how the active documentation version enters a link target.

Owns:
- the rule that a blank version counts as absent;
- the strategies: a query parameter, a first path segment, or a rule of the
  host's own;
- link targets that are known not to be blank.

Does not own: where version and strategy come from.

A report's target is stored without a version. With none active it is used as
it is; otherwise a strategy merges the version into it. The two strategies of
this library leave targets alone that leave the site.
-/

namespace ReportIndex

/-- The version without blanks at its ends; none if that leaves nothing. -/
def activeVersion (version : Option String) : Option String :=
  (version.map Text.trim).filter (!·.isEmpty)

/-- A rule that merges a version into a link target. -/
inductive LinkStrategy where
  /-- The version is the value of the query parameter `name`. -/
  | query (name : String)
  /-- The version is the first segment of the path. -/
  | path
  /-- The host's own rule, a function of target and version. -/
  | custom (merge : String → String → String)

namespace LinkStrategy

/-- The parameter that carries the version unless another is named. -/
def defaultParameter : String := "version"

/-- The query strategy with a parameter name as a user gives it: without blanks
at its ends, and the default name if nothing is left. -/
def queryNamed (name : String) : LinkStrategy :=
  let trimmed := Text.trim name
  .query (if trimmed.isEmpty then defaultParameter else trimmed)

instance : Inhabited LinkStrategy where
  default := .query defaultParameter

/-- The parameter of the version, at the end of those of other names. -/
def versionedParameters
    (name : List Char)
    (version : String)
    (href : List Char) :
    List (List Char) :=
  (Href.parameters href).filter (fun parameter => Href.parameterName parameter != name)
    ++ [name ++ '=' :: Percent.encode version]

/-- `href` with `version` as the value of the parameter `name`.

A parameter of that name is replaced, the others keep their order, and the
fragment stays last. -/
def mergeQuery
    (name : List Char)
    (version : String)
    (href : List Char) :
    List Char :=
  Href.path href
    ++ '?' :: ['&'].intercalate (versionedParameters name version href)
    ++ Href.fragment href

/-- `href` with `version` as its first segment, behind a leading `/` if there
is one. -/
def mergePath
    (version : String) :
    List Char → List Char
  | '/' :: rest => '/' :: Percent.encode version ++ '/' :: rest
  | href => Percent.encode version ++ '/' :: href

/-- The target for `version`, which is taken as it is. -/
def apply
    (strategy : LinkStrategy)
    (href version : String) :
    String :=
  match strategy with
  | .query name =>
      if Href.isExternal href.toList then href
      else String.ofList (mergeQuery name.toList version href.toList)
  | .path =>
      if Href.isExternal href.toList then href
      else String.ofList (mergePath version href.toList)
  | .custom merge => merge href version

/-- The target shown to the user: without an active version, the stored one. -/
def resolve
    (strategy : LinkStrategy)
    (href : String)
    (version : Option String) :
    String :=
  match activeVersion version with
  | some active => strategy.apply href active
  | none => href

end LinkStrategy

/-- A stored link target that is not blank, so that no link is dead. -/
structure VersionedHref where
  base : String
  base_not_blank : Text.isBlankText base = false
deriving DecidableEq, Repr

namespace VersionedHref

/-- `text` as a target, unless it is blank. -/
def ofString? (text : String) : Option VersionedHref :=
  if notBlank : Text.isBlankText text = false then some ⟨text, notBlank⟩ else none

/-- What a caller is told who gives a blank target. -/
def blankMessage : String := "versioned link requires a non-empty href"

/-- The target shown to the user. -/
def resolve
    (href : VersionedHref)
    (version : Option String)
    (strategy : LinkStrategy) :
    String :=
  strategy.resolve href.base version

end VersionedHref

end ReportIndex
