import Mathlib.Data.List.TakeWhile
import ReportIndex.Proofs.Link.NotBlank
import ReportIndex.Proofs.Percent
import ReportIndex.Proofs.Text.Pieces
import ReportIndex.Proofs.Text.Trim

/-!
Contract: a merged target is read back part by part.

Owns:
- path, query and fragment of a target that is put together from such parts;
- what the query strategy changes of them: one parameter, and nothing else;
- what the path strategy changes of a target: one segment, and nothing else;
- what becomes of a target by a strategy of this library, if it stays on the site and
  if it does not.

Does not own: which version is merged.
-/

namespace ReportIndex

/-! ## Characters that do not occur -/

theorem bne_of_not_mem
    {absent : Char}
    {characters : List Char}
    (nowhere : absent ∉ characters) :
    ∀ character ∈ characters, (character != absent) = true := by
  intro character member
  simpa using ne_of_mem_of_not_mem member nowhere

/-- The text before the first occurrence of a character. -/
theorem takeWhile_ne_append
    {mark : Char}
    {front : List Char}
    (nowhere : mark ∉ front)
    (behind : List Char) :
    (front ++ mark :: behind).takeWhile (· != mark) = front := by
  rw [List.takeWhile_append_of_pos (bne_of_not_mem nowhere)]
  simp

/-- What is dropped ends where a character is kept. -/
theorem kept_of_dropWhile_eq_cons
    {drop : Char → Bool}
    {characters rest : List Char}
    {first : Char}
    (found : characters.dropWhile drop = first :: rest) :
    drop first = false := by
  have stopped := List.head?_dropWhile_not drop characters
  rwa [found] at stopped

/-- Two texts fall into the same parts if neither mark stands in front of the other. -/
theorem append_cons_inj
    {mark other : Char}
    {front behind start rest : List Char}
    (noOther : other ∉ front)
    (noMark : mark ∉ start)
    (same : front ++ mark :: behind = start ++ other :: rest) :
    front = start ∧ mark = other ∧ behind = rest := by
  rcases List.append_eq_append_iff.mp same with ⟨more, rfl, tail⟩ | ⟨more, rfl, tail⟩
  · cases more with
    | nil => simpa using tail
    | cons first more =>
        obtain ⟨rfl, _⟩ := List.cons.inj tail
        simp at noMark
  · cases more with
    | nil => simpa [eq_comm] using tail
    | cons first more =>
        obtain ⟨rfl, _⟩ := List.cons.inj tail
        simp at noOther

/-- What begins a text and does not hold a mark ends in front of the mark. -/
theorem prefix_of_prefix_append
    {mark : Char}
    {opening front behind : List Char}
    (nowhere : mark ∉ opening)
    (isPrefix : opening <+: front ++ mark :: behind) :
    opening <+: front := by
  rcases List.prefix_or_prefix_of_prefix isPrefix (List.prefix_append front (mark :: behind)) with
    shorter | ⟨more, rfl⟩
  · exact shorter
  · rw [List.prefix_append_right_inj] at isPrefix
    cases more with
    | nil => simp
    | cons first more =>
        obtain ⟨rfl, _⟩ := List.cons_prefix_cons.mp isPrefix
        simp at nowhere

namespace Href

/-! ## Parts of a target -/

section

variable (href : List Char)

theorem hash_not_mem_withoutFragment : '#' ∉ withoutFragment href :=
  fun member => by simpa using List.mem_takeWhile_imp member

theorem question_not_mem_path : '?' ∉ path href :=
  fun member => by simpa using List.mem_takeWhile_imp member

theorem hash_not_mem_path : '#' ∉ path href :=
  fun member => hash_not_mem_withoutFragment href (List.takeWhile_subset _ member)

theorem hash_not_mem_query : '#' ∉ query href :=
  fun member => hash_not_mem_withoutFragment href
    (List.dropWhile_subset _ (List.drop_subset _ _ member))

/-- What stands behind the path: query and fragment, with the mark that announces
them. -/
def behindPath (href : List Char) : List Char :=
  href.dropWhile fun character => character != '?' && character != '#'

theorem path_eq_takeWhile :
    path href = href.takeWhile fun character => character != '?' && character != '#' := by
  rw [path, withoutFragment, List.takeWhile_takeWhile]
  simp only [Bool.decide_and, Bool.decide_eq_true]

theorem path_append_behindPath : path href ++ behindPath href = href := by
  rw [path_eq_takeWhile, behindPath, List.takeWhile_append_dropWhile]

/-- Behind the path stands nothing, or one of the two marks. -/
theorem behindPath_cases :
    behindPath href = []
      ∨ ∃ mark rest, behindPath href = mark :: rest ∧ (mark = '?' ∨ mark = '#') := by
  cases found : behindPath href with
  | nil => exact .inl rfl
  | cons mark rest =>
      have stopped := kept_of_dropWhile_eq_cons found
      right
      refine ⟨mark, rest, rfl, ?_⟩
      simpa [imp_iff_not_or] using stopped

theorem fragment_fragment : fragment (fragment href) = fragment href :=
  List.dropWhile_eq_self_iff.mpr (List.dropWhile_get_zero_not _ href)

theorem withoutFragment_fragment : withoutFragment (fragment href) = [] := by
  rw [withoutFragment, List.takeWhile_eq_nil_iff]
  exact List.dropWhile_get_zero_not _ href

end

/-- A text that is one parameter where it stands in a query. -/
structure IsParameter (parameter : List Char) : Prop where
  nonempty : parameter ≠ []
  noAmpersand : '&' ∉ parameter
  noHash : '#' ∉ parameter

theorem isParameter_of_mem
    {href parameter : List Char}
    (member : parameter ∈ parameters href) :
    IsParameter parameter := by
  obtain ⟨isPiece, nonempty⟩ := List.mem_filter.mp member
  refine ⟨by simpa using nonempty, fun separator => ?_, fun hash => ?_⟩
  · exact (mem_of_mem_splitOn isPiece separator).1 rfl
  · exact hash_not_mem_query href (mem_of_mem_splitOn isPiece hash).2

theorem hash_not_mem_parameters
    {pieces : List (List Char)}
    (areParameters : ∀ piece ∈ pieces, IsParameter piece) :
    '#' ∉ ['&'].intercalate pieces :=
  not_mem_intercalate (by decide) fun piece member => (areParameters piece member).noHash

/-- A name that a parameter can be found by: no character of it ends the name, the
parameter or the query. -/
structure IsParameterName (name : List Char) : Prop where
  noAmpersand : '&' ∉ name
  noEquals : '=' ∉ name
  noHash : '#' ∉ name

instance (name : List Char) : Decidable (IsParameterName name) :=
  decidable_of_iff ('&' ∉ name ∧ '=' ∉ name ∧ '#' ∉ name)
    ⟨fun ⟨noAmpersand, noEquals, noHash⟩ => ⟨noAmpersand, noEquals, noHash⟩,
      fun isName => ⟨isName.noAmpersand, isName.noEquals, isName.noHash⟩⟩

theorem IsParameterName.of_subset
    {name part : List Char}
    (isName : IsParameterName name)
    (subset : part ⊆ name) :
    IsParameterName part :=
  ⟨fun member => isName.noAmpersand (subset member), fun member => isName.noEquals (subset member),
    fun member => isName.noHash (subset member)⟩

/-! ## Targets put together from parts -/

section

variable {front : List Char} (noHash : '#' ∉ front) (href : List Char)

include noHash

theorem withoutFragment_append : withoutFragment (front ++ fragment href) = front := by
  rw [withoutFragment, List.takeWhile_append_of_pos (bne_of_not_mem noHash), ← withoutFragment,
    withoutFragment_fragment, List.append_nil]

theorem fragment_append : fragment (front ++ fragment href) = fragment href := by
  rw [fragment, List.dropWhile_append_of_pos (bne_of_not_mem noHash), ← fragment, fragment_fragment]

end

section

variable
  {start middle : List Char}
  (noHashStart : '#' ∉ start)
  (noQuestion : '?' ∉ start)
  (noHash : '#' ∉ middle)
  (href : List Char)

include noHashStart noHash

theorem withoutFragment_target :
    withoutFragment (start ++ '?' :: middle ++ fragment href) = start ++ '?' :: middle := by
  refine withoutFragment_append ?_ href
  simp [noHashStart, noHash]

theorem fragment_target : fragment (start ++ '?' :: middle ++ fragment href) = fragment href := by
  refine fragment_append ?_ href
  simp [noHashStart, noHash]

include noQuestion

theorem path_target : path (start ++ '?' :: middle ++ fragment href) = start := by
  rw [path, withoutFragment_target noHashStart noHash, takeWhile_ne_append noQuestion]

theorem query_target : query (start ++ '?' :: middle ++ fragment href) = middle := by
  rw [query, withoutFragment_target noHashStart noHash,
    List.dropWhile_append_of_pos (bne_of_not_mem noQuestion)]
  simp

end

/-- The parameters of a target are those that its query was put together from. -/
theorem parameters_target
    {start : List Char}
    {pieces : List (List Char)}
    (noHashStart : '#' ∉ start)
    (noQuestion : '?' ∉ start)
    (areParameters : ∀ piece ∈ pieces, IsParameter piece)
    (present : pieces ≠ [])
    (href : List Char) :
    parameters (start ++ '?' :: ['&'].intercalate pieces ++ fragment href) = pieces := by
  rw [parameters, query_target noHashStart noQuestion (hash_not_mem_parameters areParameters),
    List.splitOn_intercalate '&' (fun piece member => (areParameters piece member).noAmpersand)
      present, List.filter_eq_self]
  intro piece member
  simpa using (areParameters piece member).nonempty

end Href

namespace LinkStrategy

/-! ## One parameter -/

section

variable
  {name : List Char}
  (isName : Href.IsParameterName name)
  (version : String)
  (href : List Char)

include isName

/-- The parameter that carries a version. -/
theorem isParameter_written : Href.IsParameter (name ++ '=' :: Percent.encode version) := by
  have ampersand :=
    Percent.not_mem_encode (rfl : Percent.isComponentCharacter '&' = false) version
  have hash := Percent.not_mem_encode (rfl : Percent.isComponentCharacter '#' = false) version
  constructor
  · simp
  · simp [isName.noAmpersand, ampersand]
  · simp [isName.noHash, hash]

theorem isParameter_of_mem_versionedParameters :
    ∀ parameter ∈ versionedParameters name version href, Href.IsParameter parameter := by
  intro parameter member
  rcases List.mem_append.mp member with kept | new
  · exact Href.isParameter_of_mem (List.mem_filter.mp kept).1
  · rw [List.mem_singleton] at new
    rw [new]
    exact isParameter_written isName version

theorem path_mergeQuery : Href.path (mergeQuery name version href) = Href.path href :=
  Href.path_target (Href.hash_not_mem_path href) (Href.question_not_mem_path href)
    (Href.hash_not_mem_parameters (isParameter_of_mem_versionedParameters isName version href)) href

theorem fragment_mergeQuery : Href.fragment (mergeQuery name version href) = Href.fragment href :=
  Href.fragment_target (Href.hash_not_mem_path href)
    (Href.hash_not_mem_parameters (isParameter_of_mem_versionedParameters isName version href)) href

/-- The parameters of a merged target are those that it was written with. -/
theorem parameters_mergeQuery :
    Href.parameters (mergeQuery name version href) = versionedParameters name version href :=
  Href.parameters_target (Href.hash_not_mem_path href) (Href.question_not_mem_path href)
    (isParameter_of_mem_versionedParameters isName version href) (by simp [versionedParameters]) href

theorem parameterName_written : Href.parameterName (name ++ '=' :: Percent.encode version) = name :=
  takeWhile_ne_append isName.noEquals (Percent.encode version)

/-- Exactly one parameter of a merged target has the version's name, and it carries
the version. -/
theorem filter_parameters_mergeQuery :
    (Href.parameters (mergeQuery name version href)).filter (Href.parameterName · == name) =
      [name ++ '=' :: Percent.encode version] := by
  rw [parameters_mergeQuery isName, versionedParameters, List.filter_append, List.filter_filter]
  simp [parameterName_written isName]

end

/-! ## One segment -/

/-- The second target is the first with a segment in front, behind a leading slash if
there is one. -/
inductive Inserts (segment : List Char) : List Char → List Char → Prop where
  | behindSlash (rest : List Char) :
      Inserts segment ('/' :: rest) ('/' :: segment ++ '/' :: rest)
  | inFront (href : List Char) (noSlash : href.head? ≠ some '/') :
      Inserts segment href (segment ++ '/' :: href)

theorem inserts_mergePath (version : String) (href : List Char) :
    Inserts (Percent.encode version) href (mergePath version href) := by
  rw [mergePath.eq_def]
  split
  next rest => exact .behindSlash rest
  next noSlash =>
    refine .inFront href fun leading => ?_
    obtain ⟨rest, rfl⟩ := List.head?_eq_some_iff.mp leading
    exact noSlash rest rfl

/-! ## Strategies -/

section

variable {strategy : LinkStrategy} {href : String}

/-- A target that leaves the site stays as it is. -/
theorem apply_external
    (builtIn : strategy.isBuiltIn = true)
    (external : Href.isExternal href.toList = true)
    (version : String) :
    strategy.apply href version = href := by
  cases strategy with
  | query name => exact if_pos external
  | path => exact if_pos external
  | custom merge => cases builtIn

theorem apply_path
    (internal : Href.isExternal href.toList = false)
    (version : String) :
    path.apply href version = String.ofList (mergePath version href.toList) :=
  if_neg (by simp [internal])

theorem apply_query
    (internal : Href.isExternal href.toList = false)
    (name version : String) :
    (query name).apply href version = String.ofList (mergeQuery name.toList version href.toList) :=
  if_neg (by simp [internal])

end

theorem queryNamed_of_not_blank
    {parameter : String}
    (notBlank : Text.isBlankText parameter = false) :
    queryNamed parameter = .query (Text.trim parameter) := by
  have nonempty : (Text.trim parameter).isEmpty = false := by
    rw [String.isEmpty_eq_false_iff, ne_eq, Text.trim_eq_empty_iff, notBlank]
    decide
  simp [queryNamed, nonempty]

end LinkStrategy

end ReportIndex
