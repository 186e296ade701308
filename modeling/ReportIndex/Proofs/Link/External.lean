import ReportIndex.Proofs.Link.Segment

/-!
Contract: a version never moves a target off the site, nor one from outside onto it.

Owns:
- the form of the targets that leave the site, and that the test of them is exact;
- the strategies of this library keep each target on its side, however many of them
  come one after another.

Does not own: a host's own strategy, which may give any target.
-/

namespace ReportIndex

namespace Href

/-! ## Targets that leave the site -/

/-- A character of a scheme behind its first letter. -/
def IsSchemeCharacter (character : Char) : Prop :=
  character.isAlphanum = true ∨ character ∈ ['+', '-', '.']

instance (character : Char) : Decidable (IsSchemeCharacter character) :=
  inferInstanceAs (Decidable (_ ∨ _))

/-- The two slashes in front of a host, or a scheme and its colon. -/
inductive IsOpening : List Char → Prop where
  | host : IsOpening ['/', '/']
  | scheme
      {letter : Char}
      {others : List Char}
      (isLetter : letter.isAlpha = true)
      (allowed : ∀ character ∈ others, IsSchemeCharacter character) :
      IsOpening (letter :: others ++ [':'])

/-- A target that leaves the site names a host or a scheme at its beginning. -/
def LeavesSite (href : List Char) : Prop :=
  ∃ opening, IsOpening opening ∧ opening <+: href

theorem isScheme_eq_true_iff (scheme : List Char) :
    isScheme scheme = true ↔
      ∃ letter others,
        scheme = letter :: others
          ∧ letter.isAlpha = true
          ∧ ∀ character ∈ others, IsSchemeCharacter character := by
  cases scheme with
  | nil => simp [isScheme]
  | cons letter others => simp [isScheme, IsSchemeCharacter, or_assoc]

/-- A letter is a character of a scheme like any other. -/
theorem isSchemeCharacter_of_mem
    {letter character : Char}
    {others : List Char}
    (isLetter : letter.isAlpha = true)
    (allowed : ∀ character ∈ others, IsSchemeCharacter character)
    (member : character ∈ letter :: others) :
    IsSchemeCharacter character := by
  rcases List.mem_cons.mp member with rfl | later
  · left
    simp [Char.isAlphanum, isLetter]
  · exact allowed character later

/-- Of the marks in a target, a scheme and its colon hold only the colon. -/
theorem not_mem_scheme
    {mark letter : Char}
    {others : List Char}
    (isLetter : letter.isAlpha = true)
    (allowed : ∀ character ∈ others, IsSchemeCharacter character)
    (notColon : mark ≠ ':')
    (notOfScheme : ¬IsSchemeCharacter mark) :
    mark ∉ letter :: others ++ [':'] := by
  intro member
  rcases List.mem_append.mp member with inScheme | colon
  · exact notOfScheme (isSchemeCharacter_of_mem isLetter allowed inScheme)
  · exact notColon (List.mem_singleton.mp colon)

theorem IsOpening.not_mem
    {mark : Char}
    {opening : List Char}
    (isOpening : IsOpening opening)
    (isMark : mark = '?' ∨ mark = '#') :
    mark ∉ opening := by
  cases isOpening with
  | host => rcases isMark with rfl | rfl <;> decide
  | scheme isLetter allowed =>
      rcases isMark with rfl | rfl
      · exact not_mem_scheme isLetter allowed (by decide) (by decide)
      · exact not_mem_scheme isLetter allowed (by decide) (by decide)

/-- **The test is exact.** The first colon decides, since no scheme holds one. -/
theorem isExternal_eq_true_iff (href : List Char) : isExternal href = true ↔ LeavesSite href := by
  rw [isExternal, Bool.or_eq_true, List.isPrefixOf_iff_prefix, Bool.and_eq_true, List.contains_iff_mem,
    isScheme_eq_true_iff]
  constructor
  · rintro (host | ⟨hasColon, letter, others, scheme, isLetter, allowed⟩)
    · exact ⟨['/', '/'], .host, host⟩
    · obtain ⟨front, behind, rfl, noColon⟩ := List.eq_append_cons_of_mem hasColon
      rw [takeWhile_ne_append noColon] at scheme
      refine ⟨letter :: others ++ [':'], .scheme isLetter allowed, behind, ?_⟩
      rw [scheme, List.append_assoc, List.singleton_append]
  · rintro ⟨opening, isOpening, isPrefix⟩
    cases isOpening with
    | host => exact .inl isPrefix
    | @scheme letter others isLetter allowed =>
        obtain ⟨rest, rfl⟩ := isPrefix
        have noColon : ':' ∉ letter :: others := fun member =>
          absurd (isSchemeCharacter_of_mem isLetter allowed member) (by decide)
        rw [List.append_assoc, List.singleton_append]
        exact .inr ⟨by simp, letter, others, takeWhile_ne_append noColon rest, isLetter, allowed⟩

/-- Where query or fragment begin, it is settled whether a target leaves the site. -/
theorem leavesSite_append_iff
    {mark : Char}
    (isMark : mark = '?' ∨ mark = '#')
    (front behind : List Char) :
    LeavesSite (front ++ mark :: behind) ↔ LeavesSite front := by
  constructor
  · rintro ⟨opening, isOpening, isPrefix⟩
    exact ⟨opening, isOpening, prefix_of_prefix_append (isOpening.not_mem isMark) isPrefix⟩
  · rintro ⟨opening, isOpening, isPrefix⟩
    exact ⟨opening, isOpening, isPrefix.trans (List.prefix_append _ _)⟩

/-- Query and fragment do not count. -/
theorem leavesSite_path_iff (href : List Char) : LeavesSite (path href) ↔ LeavesSite href := by
  have parts := path_append_behindPath href
  rcases behindPath_cases href with none | ⟨mark, rest, behind, isMark⟩
  · rw [none, List.append_nil] at parts
    rw [parts]
  · rw [behind] at parts
    rw [← leavesSite_append_iff isMark (path href) rest, parts]

end Href

namespace LinkStrategy

/-! ## One resolution -/

theorem leavesSite_mergeQuery_iff
    (name : List Char)
    (version : String)
    (href : List Char) :
    Href.LeavesSite (mergeQuery name version href) ↔ Href.LeavesSite href := by
  rw [mergeQuery, List.append_assoc, List.cons_append,
    Href.leavesSite_append_iff (.inl rfl), Href.leavesSite_path_iff]

/-- A target with a segment in front stays on the site. -/
theorem not_leavesSite_of_inserts
    {segment href merged : List Char}
    (isSegment : IsSegment segment)
    (inserted : Inserts segment href merged) :
    ¬Href.LeavesSite merged := by
  rintro ⟨opening, isOpening, isPrefix⟩
  cases inserted with
  | behindSlash rest =>
      rw [List.cons_append] at isPrefix
      cases isOpening with
      | host =>
          obtain ⟨behind, same⟩ := (List.cons_prefix_cons.mp isPrefix).2
          have begins := isSegment.head?_append ('/' :: rest)
          rw [← same] at begins
          exact begins rfl
      | scheme isLetter _ =>
          rw [List.cons_append, List.cons_prefix_cons] at isPrefix
          rw [isPrefix.1] at isLetter
          exact absurd isLetter (by decide)
  | inFront href _ =>
      cases isOpening with
      | host =>
          obtain ⟨behind, same⟩ := isPrefix
          have begins := isSegment.head?_append ('/' :: href)
          rw [← same] at begins
          exact begins rfl
      | scheme isLetter allowed =>
          have noSlash := Href.not_mem_scheme isLetter allowed (by decide : '/' ≠ ':') (by decide)
          have inSegment := prefix_of_prefix_append noSlash isPrefix
          exact isSegment.plain ':' (by simp) (inSegment.subset (by simp))

section

variable
  {strategy : LinkStrategy}
  (builtIn : strategy.isBuiltIn = true)

include builtIn

/-- An active version keeps a target on its side. -/
theorem isExternal_apply
    {active : String}
    (present : active ≠ "")
    (href : String) :
    Href.isExternal (strategy.apply href active).toList = Href.isExternal href.toList := by
  cases external : Href.isExternal href.toList with
  | true => rw [apply_external builtIn external, external]
  | false =>
      rw [← Bool.not_eq_true, Href.isExternal_eq_true_iff]
      cases strategy with
      | query name =>
          rw [apply_query external, String.toList_ofList, leavesSite_mergeQuery_iff,
            ← Href.isExternal_eq_true_iff, external]
          decide
      | path =>
          rw [apply_path external, String.toList_ofList]
          exact not_leavesSite_of_inserts (isSegment_encode present)
            (inserts_mergePath active href.toList)
      | custom merge => cases builtIn

theorem isExternal_resolve (href : String) (version : Option String) :
    Href.isExternal (strategy.resolve href version).toList = Href.isExternal href.toList := by
  cases given : activeVersion version with
  | none => rw [resolve_of_none given]
  | some active =>
      obtain ⟨_, _, _, present⟩ := (activeVersion_eq_some_iff _ _).mp given
      rw [resolve_of_active given, isExternal_apply builtIn present]

theorem resolve_external
    {href : String}
    (external : Href.isExternal href.toList = true)
    (version : Option String) :
    strategy.resolve href version = href := by
  cases given : activeVersion version with
  | none => rw [resolve_of_none given]
  | some active => rw [resolve_of_active given, apply_external builtIn external]

end

/-! ## Resolutions one after another -/

/-- The target after a row of resolutions, each of what the one before it gave. -/
def resolveInTurn : List (LinkStrategy × Option String) → String → String
  | [], href => href
  | (strategy, version) :: steps, href => resolveInTurn steps (strategy.resolve href version)

section

variable
  {steps : List (LinkStrategy × Option String)}
  (builtIn : ∀ step ∈ steps, step.1.isBuiltIn = true)

include builtIn

theorem isExternal_resolveInTurn (href : String) :
    Href.isExternal (resolveInTurn steps href).toList = Href.isExternal href.toList := by
  induction steps generalizing href with
  | nil => rfl
  | cons step steps inductionHypothesis =>
      rw [List.forall_mem_cons] at builtIn
      rw [resolveInTurn, inductionHypothesis builtIn.2, isExternal_resolve builtIn.1]

theorem resolveInTurn_external
    {href : String}
    (external : Href.isExternal href.toList = true) :
    resolveInTurn steps href = href := by
  induction steps with
  | nil => rfl
  | cons step steps inductionHypothesis =>
      rw [List.forall_mem_cons] at builtIn
      rw [resolveInTurn, resolve_external builtIn.1 external, inductionHypothesis builtIn.2]

end

/-- **A version never makes a site's own target one that leaves the site.** The test for
such targets is exact; whatever the version and the parameter name are, its answer for
the resolved target is that for the stored one, also after any number of resolutions,
and these leave a target alone that leaves the site. -/
theorem versions_keep_sides :
    (∀ target, Href.isExternal target = true ↔ Href.LeavesSite target)
      ∧ (∀ strategy : LinkStrategy, strategy.isBuiltIn = true → ∀ href version,
          Href.isExternal (strategy.resolve href version).toList = Href.isExternal href.toList)
      ∧ ∀ steps : List (LinkStrategy × Option String),
          (∀ step ∈ steps, step.1.isBuiltIn = true) →
          ∀ href,
            Href.isExternal (resolveInTurn steps href).toList = Href.isExternal href.toList
              ∧ (Href.isExternal href.toList = true → resolveInTurn steps href = href) := by
  refine ⟨Href.isExternal_eq_true_iff, fun strategy builtIn => isExternal_resolve builtIn, ?_⟩
  intro steps builtIn href
  exact ⟨isExternal_resolveInTurn builtIn href, resolveInTurn_external builtIn⟩

/-- Versions and names that look like a host or a scheme, on a target with a colon and
on one with a scheme. -/
theorem versions_keep_sides_hostile :
    let steps := [(query ":", some "//h"), (path, some " a:b\t"), (queryNamed " ", some "/")]
    Href.isExternal ((query "x:").resolve "?a:b" (some "//h")).toList = false
      ∧ Href.isExternal (resolveInTurn steps "/a:b").toList = false
      ∧ resolveInTurn steps "tel:+1" = "tel:+1" := by
  intro steps
  have builtIn : ∀ step ∈ steps, step.1.isBuiltIn = true := by decide
  obtain ⟨_, single, inTurn⟩ := versions_keep_sides
  refine ⟨?_, ?_, ?_⟩
  · rw [single (query "x:") rfl]
    decide
  · rw [(inTurn steps builtIn "/a:b").1]
    decide
  · exact (inTurn steps builtIn "tel:+1").2 (by decide)

end LinkStrategy

end ReportIndex
