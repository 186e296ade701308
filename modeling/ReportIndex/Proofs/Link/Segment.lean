import ReportIndex.Proofs.Link.ActiveVersion
import ReportIndex.Proofs.Link.Merge

/-!
Contract: the path strategy loses nothing.

Owns:
- the segment of a version can be cut off again, so that a link tells both the target
  and the version that it was made from;
- query and fragment of the target stay.

Does not own: targets that leave the site, which get no segment.
-/

namespace ReportIndex.LinkStrategy

/-! ## Segments -/

/-- A text that is one segment of a path, and nothing else, wherever it stands. -/
structure IsSegment (segment : List Char) : Prop where
  nonempty : segment ≠ []
  plain : ∀ mark ∈ ['/', '?', '#', ':', '&'], mark ∉ segment

theorem isSegment_encode
    {version : String}
    (present : version ≠ "") :
    IsSegment (Percent.encode version) := by
  constructor
  · rwa [ne_eq, Percent.encode_eq_nil_iff]
  · intro mark isMark
    have reserved : Percent.isComponentCharacter mark = false := by
      simp only [List.mem_cons, List.not_mem_nil, or_false] at isMark
      rcases isMark with rfl | rfl | rfl | rfl | rfl <;> rfl
    exact Percent.not_mem_encode reserved version

section

variable
  {segment href merged : List Char}
  (isSegment : IsSegment segment)
  (inserted : Inserts segment href merged)

include isSegment

/-- A segment does not begin with a slash. -/
theorem IsSegment.head?_append (rest : List Char) : (segment ++ rest).head? ≠ some '/' := by
  obtain ⟨first, others, rfl⟩ := List.exists_cons_of_ne_nil isSegment.nonempty
  intro slash
  have isSlash : first = '/' := by simpa using slash
  exact isSegment.plain '/' (by simp) (by simp [isSlash])

include inserted

/-- **The segment can be cut off again.** A slash at the beginning of the link is the
target's own, and the next one ends the segment. -/
theorem Inserts.cutOff
    {other base : List Char}
    (isOther : IsSegment other)
    (again : Inserts other base merged) :
    href = base ∧ segment = other := by
  have noSlash := isSegment.plain '/' (by simp)
  have noSlashInOther := isOther.plain '/' (by simp)
  cases inserted with
  | behindSlash rest =>
      generalize whole : '/' :: segment ++ '/' :: rest = link at again
      cases again with
      | behindSlash otherRest =>
          obtain ⟨sameSegment, _, sameRest⟩ :=
            append_cons_inj noSlash noSlashInOther (List.cons.inj whole).2
          rw [sameSegment, sameRest]
          exact ⟨rfl, rfl⟩
      | inFront base _ =>
          have slash : (other ++ '/' :: base).head? = some '/' := by
            rw [← whole]
            rfl
          exact absurd slash (isOther.head?_append _)
  | inFront href _ =>
      generalize whole : segment ++ '/' :: href = link at again
      cases again with
      | behindSlash otherRest =>
          have slash : (segment ++ '/' :: href).head? = some '/' := by
            rw [whole]
            rfl
          exact absurd slash (isSegment.head?_append _)
      | inFront base _ =>
          obtain ⟨sameSegment, _, sameTarget⟩ := append_cons_inj noSlash noSlashInOther whole
          exact ⟨sameTarget, sameSegment⟩

/-- The segment becomes part of the path. -/
theorem Inserts.behindPath_eq : Href.behindPath merged = Href.behindPath href := by
  have plain : ∀ character ∈ segment ++ ['/'],
      (character != '?' && character != '#') = true := by
    intro character member
    rcases List.mem_append.mp member with inSegment | slash
    · have notQuestion := ne_of_mem_of_not_mem inSegment (isSegment.plain '?' (by simp))
      have notHash := ne_of_mem_of_not_mem inSegment (isSegment.plain '#' (by simp))
      simp [notQuestion, notHash]
    · rw [List.mem_singleton] at slash
      subst slash
      decide
  have passed : ∀ rest, Href.behindPath (segment ++ '/' :: rest) = Href.behindPath rest := by
    intro rest
    rw [Href.behindPath, List.append_cons, List.dropWhile_append_of_pos plain, ← Href.behindPath]
  cases inserted with
  | behindSlash rest => exact passed rest
  | inFront href _ => exact passed href

end

/-! ## Links -/

section

variable
  {href : String}
  {version : Option String}
  {active : String}
  (internal : Href.isExternal href.toList = false)
  (given : activeVersion version = some active)

include internal given

theorem inserts_resolve_path :
    Inserts (Percent.encode active) href.toList (path.resolve href version).toList
      ∧ IsSegment (Percent.encode active) := by
  obtain ⟨_, _, _, present⟩ := (activeVersion_eq_some_iff _ _).mp given
  refine ⟨?_, isSegment_encode present⟩
  rw [resolve_of_active given, apply_path internal, String.toList_ofList]
  exact inserts_mergePath active href.toList

end

/-- **The path strategy is lossless.** Links are the same only if targets and versions
are. A link is its target with a segment in front, behind a leading slash if there is
one; the segment is decoded to the version, and what stands behind the path stays. -/
theorem path_strategy_lossless :
    (∀ {first second : String} {version other : Option String} {active otherActive : String},
        Href.isExternal first.toList = false →
        Href.isExternal second.toList = false →
        activeVersion version = some active →
        activeVersion other = some otherActive →
        path.resolve first version = path.resolve second other →
        first = second ∧ active = otherActive)
      ∧ ∀ {href : String} {version : Option String} {active : String},
          Href.isExternal href.toList = false →
          activeVersion version = some active →
          ∃ segment,
            Inserts segment href.toList (path.resolve href version).toList
              ∧ IsSegment segment
              ∧ Percent.decode segment = some active
              ∧ Href.behindPath (path.resolve href version).toList = Href.behindPath href.toList := by
  constructor
  · intro first second version other active otherActive internal otherInternal given otherGiven same
    obtain ⟨inserted, isSegment⟩ := inserts_resolve_path internal given
    obtain ⟨again, isOther⟩ := inserts_resolve_path otherInternal otherGiven
    rw [← same] at again
    obtain ⟨sameTarget, sameSegment⟩ := inserted.cutOff isSegment isOther again
    exact ⟨String.toList_inj.mp sameTarget, Percent.encode_injective sameSegment⟩
  · intro href version active internal given
    obtain ⟨inserted, isSegment⟩ := inserts_resolve_path internal given
    exact ⟨Percent.encode active, inserted, isSegment, Percent.decode_encode active,
      inserted.behindPath_eq isSegment⟩

/-- A version with a slash, a letter beyond ASCII and blanks, on a target that begins
with a slash and has slashes in its query. -/
theorem path_strategy_lossless_slashes :
    let href := "/a?b=/#/c"
    path.resolve href (some " ü/1") = path.resolve href (some "ü/1\n")
      ∧ (href = href ∧ "ü/1" = "ü/1")
      ∧ ∃ segment,
          Inserts segment href.toList (path.resolve href (some " ü/1")).toList
            ∧ IsSegment segment
            ∧ Percent.decode segment = some "ü/1"
            ∧ Href.behindPath (path.resolve href (some " ü/1")).toList = "?b=/#/c".toList := by
  intro href
  have internal : Href.isExternal href.toList = false := by decide
  have given : activeVersion (some " ü/1") = some "ü/1" := by decide
  have otherGiven : activeVersion (some "ü/1\n") = some "ü/1" := by decide
  have same : path.resolve href (some " ü/1") = path.resolve href (some "ü/1\n") := by
    rw [resolve_of_active given, resolve_of_active otherGiven]
  have behind : Href.behindPath href.toList = "?b=/#/c".toList := by decide
  obtain ⟨determined, shape⟩ := path_strategy_lossless
  rw [← behind]
  exact ⟨same, determined internal internal given otherGiven same, shape internal given⟩

end ReportIndex.LinkStrategy
