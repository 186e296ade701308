import ReportIndex.Proofs.Markup.Skeleton
import ReportIndex.Proofs.Page.Plain

/-!
Contract: no text of a user becomes markup.

Owns:
- the skeletons of page and grid, which depend on the number of reports and, for
  the page, on whether a version is active, but on no text;
- the two-run statement that follows.

Does not own: what a reader makes of the texts.
-/

namespace ReportIndex.Page

open Markup

/-- All cards have one skeleton. -/
theorem cardNode_skeleton_eq
    (first second : Card)
    (firstVersion secondVersion : Option String)
    (firstLinks secondLinks : LinkStrategy) :
    (cardNode first firstVersion firstLinks).skeleton =
      (cardNode second secondVersion secondLinks).skeleton := by
  simp only [cardNode, versionedLink, themedImage, Node.skeleton, skeletonAll, tagSkeleton,
    writtenAttributes, Attribute.skeleton, List.flatMap_append, List.flatMap_cons,
    List.flatMap_nil, Option.map_some, Option.toList_some]

/-- As many pieces, each with the same skeleton, have the same skeleton in a row. -/
private theorem skeletonAll_map_eq
    {First Second : Type}
    {firstNode : First → Node}
    {secondNode : Second → Node}
    (sameSkeleton : ∀ left right, (firstNode left).skeleton = (secondNode right).skeleton)
    {first : List First}
    {second : List Second}
    (sameLength : first.length = second.length) :
    skeletonAll (first.map firstNode) = skeletonAll (second.map secondNode) := by
  induction first generalizing second with
  | nil =>
      have nothing : second = [] := List.length_eq_zero_iff.mp sameLength.symm
      rw [nothing]
      rfl
  | cons left lefts inductionHypothesis =>
      cases second with
      | nil => simp at sameLength
      | cons right rights =>
          rw [List.map_cons, List.map_cons, skeletonAll, skeletonAll, sameSkeleton left right,
            inductionHypothesis (by simpa using sameLength)]

section TwoRuns

variable {first second : Catalog}

theorem gridNode_skeleton_eq
    (sameSize : first.size = second.size)
    (firstContext secondContext : Context) :
    (gridNode first firstContext).skeleton = (gridNode second secondContext).skeleton := by
  have sameLength : (firstContext.cards first).length = (secondContext.cards second).length := by
    rw [Context.length_cards, Context.length_cards, sameSize]
  have sameCards := skeletonAll_map_eq
    (fun left right => cardNode_skeleton_eq left right firstContext.activeVersion
      secondContext.activeVersion firstContext.links secondContext.links) sameLength
  simp only [gridNode, Node.skeleton, skeletonAll_append, sameCards, tagSkeleton,
    writtenAttributes, Attribute.skeleton, List.flatMap_append, List.flatMap_cons,
    List.flatMap_nil, Option.map_some, Option.toList_some]

theorem headNode_skeleton_eq (firstContext secondContext : Context) :
    (headNode firstContext).skeleton = (headNode secondContext).skeleton := by
  simp only [headNode, Node.skeleton, skeletonAll, tagSkeleton, writtenAttributes,
    Attribute.skeleton, List.flatMap_append, List.flatMap_cons]

/-- The header shows only whether there is a version. -/
theorem headerNode_skeleton_eq
    {firstContext secondContext : Context}
    (sameActivity :
      firstContext.activeVersion.isSome = secondContext.activeVersion.isSome) :
    (headerNode firstContext).skeleton = (headerNode secondContext).skeleton := by
  have sameBadge : (versionBadge firstContext.activeVersion).skeleton =
      (versionBadge secondContext.activeVersion).skeleton := by
    cases firstActive : firstContext.activeVersion <;>
      cases secondActive : secondContext.activeVersion <;>
      simp_all [versionBadge, Node.skeleton, skeletonAll]
  simp only [headerNode, Node.skeleton, skeletonAll, sameBadge]

theorem emptyNote_skeleton_eq (sameSize : first.size = second.size) :
    (emptyNote first).skeleton = (emptyNote second).skeleton := by
  have sameEmptiness : first.isEmpty = second.isEmpty := by
    rw [Bool.eq_iff_iff, Catalog.isEmpty, Catalog.isEmpty, List.isEmpty_iff, List.isEmpty_iff,
      ← List.length_eq_zero_iff, ← List.length_eq_zero_iff, ← Catalog.size, ← Catalog.size,
      sameSize]
  rw [emptyNote, emptyNote, sameEmptiness]

theorem documentNode_skeleton_eq
    (sameSize : first.size = second.size)
    {firstContext secondContext : Context}
    (sameActivity :
      firstContext.activeVersion.isSome = secondContext.activeVersion.isSome) :
    (documentNode first firstContext).skeleton = (documentNode second secondContext).skeleton := by
  simp only [documentNode, bodyNode, Node.skeleton, skeletonAll,
    headNode_skeleton_eq firstContext secondContext, headerNode_skeleton_eq sameActivity,
    emptyNote_skeleton_eq sameSize, gridNode_skeleton_eq sameSize firstContext secondContext,
    tagSkeleton, writtenAttributes, Attribute.skeleton, List.flatMap_append, List.flatMap_cons,
    List.flatMap_nil, Option.map_some, Option.toList_some]

end TwoRuns

/-- A page's skeleton is that of its declaration and its tree. -/
theorem skeleton_page (catalog : Catalog) (context : Context) :
    skeleton (page catalog context) =
      "<!DOCTYPE html>" ++ String.ofList (documentNode catalog context).skeleton := by
  have declaration : Scans .text doctype.toList "<!DOCTYPE html>".toList .text := by
    constructor <;> decide
  have whole := declaration.append
    ((documentNode catalog context).scans_write (documentNode_isPlain catalog context))
  rw [skeleton, page, String.toList_append, Node.render, String.toList_ofList,
    whole.skeletonFrom_eq, String.ofList_append, String.ofList_toList]

/-- **Texts never become markup.** Catalogs of one size have grids of one
skeleton, and pages of one skeleton as well if a version is active in both or in
none: labels, targets, descriptions, titles, versions, roots and strategies
leave no trace in it. -/
theorem skeleton_independent_of_texts
    (first second : Catalog)
    (firstContext secondContext : Context)
    (sameSize : first.size = second.size) :
    skeleton (grid first firstContext) = skeleton (grid second secondContext) ∧
      (firstContext.activeVersion.isSome = secondContext.activeVersion.isSome →
        skeleton (page first firstContext) = skeleton (page second secondContext)) := by
  constructor
  · rw [grid, grid, skeleton_render (gridNode_isPlain first firstContext),
      skeleton_render (gridNode_isPlain second secondContext),
      gridNode_skeleton_eq sameSize firstContext secondContext]
  · intro sameActivity
    rw [skeleton_page, skeleton_page, documentNode_skeleton_eq sameSize sameActivity]

/-- Texts that try to end their quotes, tags and elements do not. -/
theorem skeleton_of_hostile_texts :
    let friendly : Catalog := ⟨[⟨"Startup", "/startup", "Cold start"⟩], by decide⟩
    let hostile : Catalog := ⟨[⟨"</h2><script>", "/a\" onclick=\"b", "\"><img src='x'>"⟩], by decide⟩
    let plain : Context := { version := some "v1" }
    let loud : Context :=
      { title := "</title><b>", version := some " \"<&gt; ", theme := .dark
        links := .custom fun href version => version ++ ">" ++ href
        assets := .ofText "http://a/\">" }
    friendly.size = hostile.size ∧ plain.activeVersion.isSome = loud.activeVersion.isSome ∧
      skeleton (grid friendly plain) = skeleton (grid hostile loud) ∧
      skeleton (page friendly plain) = skeleton (page hostile loud) := by
  intro friendly hostile plain loud
  have sameActivity : plain.activeVersion.isSome = loud.activeVersion.isSome := by decide
  obtain ⟨sameGrid, samePage⟩ := skeleton_independent_of_texts friendly hostile plain loud rfl
  exact ⟨rfl, sameActivity, sameGrid, samePage sameActivity⟩

end ReportIndex.Page
