import ReportIndex.Card
import ReportIndex.Proofs.Card

/-!
Contract: no link goes nowhere.

Owns:
- a resolved target is not blank if the stored one is not, for the strategies of
  this library;
- the same for every card.

Does not own: a host's own strategy, which may give any target.
-/

namespace ReportIndex

theorem Text.isBlankText_eq_false_iff (text : String) :
    isBlankText text = false ↔ ∃ character ∈ text.toList, isBlank character = false := by
  simp [isBlankText]

/-- One of the strategies of this library. -/
def LinkStrategy.isBuiltIn : LinkStrategy → Bool
  | .query _ => true
  | .path => true
  | .custom _ => false

theorem Config.isBuiltIn_linkStrategy (config : Config) :
    config.linkStrategy.isBuiltIn = true := by
  rw [linkStrategy]
  cases config.link.encoding <;> rfl

namespace LinkStrategy

theorem question_mem_mergeQuery (name : List Char) (version : String) (href : List Char) :
    '?' ∈ mergeQuery name version href := by
  simp [mergeQuery]

theorem slash_mem_mergePath (version : String) (href : List Char) :
    '/' ∈ mergePath version href := by
  rw [mergePath.eq_def]
  split <;> simp

theorem isBlankText_apply
    {strategy : LinkStrategy}
    (builtIn : strategy.isBuiltIn = true)
    {href : String}
    (notBlank : Text.isBlankText href = false)
    (version : String) :
    Text.isBlankText (strategy.apply href version) = false := by
  have written : ∀ {merged : List Char} {character : Char},
      character ∈ merged →
      Text.isBlank character = false →
      Text.isBlankText (String.ofList merged) = false := by
    intro merged character member visible
    rw [Text.isBlankText_eq_false_iff, String.toList_ofList]
    exact ⟨character, member, visible⟩
  cases strategy with
  | query name =>
      rw [apply]
      split
      · exact notBlank
      · exact written (question_mem_mergeQuery _ _ _) (by decide)
  | path =>
      rw [apply]
      split
      · exact notBlank
      · exact written (slash_mem_mergePath _ _) (by decide)
  | custom merge => cases builtIn

/-- A target that is not blank is resolved to one that is not. -/
theorem isBlankText_resolve
    {strategy : LinkStrategy}
    (builtIn : strategy.isBuiltIn = true)
    {href : String}
    (notBlank : Text.isBlankText href = false)
    (version : Option String) :
    Text.isBlankText (strategy.resolve href version) = false := by
  rw [resolve]
  split
  · exact isBlankText_apply builtIn notBlank _
  · exact notBlank

end LinkStrategy

theorem Card.isBlankText_href
    {context : Context}
    (builtIn : context.links.isBuiltIn = true)
    {catalog : Catalog}
    {card : Card}
    (member : card ∈ context.cards catalog) :
    Text.isBlankText card.href = false := by
  rw [Context.href_of_mem_cards member, VersionedHref.resolve]
  exact LinkStrategy.isBlankText_resolve builtIn card.link.base_not_blank _

end ReportIndex
