import ReportIndex.Page.Document
import ReportIndex.Proofs.Markup.Place

/-!
Contract: the trees of page and grid have plain names.

Owns:
- the plainness of both, for every catalog and context;
- the raw texts of a page, none of which could begin a tag.

Does not own: what follows for readers of the markup.
-/

namespace ReportIndex.Page

open Markup

/-! ## Raw texts -/

/-- A text that is spelled out can be searched as a list. -/
private theorem all_toList_of_spelled
    {content : String}
    {characters : List Char}
    {test : Char → Bool}
    (spelled : content = String.ofList characters)
    (passed : characters.all test = true) :
    content.toList.all test = true := by
  rw [spelled, String.toList_ofList]
  exact passed

set_option maxRecDepth 100000 in
theorem styleSheet_noTag : styleSheet.toList.all (· != '<') = true := by
  refine all_toList_of_spelled (?spelled : styleSheet = String.ofList ?characters) ?passed
  case spelled => unfold styleSheet; exact rfl
  case passed => decide +kernel

set_option maxRecDepth 20000 in
theorem restoreThemeScript_noTag : restoreThemeScript.toList.all (· != '<') = true := by
  refine all_toList_of_spelled (?spelled : restoreThemeScript = String.ofList ?characters) ?passed
  case spelled => unfold restoreThemeScript; exact rfl
  case passed => decide +kernel

set_option maxRecDepth 20000 in
theorem toggleThemeScript_noTag : toggleThemeScript.toList.all (· != '<') = true := by
  refine all_toList_of_spelled (?spelled : toggleThemeScript = String.ofList ?characters) ?passed
  case spelled => unfold toggleThemeScript; exact rfl
  case passed => decide +kernel

/-! ## The parts of a page -/

theorem cardNode_isPlain (card : Card) (version : Option String) (links : LinkStrategy) :
    (cardNode card version links).isPlain = true := by
  simp [cardNode, versionedLink, themedImage, Node.isPlain, allPlain, isPlainName,
    isNameCharacter]

theorem gridNode_isPlain (catalog : Catalog) (context : Context) :
    (gridNode catalog context).isPlain = true := by
  have cardsPlain : allPlain ((context.cards catalog).map fun card =>
      cardNode card context.activeVersion context.links) = true := by
    rw [allPlain_eq_true_iff]
    intro node member
    obtain ⟨card, _, rfl⟩ := List.mem_map.mp member
    exact cardNode_isPlain card context.activeVersion context.links
  rw [gridNode, Node.isPlain, allPlain_append, cardsPlain]
  simp [Node.isPlain, allPlain, isPlainName, isNameCharacter]

theorem headNode_isPlain (context : Context) : (headNode context).isPlain = true := by
  simp only [headNode, Node.isPlain, allPlain, styleSheet_noTag, restoreThemeScript_noTag]
  simp [isPlainName, isNameCharacter]

theorem themeToggle_isPlain : themeToggle.isPlain = true := by
  simp [themeToggle, icon, Node.isPlain, allPlain, isPlainName, isNameCharacter]

theorem headerNode_isPlain (context : Context) : (headerNode context).isPlain = true := by
  have badgePlain : (versionBadge context.activeVersion).isPlain = true := by
    cases context.activeVersion <;>
      simp [versionBadge, Node.isPlain, allPlain, isPlainName, isNameCharacter]
  simp [headerNode, Node.isPlain, allPlain, isPlainName, isNameCharacter, badgePlain,
    themeToggle_isPlain]

theorem emptyNote_isPlain (catalog : Catalog) : (emptyNote catalog).isPlain = true := by
  unfold emptyNote
  split <;> simp [Node.isPlain, allPlain, isPlainName, isNameCharacter]

theorem documentNode_isPlain (catalog : Catalog) (context : Context) :
    (documentNode catalog context).isPlain = true := by
  simp only [documentNode, bodyNode, Node.isPlain, allPlain, headNode_isPlain, headerNode_isPlain,
    emptyNote_isPlain, gridNode_isPlain, toggleThemeScript_noTag]
  simp [isPlainName, isNameCharacter]

end ReportIndex.Page
