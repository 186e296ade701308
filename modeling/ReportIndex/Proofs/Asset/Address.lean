import ReportIndex.Proofs.Asset
import ReportIndex.Proofs.Page.ShownPage
import ReportIndex.Proofs.Text.Trim

/-!
Contract: the address of an illustration tells where it belongs.

Owns:
- the two illustrations of a card as a choice of shade;
- an address gives back the root, the position and the shade that it was made from;
- the images of a page, no two of which have the same address.

Does not own: how a root is spelled, and which files are at the addresses.
-/

namespace ReportIndex

/-- Which of the two illustrations of a card is meant. -/
inductive Shade where
  | light
  | dark
deriving DecidableEq, Repr

namespace Shade

def fileName : Shade → Nat → String
  | .light => lightFileName
  | .dark => darkFileName

/-- A name tells the position and the shade. -/
theorem fileName_eq_iff (shade other : Shade) (index position : Nat) :
    shade.fileName index = other.fileName position ↔ index = position ∧ shade = other := by
  constructor
  · intro same
    cases shade with
    | light =>
        cases other with
        | light => exact ⟨lightFileName_injective same, rfl⟩
        | dark => exact absurd same (lightFileName_ne_darkFileName index position)
    | dark =>
        cases other with
        | light => exact absurd same.symm (lightFileName_ne_darkFileName position index)
        | dark => exact ⟨darkFileName_injective same, rfl⟩
  · rintro ⟨rfl, rfl⟩
    rfl

theorem not_mem_fileName
    {mark : Char}
    (notDigit : mark.isDigit = false)
    (notLetter : mark ∉ nameLetters)
    (shade : Shade)
    (index : Nat) :
    mark ∉ (shade.fileName index).toList := by
  cases shade with
  | light => exact not_mem_lightFileName notDigit notLetter index
  | dark => exact not_mem_darkFileName notDigit notLetter index

theorem slash_not_mem_fileName (shade : Shade) (index : Nat) :
    '/' ∉ (shade.fileName index).toList :=
  shade.not_mem_fileName rfl (by decide) index

end Shade

namespace AssetRoot

/-- Where the illustration of a card is found. -/
def address (root : AssetRoot) : Shade → Nat → String
  | .light => root.light
  | .dark => root.dark

theorem address_eq (root : AssetRoot) (shade : Shade) (index : Nat) :
    root.address shade index = root.base ++ "/" ++ shade.fileName index := by
  cases shade <;> rfl

/-- An address holds a root, a slash and a name. -/
theorem not_mem_address_iff
    {mark : Char}
    (notDigit : mark.isDigit = false)
    (notLetter : mark ∉ nameLetters)
    (notSlash : mark ≠ '/')
    (root : AssetRoot)
    (shade : Shade)
    (index : Nat) :
    mark ∉ (root.address shade index).toList ↔ mark ∉ root.base.toList := by
  have notName := shade.not_mem_fileName notDigit notLetter index
  rw [address_eq]
  simp [notSlash, notName]

/-- The name is cut off first, as it holds no slash; what is left is the root. -/
theorem address_eq_iff
    (root otherRoot : AssetRoot)
    (shade other : Shade)
    (index position : Nat) :
    root.address shade index = otherRoot.address other position ↔
      root.base = otherRoot.base ∧ index = position ∧ shade = other := by
  rw [address_eq, address_eq]
  constructor
  · intro same
    have names := congrArg lastSegment same
    rw [lastSegment_append (shade.slash_not_mem_fileName index),
      lastSegment_append (other.slash_not_mem_fileName position), Shade.fileName_eq_iff] at names
    obtain ⟨rfl, rfl⟩ := names
    rw [String.append_left_inj, String.append_left_inj] at same
    exact ⟨same, rfl, rfl⟩
  · rintro ⟨sameBase, rfl, rfl⟩
    rw [sameBase]

/-- The slashes at the end of a root are gone. -/
theorem getLast?_base_ofText (text : String) : (ofText text).base.toList.getLast? ≠ some '/' := by
  intro slash
  rw [ofText, String.toList_ofList] at slash
  exact absurd (Text.kept_of_getLast?_dropEndWhile slash) (by decide)

end AssetRoot

theorem Context.nodup_sources (context : Context) (catalog : Catalog) :
    (context.sources catalog).Nodup := by
  refine List.Nodup.of_map lastSegment ?_
  rw [Context.map_lastSegment_sources]
  exact nodup_illustrationNames catalog.size

namespace AssetRoot

/-- **Addresses of illustrations are unambiguous.** Two are the same only for the same
root, position and shade. So all images of a page are at different addresses, and the
name at the end of an address has exactly one slash in front of it. -/
theorem illustrations_told_apart :
    (∀ (first second : String) (shade other : Shade) (index position : Nat),
        (ofText first).address shade index = (ofText second).address other position ↔
          (ofText first).base = (ofText second).base ∧ index = position ∧ shade = other)
      ∧ (∀ (catalog : Catalog) (context : Context),
          (Page.imagesIn (Markup.events (Page.page catalog context))).Nodup
            ∧ (Page.imagesIn (Markup.events (Page.page catalog context))).length =
                catalog.size * 2)
      ∧ ∀ (text : String) (shade : Shade) (index : Nat),
          ∃ front,
            (ofText text).address shade index = front ++ "/" ++ shade.fileName index
              ∧ front.toList.getLast? ≠ some '/'
              ∧ '/' ∉ (shade.fileName index).toList := by
  refine ⟨fun first second => address_eq_iff _ _, fun catalog context => ?_,
    fun text shade index => ?_⟩
  · have images := Page.images_page catalog context
    rw [images]
    refine ⟨context.nodup_sources catalog, ?_⟩
    have names := congrArg List.length (context.map_lastSegment_sources catalog)
    rwa [List.length_map, length_illustrationNames] at names
  · exact ⟨(ofText text).base, address_eq _ shade index, getLast?_base_ofText text,
      shade.slash_not_mem_fileName index⟩

/-- A root that ends like the name of an illustration is told apart from the name. -/
example :
    (ofText " /graph-1.svg// ").address .dark 12 = "/graph-1.svg/graph-12-dark.svg" := by
  decide

end AssetRoot

end ReportIndex
