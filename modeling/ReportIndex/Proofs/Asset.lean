import Mathlib
import ReportIndex.Proofs.Card

/-!
Contract: the names of illustrations.

Owns:
- what a name is made of;
- a name says which card it belongs to, and for which theme it is;
- the last segment of an illustration's address is its name;
- the names that the cards of a catalog ask for, each once.

Does not own: whether the files are there.
-/

namespace ReportIndex

/-! ## Numbers in names -/

theorem isDigit_of_mem_toString
    {number : Nat}
    {character : Char}
    (member : character ∈ (toString number).toList) :
    character.isDigit = true := by
  rw [Nat.toString_eq_repr, Nat.repr_eq_ofList_toDigits, String.toList_ofList] at member
  exact Nat.isDigit_of_mem_toDigits (by decide) (by decide) member

theorem takeWhile_isDigit_toString
    (number : Nat)
    {rest : List Char}
    (ends : rest.takeWhile Char.isDigit = []) :
    ((toString number).toList ++ rest).takeWhile Char.isDigit = (toString number).toList := by
  rw [List.takeWhile_append_of_pos fun _ member => isDigit_of_mem_toString member, ends,
    List.append_nil]

/-- A number ends where the digits end. -/
theorem toString_append_inj
    {first second : Nat}
    {firstRest secondRest : List Char}
    (firstEnds : firstRest.takeWhile Char.isDigit = [])
    (secondEnds : secondRest.takeWhile Char.isDigit = [])
    (same : (toString first).toList ++ firstRest = (toString second).toList ++ secondRest) :
    first = second ∧ firstRest = secondRest := by
  have digits := congrArg (List.takeWhile Char.isDigit) same
  rw [takeWhile_isDigit_toString first firstEnds, takeWhile_isDigit_toString second secondEnds,
    String.toList_inj, Nat.toString_eq_repr, Nat.toString_eq_repr] at digits
  have number := Nat.repr_injective digits
  subst number
  exact ⟨rfl, List.append_cancel_left same⟩

/-! ## Names -/

theorem toList_lightFileName (index : Nat) :
    (lightFileName index).toList =
      ['g', 'r', 'a', 'p', 'h', '-'] ++ ((toString index).toList ++ ['.', 's', 'v', 'g']) := by
  simp [lightFileName]

theorem toList_darkFileName (index : Nat) :
    (darkFileName index).toList =
      ['g', 'r', 'a', 'p', 'h', '-']
        ++ ((toString index).toList ++ ['-', 'd', 'a', 'r', 'k', '.', 's', 'v', 'g']) := by
  simp [darkFileName]

/-- What a name is made of, besides the digits of its number. -/
def nameLetters : List Char :=
  ['g', 'r', 'a', 'p', 'h', '-', 'd', 'k', '.', 's', 'v']

section

variable {mark : Char} (notDigit : mark.isDigit = false) (notLetter : mark ∉ nameLetters)

include notDigit

theorem not_mem_toString (number : Nat) : mark ∉ (toString number).toList := by
  intro member
  rw [isDigit_of_mem_toString member] at notDigit
  cases notDigit

include notLetter

theorem not_mem_lightFileName (index : Nat) : mark ∉ (lightFileName index).toList := by
  have front : ['g', 'r', 'a', 'p', 'h', '-'] ⊆ nameLetters := by decide
  have behind : ['.', 's', 'v', 'g'] ⊆ nameLetters := by decide
  rw [toList_lightFileName, List.mem_append, List.mem_append]
  rintro (member | member | member)
  · exact notLetter (front member)
  · exact not_mem_toString notDigit index member
  · exact notLetter (behind member)

theorem not_mem_darkFileName (index : Nat) : mark ∉ (darkFileName index).toList := by
  have front : ['g', 'r', 'a', 'p', 'h', '-'] ⊆ nameLetters := by decide
  have behind : ['-', 'd', 'a', 'r', 'k', '.', 's', 'v', 'g'] ⊆ nameLetters := by decide
  rw [toList_darkFileName, List.mem_append, List.mem_append]
  rintro (member | member | member)
  · exact notLetter (front member)
  · exact not_mem_toString notDigit index member
  · exact notLetter (behind member)

end

theorem lightFileName_injective {first second : Nat} (same : lightFileName first = lightFileName second) : first = second := by
  rw [← String.toList_inj, toList_lightFileName, toList_lightFileName] at same
  exact (toString_append_inj rfl rfl (List.append_cancel_left same)).1

theorem darkFileName_injective {first second : Nat} (same : darkFileName first = darkFileName second) : first = second := by
  rw [← String.toList_inj, toList_darkFileName, toList_darkFileName] at same
  exact (toString_append_inj rfl rfl (List.append_cancel_left same)).1

theorem lightFileName_ne_darkFileName (first second : Nat) :
    lightFileName first ≠ darkFileName second := by
  intro same
  rw [← String.toList_inj, toList_lightFileName, toList_darkFileName] at same
  exact absurd (toString_append_inj rfl rfl (List.append_cancel_left same)).2 (by decide)

/-- No two illustrations of a catalog have the same name. -/
theorem nodup_illustrationNames (count : Nat) : (illustrationNames count).Nodup := by
  rw [illustrationNames, List.nodup_flatMap]
  refine ⟨fun index _ => by simp [lightFileName_ne_darkFileName], ?_⟩
  refine List.nodup_range.imp fun {first second} different => ?_
  have light : lightFileName second ≠ lightFileName first := fun same =>
    different (lightFileName_injective same).symm
  have dark : darkFileName second ≠ darkFileName first := fun same =>
    different (darkFileName_injective same).symm
  simp [light, dark, lightFileName_ne_darkFileName, Ne.symm (lightFileName_ne_darkFileName _ _)]

theorem length_illustrationNames (count : Nat) : (illustrationNames count).length = count * 2 := by
  simp [illustrationNames]

/-! ## Addresses -/

/-- What stands behind the last slash of an address. -/
def lastSegment (address : String) : String :=
  String.ofList (address.toList.reverse.takeWhile (· != '/')).reverse

theorem lastSegment_append {name : String} (noSlash : '/' ∉ name.toList) (base : String) :
    lastSegment (base ++ "/" ++ name) = name := by
  have plain : ∀ character ∈ name.toList.reverse, (character != '/') = true := by
    intro character member
    simpa using ne_of_mem_of_not_mem (List.mem_reverse.mp member) noSlash
  simp only [lastSegment, String.toList_append, List.reverse_append]
  rw [List.takeWhile_append_of_pos plain]
  simp

theorem lastSegment_light (root : AssetRoot) (index : Nat) :
    lastSegment (root.light index) = lightFileName index :=
  lastSegment_append (not_mem_lightFileName rfl (by decide) index) root.base

theorem lastSegment_dark (root : AssetRoot) (index : Nat) :
    lastSegment (root.dark index) = darkFileName index :=
  lastSegment_append (not_mem_darkFileName rfl (by decide) index) root.base

/-- The illustrations that the cards of a catalog ask for. -/
def Context.sources (context : Context) (catalog : Catalog) : List String :=
  (context.cards catalog).flatMap fun card => [card.lightSource, card.darkSource]

theorem Context.sources_eq (context : Context) (catalog : Catalog) :
    context.sources catalog =
      (List.range catalog.size).flatMap fun index =>
        [context.assets.light index, context.assets.dark index] := by
  have pairs : (context.cards catalog).map (fun card => [card.lightSource, card.darkSource]) =
      (List.range catalog.size).map fun index =>
        [context.assets.light index, context.assets.dark index] := by
    refine List.ext_getElem (by simp) fun index inside _ => ?_
    have insideCards : index < (context.cards catalog).length := by simpa using inside
    have insideReports : index < catalog.reports.length := by
      simpa [Catalog.size] using insideCards
    simp only [List.getElem_map, List.getElem_range,
      Context.getElem_cards context catalog index insideReports insideCards]
    rfl
  rw [Context.sources, List.flatMap_def, pairs, ← List.flatMap_def]

/-- The names at the ends of the sources are those of the illustrations. -/
theorem Context.map_lastSegment_sources (context : Context) (catalog : Catalog) :
    (context.sources catalog).map lastSegment = illustrationNames catalog.size := by
  simp [Context.sources_eq, List.map_flatMap, lastSegment_light, lastSegment_dark,
    illustrationNames]

end ReportIndex
