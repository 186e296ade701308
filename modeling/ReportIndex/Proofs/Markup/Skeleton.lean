import ReportIndex.Proofs.Markup.Place

/-!
Contract: the skeleton of a tree of markup.

Owns:
- the skeleton read off the tree: its tags, with the names of attributes but
  without their values;
- the agreement with the skeleton of the written markup.

Does not own: which trees have equal skeletons.
-/

namespace ReportIndex.Markup

def Attribute.skeleton (given : Attribute) : List Char :=
  ' ' :: given.name.toList ++ ['=', '"', '"']

/-- An opening tag without the values of its attributes. -/
def tagSkeleton (tag : String) (attributes : List Attribute) (classes : Option String) :
    List Char :=
  '<' :: tag.toList ++ (writtenAttributes attributes classes).flatMap Attribute.skeleton ++ ['>']

mutual

/-- The skeleton of a piece of markup: no text is in it. -/
def Node.skeleton : Node → List Char
  | .text _ => []
  | .raw _ => []
  | .marker => ['<', '!', '>']
  | .void tag attributes classes => tagSkeleton tag attributes classes
  | .element tag attributes classes children =>
      tagSkeleton tag attributes classes ++ skeletonAll children ++ closeTag tag

def skeletonAll : List Node → List Char
  | [] => []
  | node :: nodes => node.skeleton ++ skeletonAll nodes

end

theorem skeletonAll_append (left right : List Node) :
    skeletonAll (left ++ right) = skeletonAll left ++ skeletonAll right := by
  induction left with
  | nil => rfl
  | cons head tail inductionHypothesis =>
      simp [skeletonAll, inductionHypothesis]

/-! ## Written markup has the skeleton of its tree -/

theorem scans_name {name : String} (plain : isPlainName name = true) :
    Scans .tag name.toList name.toList .tag :=
  Scans.tag fun _ member =>
    ⟨ne_of_mem_plainName plain member rfl, ne_of_mem_plainName plain member rfl⟩

theorem scans_attribute
    {given : Attribute}
    (plain : isPlainName given.name = true) :
    Scans .tag given.write given.skeleton .tag := by
  have blank : Scans .tag [' '] [' '] .tag := ⟨rfl, rfl⟩
  have opening : Scans .tag ['=', '"'] ['=', '"'] .value := ⟨rfl, rfl⟩
  have closing : Scans .value ['"'] ['"'] .tag := ⟨rfl, rfl⟩
  have value := Scans.value (quote_not_mem_escapeValue given.value)
  have whole := (((blank.append (scans_name plain)).append opening).append value).append closing
  simpa [Attribute.write, Attribute.skeleton] using whole

theorem scans_attributes
    {attributes : List Attribute}
    (plain : ∀ given ∈ attributes, isPlainName given.name = true) :
    Scans .tag (attributes.flatMap Attribute.write)
      (attributes.flatMap Attribute.skeleton) .tag := by
  induction attributes with
  | nil => exact Scans.nil .tag
  | cons given rest inductionHypothesis =>
      rw [List.flatMap_cons, List.flatMap_cons]
      exact (scans_attribute (plain given (by simp))).append
        (inductionHypothesis fun other member => plain other (by simp [member]))

theorem scans_openTag
    {tag : String}
    {attributes : List Attribute}
    (plainTag : isPlainName tag = true)
    (plainNames : attributes.all (fun given => isPlainName given.name) = true)
    (classes : Option String) :
    Scans .text (openTag tag attributes classes) (tagSkeleton tag attributes classes) .text := by
  have opening : Scans .text ['<'] ['<'] .tag := ⟨rfl, rfl⟩
  have closing : Scans .tag ['>'] ['>'] .text := ⟨rfl, rfl⟩
  have named := scans_attributes (plainNames_writtenAttributes plainNames classes)
  have whole := ((opening.append (scans_name plainTag)).append named).append closing
  simpa [openTag, tagSkeleton, writeAttributes_eq] using whole

theorem scans_closeTag {tag : String} (plain : isPlainName tag = true) :
    Scans .text (closeTag tag) (closeTag tag) .text := by
  have opening : Scans .text ['<', '/'] ['<', '/'] .tag := ⟨rfl, rfl⟩
  have closing : Scans .tag ['>'] ['>'] .text := ⟨rfl, rfl⟩
  simpa [closeTag] using (opening.append (scans_name plain)).append closing

mutual

/-- Whatever its texts and values are, plain markup is written with the
skeleton of its tree, and leaves the reader between tags. -/
theorem Node.scans_write : ∀ node : Node, node.isPlain = true →
    Scans .text node.write node.skeleton .text
  | .text content, _ => by
      rw [Node.write, Node.skeleton]
      exact Scans.text (less_not_mem_escapeText content)
  | .raw content, plain => by
      rw [Node.write, Node.skeleton]
      refine Scans.text fun member => ?_
      simpa using List.all_eq_true.mp plain '<' member
  | .marker, _ => ⟨rfl, rfl⟩
  | .void tag attributes classes, plain => by
      rw [Node.isPlain, Bool.and_eq_true] at plain
      rw [Node.write, Node.skeleton]
      exact scans_openTag plain.1 plain.2 classes
  | .element tag attributes classes children, plain => by
      rw [Node.isPlain, Bool.and_eq_true, Bool.and_eq_true] at plain
      obtain ⟨⟨plainTag, plainNames⟩, plainChildren⟩ := plain
      rw [Node.write, Node.skeleton]
      exact ((scans_openTag plainTag plainNames classes).append
        (scans_writeAll children plainChildren)).append (scans_closeTag plainTag)

theorem scans_writeAll : ∀ nodes : List Node, allPlain nodes = true →
    Scans .text (writeAll nodes) (skeletonAll nodes) .text
  | [], _ => Scans.nil .text
  | node :: nodes, plain => by
      rw [allPlain, Bool.and_eq_true] at plain
      rw [writeAll, skeletonAll]
      exact (Node.scans_write node plain.1).append (scans_writeAll nodes plain.2)

end

/-- The skeleton of a rendered tree does not depend on texts and values. -/
theorem skeleton_render {node : Node} (plain : node.isPlain = true) :
    skeleton node.render = String.ofList node.skeleton := by
  rw [skeleton, Node.render, String.toList_ofList, (node.scans_write plain).skeletonFrom_eq]

end ReportIndex.Markup
