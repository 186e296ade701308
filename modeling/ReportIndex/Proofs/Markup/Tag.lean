import ReportIndex.Proofs.Markup.Event

/-!
Contract: which elements can be in a tree of markup.

Owns:
- the tags of a tree;
- a reader who looks for another tag finds nothing in the tree.

Does not own: what is found.
-/

namespace ReportIndex.Markup

mutual

/-- The tags of a piece of markup, with that of a marker. -/
def Node.tags : Node → List String
  | .text _ => []
  | .raw _ => []
  | .marker => ["!"]
  | .void tag _ _ => [tag]
  | .element tag _ _ children => tag :: tagsAll children

def tagsAll : List Node → List String
  | [] => []
  | node :: nodes => node.tags ++ tagsAll nodes

end

@[simp]
theorem tagsAll_append (left right : List Node) :
    tagsAll (left ++ right) = tagsAll left ++ tagsAll right := by
  induction left with
  | nil => rfl
  | cons head tail inductionHypothesis => simp [tagsAll, inductionHypothesis]

theorem mem_tagsAll_iff (tag : String) (nodes : List Node) :
    tag ∈ tagsAll nodes ↔ ∃ node ∈ nodes, tag ∈ node.tags := by
  induction nodes with
  | nil => simp [tagsAll]
  | cons head tail inductionHypothesis => simp [tagsAll, inductionHypothesis]

mutual

/-- A reader who looks for a tag passes over a piece of markup without it. -/
theorem Node.elements_events : ∀ (node : Node) {tag : String} (rest : List Event),
    tag ∉ node.tags → elements tag (node.events ++ rest) = elements tag rest
  | .text content, tag, rest, _ => by rw [Node.events, elements_characters]
  | .raw content, tag, rest, _ => by rw [Node.events, elements_characters]
  | .marker, tag, rest, absent => by
      rw [Node.tags, List.mem_singleton] at absent
      rw [Node.events, List.singleton_append, elements, if_neg (Ne.symm absent)]
  | .void found attributes classes, tag, rest, absent => by
      rw [Node.tags, List.mem_singleton] at absent
      rw [Node.events, List.singleton_append, elements, if_neg (Ne.symm absent)]
  | .element found attributes classes children, tag, rest, absent => by
      rw [Node.tags, List.mem_cons, not_or] at absent
      rw [Node.events, List.append_assoc, List.cons_append, elements, if_neg (Ne.symm absent.1),
        elements_eventsAll children _ absent.2, List.singleton_append, elements]
      simp

theorem elements_eventsAll : ∀ (nodes : List Node) {tag : String} (rest : List Event),
    tag ∉ tagsAll nodes → elements tag (eventsAll nodes ++ rest) = elements tag rest
  | [], _, _, _ => rfl
  | node :: nodes, tag, rest, absent => by
      rw [tagsAll, List.mem_append, not_or] at absent
      rw [eventsAll, List.append_assoc, Node.elements_events node _ absent.1,
        elements_eventsAll nodes rest absent.2]

end

end ReportIndex.Markup
