/-!
Contract: look-ups in lists of keys with values.

Owns:
- look-ups behind a filter that leaves out one key, and behind a change of the values.

Does not own: what keys and values are.
-/

namespace ReportIndex

section

variable {α β γ : Type} [BEq α] [LawfulBEq α]

theorem lookup_filter_ne
    (entries : List (α × β))
    {key other : α}
    (different : other ≠ key) :
    (entries.filter (·.1 != key)).lookup other = entries.lookup other := by
  induction entries with
  | nil => rfl
  | cons first rest inductionHypothesis =>
      obtain ⟨name, value⟩ := first
      by_cases same : name = key
      · rw [List.filter_cons_of_neg (by simp [same]), inductionHypothesis, List.lookup_cons,
          beq_false_of_ne (by rwa [same])]
      · rw [List.filter_cons_of_pos (by simpa using same), List.lookup_cons, List.lookup_cons,
          inductionHypothesis]

theorem lookup_filter_self (entries : List (α × β)) (key : α) :
    (entries.filter (·.1 != key)).lookup key = none := by
  rw [List.lookup_eq_none_iff]
  intro entry member
  rw [bne_comm]
  exact (List.mem_filter.mp member).2

/-- Every value may become another one, which depends on its key too. -/
theorem lookup_map_value
    (change : α → β → γ)
    (entries : List (α × β))
    (key : α) :
    (entries.map fun entry => (entry.1, change entry.1 entry.2)).lookup key =
      (entries.lookup key).map (change key) := by
  induction entries with
  | nil => rfl
  | cons first rest inductionHypothesis =>
      obtain ⟨name, value⟩ := first
      by_cases same : key = name
      · subst same
        simp
      · rw [List.map_cons, List.lookup_cons, List.lookup_cons, beq_false_of_ne same,
          inductionHypothesis]

end

end ReportIndex
