import ReportIndex.Proofs.Catalog.Document
import ReportIndex.Proofs.Command.Loading

/-!
Contract: what becomes of a text that holds a JSON document.

Owns:
- the one result that the rule on documents leaves for a text;
- the independence of what stands beside the list of entries;
- the same result, with the path in its faults, for a text that is loaded.

Does not own: the rule, and texts that are no JSON.
-/

namespace ReportIndex

/-- The error of loading a text in which this is at fault. -/
def LoadError.ofFault (path : String) : Catalog.Fault → LoadError
  | .document fault => .malformed path fault
  | .blankHref error => .blankHref error

namespace Catalog

theorem ofFileText_eq (path text : String) :
    ofFileText path text = (ofJson text).mapError (LoadError.ofFault path) := by
  rw [ofFileText]
  cases ofJson text with
  | ok catalog => rfl
  | error fault => cases fault <;> rfl

theorem ofJson_of_parse
    {text : String}
    {document : Json.Value}
    (parsed : Json.parse text = .ok document) :
    ofJson text = ofValue document := by
  rw [ofJson, parsed]

/-- Documents that list the same entries hold the same catalog, or are refused
for the same fault. -/
theorem ofValue_eq_of_lists
    {document other : Json.Value}
    {entries : List Json.Value}
    (lists : Lists document entries)
    (otherLists : Lists other entries) :
    ofValue document = ofValue other := by
  rw [ofValue, ofValue, reportsOf, reportsOf, (entriesOf_eq_ok_iff document entries).mpr lists,
    (entriesOf_eq_ok_iff other entries).mpr otherLists]

/-- **A text that parses is decided by its document alone**: the rule on documents
gives its only result, another text that lists the same entries has the same one,
and loading it from a file gives that result too and changes no file. -/
theorem document_decided
    {text : String}
    {document : Json.Value}
    (parsed : Json.parse text = .ok document) :
    (∀ result, ofJson text = result ↔ Decides document result)
      ∧ (∀ entries other otherDocument,
          Lists document entries →
          Json.parse other = .ok otherDocument →
          Lists otherDocument entries →
          ofJson other = ofJson text)
      ∧ ∀ path surroundings,
          surroundings.files.readText path = .ok text →
          ∃ after,
            (load path : Simulation _).run surroundings =
                ((ofJson text).mapError (LoadError.ofFault path), after)
              ∧ surroundings.Becomes surroundings.files "" after := by
  refine ⟨fun result => ?_, ?_, ?_⟩
  · rw [ofJson_of_parse parsed, ofValue_eq_iff]
  · intro entries other otherDocument lists otherParsed otherLists
    rw [ofJson_of_parse parsed, ofJson_of_parse otherParsed]
    exact ofValue_eq_of_lists otherLists lists
  · intro path surroundings read
    obtain ⟨after, loaded, becomes⟩ := run_catalogLoad path surroundings
    refine ⟨after, ?_, becomes⟩
    rw [loaded, inFiles, read, ← ofFileText_eq]

/-- A document whose last list of entries begins with a blank target, then has an
entry with a repeated member, then one that is too short. -/
theorem document_decided_short_entry :
    ofJson
        ("\x7b\"reports\":\"none\",\"reports\":[[\"A\",\" \"],\x7b\"label\":null," ++
          "\"href\":\"b.html\",\"label\":\"B\",\"more\":[]\x7d,[\"C\"],[]]\x7d") =
      .error (.document (.entry 2 (.tooShort 1))) := by
  have parsed :
      Json.parse
          ("\x7b\"reports\":\"none\",\"reports\":[[\"A\",\" \"],\x7b\"label\":null," ++
            "\"href\":\"b.html\",\"label\":\"B\",\"more\":[]\x7d,[\"C\"],[]]\x7d") =
        .ok (.object
          [ ("reports", .string "none"),
            ("reports", .array
              [ .array [.string "A", .string " "],
                .object
                  [ ("label", .null), ("href", .string "b.html"), ("label", .string "B"),
                    ("more", .array []) ],
                .array [.string "C"],
                .array [] ]) ]) := by
    cbv
  refine ((document_decided parsed).1 _).mpr
    (@Decides.undescribed _ [_, _] _ _ _ (.wrapped ⟨[_], [], rfl, nofun⟩) ?_ nofun rfl)
  rw [List.forall_mem_cons, List.forall_mem_singleton]
  refine ⟨⟨_, .pair "A" " "⟩, ⟨_, .membersOnly ⟨[_, _], [_], rfl, ?_⟩ ⟨[_], [_, _], rfl, ?_⟩ ?_⟩⟩
  all_goals simp [Json.NoMember]

end Catalog

end ReportIndex
