import ReportIndex.Proofs.Markup.Place

/-!
Contract: what a reader of markup meets.

Owns:
- the characters and tags of markup one after the other, with attributes read
  back;
- the elements of a tag, with what is inside of them;
- the agreement with the tree that the markup was written from.

Does not own: what the elements mean.
-/

namespace ReportIndex.Markup

/-- What a reader meets next. -/
inductive Event where
  /-- A character between tags, as it is written. -/
  | character (written : Char)
  | start (tag : String) (attributes : List Attribute)
  | stop (tag : String)
deriving DecidableEq, Repr

/-- The attributes of a tag, given the name that is being read and, inside of
quotes, the value. -/
def readAttributes : List Char → Option (List Char) → List Char → List Attribute
  | _, _, [] => []
  | name, none, '"' :: rest => readAttributes name (some []) rest
  | _, none, ' ' :: rest => readAttributes [] none rest
  | name, none, '=' :: rest => readAttributes name none rest
  | name, none, character :: rest => readAttributes (name ++ [character]) none rest
  | name, some value, '"' :: rest =>
      ⟨String.ofList name, String.ofList (unescape value)⟩ :: readAttributes [] none rest
  | name, some value, character :: rest => readAttributes name (some (value ++ [character])) rest

/-- The event of a tag, given what stands between its brackets. -/
def Event.ofTag (body : List Char) : Event :=
  match body with
  | '/' :: name => .stop (String.ofList name)
  | _ =>
      .start (String.ofList (body.takeWhile (· != ' ')))
        (readAttributes [] none (body.dropWhile (· != ' ')))

/-- The events from a place on, given what has been read of a tag. -/
def eventsFrom : Place → List Char → List Char → List Event
  | _, _, [] => []
  | .text, _, '<' :: rest => eventsFrom .tag [] rest
  | .text, _, character :: rest => .character character :: eventsFrom .text [] rest
  | .tag, body, '>' :: rest => .ofTag body :: eventsFrom .text [] rest
  | place, body, character :: rest =>
      eventsFrom (place.after character) (body ++ [character]) rest

def events (markup : String) : List Event :=
  eventsFrom .text [] markup.toList

/-! ## Elements -/

/-- The elements of a tag: their attributes, and what is met before they end. -/
def elements (tag : String) : List Event → List (List Attribute × List Event)
  | [] => []
  | .start found attributes :: rest =>
      if found = tag then (attributes, rest.takeWhile (· != .stop tag)) :: elements tag rest
      else elements tag rest
  | _ :: rest => elements tag rest

/-- The values of the attributes of a name. -/
def valuesOf (name : String) (attributes : List Attribute) : List String :=
  (attributes.filter (·.name == name)).map (·.value)

def Event.character? : Event → Option Char
  | .character written => some written
  | _ => none

/-- The text that a reader sees among events. -/
def textOf (found : List Event) : String :=
  String.ofList (unescape (found.filterMap Event.character?))

@[simp]
theorem elements_characters (tag : String) (characters : List Char) (rest : List Event) :
    elements tag (characters.map .character ++ rest) = elements tag rest := by
  induction characters with
  | nil => rfl
  | cons character others inductionHypothesis =>
      rw [List.map_cons, List.cons_append, elements, inductionHypothesis]
      simp

/-- A text is inside of the element that it stands in. -/
@[simp]
theorem takeWhile_characters (tag : String) (characters : List Char) (rest : List Event) :
    (characters.map Event.character ++ rest).takeWhile (· != .stop tag) =
      characters.map Event.character ++ rest.takeWhile (· != .stop tag) :=
  List.takeWhile_append_of_pos (by simp)

/-! ## The events of a tree -/

mutual

def Node.events : Node → List Event
  | .text content => (escapeText content).map .character
  | .raw content => content.toList.map .character
  | .marker => [.start "!" []]
  | .void tag attributes classes => [.start tag (writtenAttributes attributes classes)]
  | .element tag attributes classes children =>
      .start tag (writtenAttributes attributes classes) :: eventsAll children ++ [.stop tag]

def eventsAll : List Node → List Event
  | [] => []
  | node :: nodes => node.events ++ eventsAll nodes

end

theorem eventsAll_append (left right : List Node) :
    eventsAll (left ++ right) = eventsAll left ++ eventsAll right := by
  induction left with
  | nil => rfl
  | cons head tail inductionHypothesis =>
      simp [eventsAll, inductionHypothesis]

/-- The written characters of a text show the text. -/
@[simp]
theorem textOf_escapeText (content : String) :
    textOf ((escapeText content).map Event.character) = shownText content := by
  have written : ((escapeText content).map Event.character).filterMap Event.character? =
      escapeText content := by
    rw [List.filterMap_map]
    exact List.filterMap_some
  rw [textOf, written, unescape_escapeText, String.ofList_toList]

/-! ## Reading attributes -/

theorem readAttributes_name
    {written : List Char}
    (plain : ∀ character ∈ written, character ≠ '"' ∧ character ≠ ' ' ∧ character ≠ '=')
    (name rest : List Char) :
    readAttributes name none (written ++ rest) = readAttributes (name ++ written) none rest := by
  induction written generalizing name with
  | nil => simp
  | cons character others inductionHypothesis =>
      obtain ⟨noQuote, noBlank, noEquals⟩ := plain character (by simp)
      rw [List.cons_append, readAttributes,
        inductionHypothesis fun other member => plain other (by simp [member])]
      · simp
      · exact noQuote
      · exact noBlank
      · exact noEquals

theorem readAttributes_value
    {written : List Char}
    (noQuote : '"' ∉ written)
    (name value rest : List Char) :
    readAttributes name (some value) (written ++ rest) =
      readAttributes name (some (value ++ written)) rest := by
  induction written generalizing value with
  | nil => simp
  | cons character others inductionHypothesis =>
      rw [List.mem_cons, not_or] at noQuote
      rw [List.cons_append, readAttributes, inductionHypothesis noQuote.2]
      · simp
      · exact Ne.symm noQuote.1

theorem readAttributes_write
    {given : Attribute}
    (plain : isPlainName given.name = true)
    (name rest : List Char) :
    readAttributes name none (given.write ++ rest) = given :: readAttributes [] none rest := by
  have nameRead := readAttributes_name
    (fun character member => ⟨ne_of_mem_plainName plain member rfl,
      ne_of_mem_plainName plain member rfl, ne_of_mem_plainName plain member rfl⟩)
    [] ('=' :: '"' :: (escapeValue given.value ++ '"' :: rest))
  have valueRead := readAttributes_value (quote_not_mem_escapeValue given.value)
    given.name.toList [] ('"' :: rest)
  rw [List.nil_append] at nameRead valueRead
  simp only [Attribute.write, List.cons_append, List.append_assoc, List.nil_append]
  rw [readAttributes, nameRead, readAttributes, readAttributes, valueRead, readAttributes,
    unescape_escapeValue, String.ofList_toList, String.ofList_toList]

/-- Attributes are read back as they were given. -/
theorem readAttributes_flatMap_write
    {attributes : List Attribute}
    (plain : ∀ given ∈ attributes, isPlainName given.name = true) :
    readAttributes [] none (attributes.flatMap Attribute.write) = attributes := by
  induction attributes with
  | nil => rfl
  | cons given rest inductionHypothesis =>
      rw [List.flatMap_cons, readAttributes_write (plain given (by simp)),
        inductionHypothesis fun other member => plain other (by simp [member])]

/-! ## Reading tags and texts -/

theorem eventsFrom_text
    {written : List Char}
    (noTag : '<' ∉ written)
    (rest : List Char) :
    eventsFrom .text [] (written ++ rest) = written.map .character ++ eventsFrom .text [] rest := by
  induction written with
  | nil => rfl
  | cons character others inductionHypothesis =>
      rw [List.mem_cons, not_or] at noTag
      rw [List.cons_append, eventsFrom, inductionHypothesis noTag.2]
      · rfl
      · exact Ne.symm noTag.1

/-- A character that leaves the reader inside of a tag belongs to the tag. -/
theorem eventsFrom_cons
    {place : Place}
    {character : Char}
    (inside : place ≠ .text)
    (stays : place.after character ≠ .text)
    (body rest : List Char) :
    eventsFrom place body (character :: rest) =
      eventsFrom (place.after character) (body ++ [character]) rest := by
  rw [eventsFrom]
  · rintro rfl _
    exact inside rfl
  · rintro rfl
    exact inside rfl
  · rintro rfl rfl
    exact stays rfl

theorem eventsFrom_tag
    {written : List Char}
    (plain : ∀ character ∈ written, character ≠ '>' ∧ character ≠ '"')
    (body rest : List Char) :
    eventsFrom .tag body (written ++ rest) = eventsFrom .tag (body ++ written) rest := by
  induction written generalizing body with
  | nil => simp
  | cons character others inductionHypothesis =>
      obtain ⟨noEnd, noQuote⟩ := plain character (by simp)
      have after : Place.tag.after character = .tag := by simp [Place.after, noEnd, noQuote]
      rw [List.cons_append, eventsFrom_cons (by decide) (by rw [after]; decide), after,
        inductionHypothesis fun other member => plain other (by simp [member])]
      simp

theorem eventsFrom_value
    {written : List Char}
    (noQuote : '"' ∉ written)
    (body rest : List Char) :
    eventsFrom .value body (written ++ rest) = eventsFrom .value (body ++ written) rest := by
  induction written generalizing body with
  | nil => simp
  | cons character others inductionHypothesis =>
      rw [List.mem_cons, not_or] at noQuote
      have after : Place.value.after character = .value := by
        simp [Place.after, Ne.symm noQuote.1]
      rw [List.cons_append, eventsFrom_cons (by decide) (by rw [after]; decide), after,
        inductionHypothesis noQuote.2]
      simp

theorem eventsFrom_attribute
    {given : Attribute}
    (plain : isPlainName given.name = true)
    (body rest : List Char) :
    eventsFrom .tag body (given.write ++ rest) = eventsFrom .tag (body ++ given.write) rest := by
  have nameRead := eventsFrom_tag
    (fun character member => ⟨ne_of_mem_plainName plain member rfl,
      ne_of_mem_plainName plain member rfl⟩)
    (body ++ [' ']) ('=' :: '"' :: (escapeValue given.value ++ '"' :: rest))
  have valueRead := eventsFrom_value (quote_not_mem_escapeValue given.value)
    (body ++ [' '] ++ given.name.toList ++ ['='] ++ ['"']) ('"' :: rest)
  have blank : Place.tag.after ' ' = .tag := rfl
  have equals : Place.tag.after '=' = .tag := rfl
  have opening : Place.tag.after '"' = .value := rfl
  have closing : Place.value.after '"' = .tag := rfl
  simp only [Attribute.write, List.cons_append, List.append_assoc, List.nil_append]
  rw [eventsFrom_cons (by decide) (by decide), blank, nameRead,
    eventsFrom_cons (by decide) (by decide), equals,
    eventsFrom_cons (by decide) (by decide), opening, valueRead,
    eventsFrom_cons (by decide) (by decide), closing]
  simp

theorem eventsFrom_attributes
    {attributes : List Attribute}
    (plain : ∀ given ∈ attributes, isPlainName given.name = true)
    (body rest : List Char) :
    eventsFrom .tag body (attributes.flatMap Attribute.write ++ rest) =
      eventsFrom .tag (body ++ attributes.flatMap Attribute.write) rest := by
  induction attributes generalizing body with
  | nil => simp
  | cons given others inductionHypothesis =>
      rw [List.flatMap_cons, List.append_assoc, eventsFrom_attribute (plain given (by simp)),
        inductionHypothesis fun other member => plain other (by simp [member])]
      simp

/-- What stands between the brackets of an opening tag is read as that tag. -/
theorem ofTag_start
    {tag : String}
    {attributes : List Attribute}
    (plainTag : isPlainName tag = true)
    (plainNames : ∀ given ∈ attributes, isPlainName given.name = true) :
    Event.ofTag (tag.toList ++ attributes.flatMap Attribute.write) = .start tag attributes := by
  have noBlank : ∀ character ∈ tag.toList, (character != ' ') = true := by
    intro character member
    simpa using ne_of_mem_plainName plainTag member (rfl : isNameCharacter ' ' = false)
  have blankFirst : ∀ written, attributes.flatMap Attribute.write = written →
      written.takeWhile (· != ' ') = [] ∧ written.dropWhile (· != ' ') = written := by
    rintro _ rfl
    cases attributes <;> simp [Attribute.write]
  obtain ⟨nothingTaken, nothingDropped⟩ := blankFirst _ rfl
  have notClosing : ∀ name, tag.toList ++ attributes.flatMap Attribute.write ≠ '/' :: name := by
    intro name equal
    cases spelled : tag.toList with
    | nil =>
        rw [spelled] at equal
        cases attributes <;> simp [Attribute.write] at equal
    | cons first others =>
        rw [spelled, List.cons_append] at equal
        have member : first ∈ tag.toList := by simp [spelled]
        exact ne_of_mem_plainName plainTag member rfl (List.cons.inj equal).1
  rw [Event.ofTag]
  · rw [List.takeWhile_append_of_pos noBlank, nothingTaken, List.append_nil,
      List.dropWhile_append_of_pos noBlank, nothingDropped,
      readAttributes_flatMap_write plainNames, String.ofList_toList]
  · exact notClosing

theorem ofTag_stop (tag : String) : Event.ofTag ('/' :: tag.toList) = .stop tag := by
  rw [Event.ofTag, String.ofList_toList]

theorem eventsFrom_openTag
    {tag : String}
    {attributes : List Attribute}
    (plainTag : isPlainName tag = true)
    (plainNames : attributes.all (fun given => isPlainName given.name) = true)
    (classes : Option String)
    (rest : List Char) :
    eventsFrom .text [] (openTag tag attributes classes ++ rest) =
      .start tag (writtenAttributes attributes classes) :: eventsFrom .text [] rest := by
  have written := plainNames_writtenAttributes plainNames classes
  rw [openTag, writeAttributes_eq]
  simp only [List.cons_append, List.append_assoc, List.nil_append]
  rw [eventsFrom, eventsFrom_tag fun character member => ⟨ne_of_mem_plainName plainTag member rfl,
    ne_of_mem_plainName plainTag member rfl⟩, eventsFrom_attributes written, eventsFrom,
    List.nil_append, ofTag_start plainTag written]

theorem eventsFrom_closeTag
    {tag : String}
    (plain : isPlainName tag = true)
    (rest : List Char) :
    eventsFrom .text [] (closeTag tag ++ rest) = .stop tag :: eventsFrom .text [] rest := by
  rw [closeTag]
  simp only [List.cons_append, List.append_assoc, List.nil_append]
  rw [eventsFrom, eventsFrom_cons (by decide) (by decide)]
  have nameRead := eventsFrom_tag
    (fun character member => ⟨ne_of_mem_plainName plain member rfl,
      ne_of_mem_plainName plain member rfl⟩) ['/'] ('>' :: rest)
  have slash : Place.tag.after '/' = .tag := rfl
  rw [slash, List.nil_append, nameRead, eventsFrom, List.singleton_append, ofTag_stop]

mutual

/-- A reader of plain markup meets the tree that it was written from. -/
theorem Node.eventsFrom_write : ∀ (node : Node) (rest : List Char), node.isPlain = true →
    eventsFrom .text [] (node.write ++ rest) = node.events ++ eventsFrom .text [] rest
  | .text content, rest, _ => by
      rw [Node.write, Node.events, eventsFrom_text (less_not_mem_escapeText content)]
  | .raw content, rest, plain => by
      rw [Node.isPlain] at plain
      rw [Node.write, Node.events, eventsFrom_text fun member => ?_]
      simpa using List.all_eq_true.mp plain '<' member
  | .marker, rest, _ => rfl
  | .void tag attributes classes, rest, plain => by
      rw [Node.isPlain, Bool.and_eq_true] at plain
      rw [Node.write, Node.events, eventsFrom_openTag plain.1 plain.2]
      rfl
  | .element tag attributes classes children, rest, plain => by
      rw [Node.isPlain, Bool.and_eq_true, Bool.and_eq_true] at plain
      obtain ⟨⟨plainTag, plainNames⟩, plainChildren⟩ := plain
      rw [Node.write, Node.events, List.append_assoc, List.append_assoc,
        eventsFrom_openTag plainTag plainNames, eventsFrom_writeAll children _ plainChildren,
        eventsFrom_closeTag plainTag]
      simp

theorem eventsFrom_writeAll : ∀ (nodes : List Node) (rest : List Char), allPlain nodes = true →
    eventsFrom .text [] (writeAll nodes ++ rest) = eventsAll nodes ++ eventsFrom .text [] rest
  | [], _, _ => rfl
  | node :: nodes, rest, plain => by
      rw [allPlain, Bool.and_eq_true] at plain
      rw [writeAll, eventsAll, List.append_assoc, Node.eventsFrom_write node _ plain.1,
        eventsFrom_writeAll nodes rest plain.2, List.append_assoc]

end

theorem events_render {node : Node} (plain : node.isPlain = true) :
    events node.render = node.events := by
  have read := node.eventsFrom_write [] plain
  rw [List.append_nil, eventsFrom, List.append_nil] at read
  rw [events, Node.render, String.toList_ofList, read]

end ReportIndex.Markup
