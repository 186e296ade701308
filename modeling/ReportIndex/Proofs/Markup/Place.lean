import ReportIndex.Proofs.Markup.Escape

/-!
Contract: where a reader of markup is, character by character.

Owns:
- the three places: between tags, inside of a tag, inside of a quoted value;
- the skeleton of markup: what is left without quoted values and without what
  stands between tags;
- markup with plain names, whose tags a reader finds where they were written.

Does not own: what the tags mean.
-/

namespace ReportIndex.Markup

/-- Where in markup a reader is. -/
inductive Place where
  | text
  | tag
  /-- Between the double quotes of an attribute's value. -/
  | value
deriving DecidableEq, Repr

/-- The place behind a character: a tag goes from `<` to the next `>` outside of
quotes. -/
def Place.after : Place → Char → Place
  | .text, '<' => .tag
  | .tag, '>' => .text
  | .tag, '"' => .value
  | .value, '"' => .tag
  | place, _ => place

def Place.afterAll (place : Place) (written : List Char) : Place :=
  written.foldl Place.after place

/-- Whether a character at a place belongs to the skeleton. -/
def Place.keeps : Place → Char → Bool
  | .text, character => character == '<'
  | .tag, _ => true
  | .value, character => character == '"'

/-- The skeleton of what is written from a place on. -/
def skeletonFrom : Place → List Char → List Char
  | _, [] => []
  | place, character :: rest =>
      if place.keeps character then character :: skeletonFrom (place.after character) rest
      else skeletonFrom (place.after character) rest

/-- What is left of markup without the quoted values in its tags, and without
all that stands between tags. -/
def skeleton (markup : String) : String :=
  String.ofList (skeletonFrom .text markup.toList)

theorem Place.afterAll_append (place : Place) (left right : List Char) :
    place.afterAll (left ++ right) = (place.afterAll left).afterAll right :=
  List.foldl_append

theorem skeletonFrom_append (place : Place) (left right : List Char) :
    skeletonFrom place (left ++ right) =
      skeletonFrom place left ++ skeletonFrom (place.afterAll left) right := by
  induction left generalizing place with
  | nil => rfl
  | cons character rest inductionHypothesis =>
      simp only [List.cons_append, skeletonFrom, inductionHypothesis, Place.afterAll,
        List.foldl_cons]
      split <;> rfl

/-! ## Reading a piece of markup -/

/-- Read from `start` on, `written` leaves `kept` of itself and leads to
`finish`. -/
structure Scans (start : Place) (written kept : List Char) (finish : Place) : Prop where
  afterAll_eq : start.afterAll written = finish
  skeletonFrom_eq : skeletonFrom start written = kept

namespace Scans

theorem nil (place : Place) : Scans place [] [] place := ⟨rfl, rfl⟩

theorem append
    {start middle finish : Place}
    {left leftKept right rightKept : List Char}
    (first : Scans start left leftKept middle)
    (second : Scans middle right rightKept finish) :
    Scans start (left ++ right) (leftKept ++ rightKept) finish := by
  constructor
  · rw [Place.afterAll_append, first.afterAll_eq, second.afterAll_eq]
  · rw [skeletonFrom_append, first.skeletonFrom_eq, first.afterAll_eq, second.skeletonFrom_eq]

/-- Characters that a place passes over without being left. -/
private theorem within
    (place : Place)
    (written : List Char)
    (stays : ∀ character ∈ written, place.after character = place) :
    place.afterAll written = place ∧ skeletonFrom place written = written.filter place.keeps := by
  induction written with
  | nil => exact ⟨rfl, rfl⟩
  | cons character rest inductionHypothesis =>
      have headStays := stays character (by simp)
      obtain ⟨restAfter, restKept⟩ :=
        inductionHypothesis fun other member => stays other (by simp [member])
      constructor
      · rw [Place.afterAll, List.foldl_cons, headStays]
        exact restAfter
      · rw [skeletonFrom, headStays, restKept, List.filter_cons]

/-- Nothing is kept of a text that cannot begin a tag. -/
theorem text {written : List Char} (noTag : '<' ∉ written) :
    Scans .text written [] .text := by
  have different : ∀ character ∈ written, character ≠ '<' := by
    rintro character member rfl
    exact noTag member
  obtain ⟨after, kept⟩ := within .text written fun character member => by
    simp [Place.after, different character member]
  refine ⟨after, kept.trans (List.filter_eq_nil_iff.mpr ?_)⟩
  intro character member
  simpa [Place.keeps] using different character member

/-- Nothing is kept of a value that cannot end its quotes. -/
theorem value {written : List Char} (noQuote : '"' ∉ written) :
    Scans .value written [] .value := by
  have different : ∀ character ∈ written, character ≠ '"' := by
    rintro character member rfl
    exact noQuote member
  obtain ⟨after, kept⟩ := within .value written fun character member => by
    simp [Place.after, different character member]
  refine ⟨after, kept.trans (List.filter_eq_nil_iff.mpr ?_)⟩
  intro character member
  simpa [Place.keeps] using different character member

/-- All of a tag is kept that neither ends it nor begins a value. -/
theorem tag
    {written : List Char}
    (plain : ∀ character ∈ written, character ≠ '>' ∧ character ≠ '"') :
    Scans .tag written written .tag := by
  obtain ⟨after, kept⟩ := within .tag written fun character member => by
    simp [Place.after, plain character member]
  exact ⟨after, kept.trans (List.filter_eq_self.mpr fun _ _ => rfl)⟩

end Scans

/-- The attributes of a tag as they are written, with the classes among them. -/
def writtenAttributes (attributes : List Attribute) (classes : Option String) : List Attribute :=
  attributes ++ (classes.map fun names => ⟨"class", Text.trim names⟩).toList

theorem writeAttributes_eq (attributes : List Attribute) (classes : Option String) :
    writeAttributes attributes classes =
      (writtenAttributes attributes classes).flatMap Attribute.write := by
  cases classes <;> simp [writeAttributes, writtenAttributes]

/-! ## Plain names -/

/-- The characters that can stand in the name of a tag or an attribute. -/
def isNameCharacter (character : Char) : Bool :=
  character.isAlphanum || character == '-'

def isPlainName (name : String) : Bool :=
  name.toList.all isNameCharacter

mutual

/-- Whether all names are plain, and no raw text could begin a tag. -/
def Node.isPlain : Node → Bool
  | .text _ => true
  | .raw content => content.toList.all (· != '<')
  | .marker => true
  | .void tag attributes _ => isPlainName tag && attributes.all fun given => isPlainName given.name
  | .element tag attributes _ children =>
      isPlainName tag && attributes.all (fun given => isPlainName given.name)
        && allPlain children

def allPlain : List Node → Bool
  | [] => true
  | node :: nodes => node.isPlain && allPlain nodes

end

theorem isNameCharacter_ne
    {character other : Char}
    (plain : isNameCharacter character = true)
    (reserved : isNameCharacter other = false) :
    character ≠ other := by
  rintro rfl
  rw [plain] at reserved
  contradiction

theorem ne_of_mem_plainName
    {name : String}
    (plain : isPlainName name = true)
    {character : Char}
    (member : character ∈ name.toList)
    {other : Char}
    (reserved : isNameCharacter other = false) :
    character ≠ other :=
  isNameCharacter_ne (List.all_eq_true.mp plain character member) reserved

/-- The name of the classes is as plain as those of the other attributes. -/
theorem plainNames_writtenAttributes
    {attributes : List Attribute}
    (plain : attributes.all (fun given => isPlainName given.name) = true)
    (classes : Option String) :
    ∀ given ∈ writtenAttributes attributes classes, isPlainName given.name = true := by
  intro given member
  rcases List.mem_append.mp member with isGiven | isClasses
  · exact List.all_eq_true.mp plain given isGiven
  · cases classes with
    | none => simp at isClasses
    | some names =>
        simp only [Option.map_some, Option.toList_some, List.mem_singleton] at isClasses
        rw [isClasses]
        exact (by decide : isPlainName "class" = true)

@[simp]
theorem allPlain_append (left right : List Node) :
    allPlain (left ++ right) = (allPlain left && allPlain right) := by
  induction left with
  | nil => simp [allPlain]
  | cons head tail inductionHypothesis =>
      simp [allPlain, inductionHypothesis, Bool.and_assoc]

theorem allPlain_eq_true_iff (nodes : List Node) :
    allPlain nodes = true ↔ ∀ node ∈ nodes, node.isPlain = true := by
  induction nodes with
  | nil => simp [allPlain]
  | cons head tail inductionHypothesis =>
      simp [allPlain, inductionHypothesis]

end ReportIndex.Markup
