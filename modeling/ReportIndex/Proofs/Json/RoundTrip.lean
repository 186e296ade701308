import ReportIndex.Proofs.Json.Scalar

/-!
Contract: a printed value can be read back.

Owns:
- the values that are read back: their numbers are whole and fit into 64 bits,
  and they are nested no deeper than a reader goes;
- lists and objects, item by item, and documents.

Does not own: numbers that are not whole, whose text is that of the machine's
floating point numbers.
-/

namespace ReportIndex.Json

/-- A value that is read back where so many lists and objects may be nested. -/
inductive Readable : Nat → Value → Prop where
  | null (levels : Nat) : Readable levels .null
  | boolean (levels : Nat) (value : Bool) : Readable levels (.boolean value)
  | natural (levels : Nat) {magnitude : Nat} (small : magnitude < 2 ^ 64) :
      Readable levels (.number (.natural magnitude))
  | negative
      (levels : Nat)
      {magnitude : Nat}
      (notZero : magnitude ≠ 0)
      (small : magnitude ≤ 2 ^ 63) :
      Readable levels (.number (.negative magnitude))
  | string (levels : Nat) (value : String) : Readable levels (.string value)
  | array
      {levels : Nat}
      {items : List Value}
      (readable : ∀ item ∈ items, Readable levels item) :
      Readable (levels + 1) (.array items)
  | object
      {levels : Nat}
      {members : List (String × Value)}
      (readable : ∀ member ∈ members, Readable levels member.2) :
      Readable (levels + 1) (.object members)

/-! ## Beginnings -/

theorem skipSpace_breakLine (level : Nat) (text : List Char) :
    skipSpace (breakLine level ++ text) = skipSpace text := by
  have allSpace : ∀ character ∈ breakLine level, isSpace character = true := by
    intro character member
    rcases List.mem_cons.mp member with rfl | blank
    · rfl
    · rw [List.eq_of_mem_replicate blank]
      rfl
  exact List.dropWhile_append_of_pos allSpace

theorem skipSpace_cons {first : Char} (notSpace : isSpace first = false) (others : List Char) :
    skipSpace (first :: others) = first :: others :=
  List.dropWhile_cons_of_neg (Bool.eq_false_iff.mp notSpace)

/-- A reader of values passes over space itself. -/
theorem readValue_of_skipSpace_eq
    {text other : List Char}
    (same : skipSpace text = skipSpace other)
    (levels : Nat) :
    readValue levels text = readValue levels other := by
  rw [readValue.eq_def, readValue.eq_def levels other, same]

theorem ne_of_isDigit
    {first other : Char}
    (isDigit : first.isDigit = true)
    (notDigit : other.isDigit = false) :
    first ≠ other := by
  rintro rfl
  rw [isDigit] at notDigit
  cases notDigit

theorem isSpace_of_isDigit {first : Char} (isDigit : first.isDigit = true) :
    isSpace first = false := by
  have noBlank : first ≠ ' ' := ne_of_isDigit isDigit rfl
  have noLineFeed : first ≠ '\n' := ne_of_isDigit isDigit rfl
  have noTab : first ≠ '\t' := ne_of_isDigit isDigit rfl
  have noCarriageReturn : first ≠ '\r' := ne_of_isDigit isDigit rfl
  simp [isSpace, noBlank, noLineFeed, noTab, noCarriageReturn]

/-- A printed value begins neither with space nor with the end of a list. -/
theorem printValue_begins
    {levels : Nat}
    {value : Value}
    (readable : Readable levels value)
    (level : Nat) :
    ∃ first others, printValue level value = first :: others
      ∧ isSpace first = false ∧ first ≠ ']' := by
  cases readable with
  | null => exact ⟨_, _, rfl, by decide, by decide⟩
  | boolean _ value => cases value <;> exact ⟨_, _, rfl, by decide, by decide⟩
  | @natural _ magnitude =>
      obtain ⟨first, others, begins, isDigit, _⟩ := toDigits_begins magnitude
      exact ⟨first, others, begins, isSpace_of_isDigit isDigit, ne_of_isDigit isDigit rfl⟩
  | negative => exact ⟨_, _, rfl, by decide, by decide⟩
  | string => exact ⟨_, _, rfl, by decide, by decide⟩
  | @array _ items => cases items <;> exact ⟨_, _, rfl, by decide, by decide⟩
  | @object _ members => cases members <;> exact ⟨_, _, rfl, by decide, by decide⟩

/-! ## Values without parts -/

theorem readValue_digit
    {first : Char}
    (isDigit : first.isDigit = true)
    (levels : Nat)
    (others : List Char) :
    readValue levels (first :: others) = do
      let (value, remaining) ← readNumber true (first :: others)
      return (.number value, remaining) := by
  rw [readValue.eq_def, skipSpace_cons (isSpace_of_isDigit isDigit)]
  split
  all_goals simp_all

theorem readValue_natural
    {magnitude : Nat}
    {rest : List Char}
    (small : magnitude < 2 ^ 64)
    (ends : EndsNumber rest)
    (levels : Nat) :
    readValue levels (printNumber (.natural magnitude) ++ rest) =
      .ok (.number (.natural magnitude), rest) := by
  obtain ⟨first, others, begins, isDigit, _⟩ := toDigits_begins magnitude
  have read := readNumber_toDigits small ends true
  rw [finishWhole_of_endsNumber ends, begins, List.cons_append] at read
  rw [printNumber, begins, List.cons_append, readValue_digit isDigit, read]
  rfl

theorem readValue_negative
    {magnitude : Nat}
    {rest : List Char}
    (notZero : magnitude ≠ 0)
    (small : magnitude ≤ 2 ^ 63)
    (ends : EndsNumber rest)
    (levels : Nat) :
    readValue levels (printNumber (.negative magnitude) ++ rest) =
      .ok (.number (.negative magnitude), rest) := by
  have fits : ¬(magnitude = 0 ∨ Nat.pow 2 63 < magnitude) := by
    rw [not_or, Nat.not_lt]
    exact ⟨notZero, small⟩
  have read := readNumber_toDigits (by omega : magnitude < 2 ^ 64) ends false
  rw [finishWhole_of_endsNumber ends, if_neg (by decide), if_neg fits] at read
  rw [printNumber, List.cons_append, readValue.eq_def, skipSpace_cons (by decide)]
  simp only [read]
  rfl

theorem readValue_string (text : String) (rest : List Char) (levels : Nat) :
    readValue levels (printString text ++ rest) = .ok (.string text, rest) := by
  rw [printString_append, readValue.eq_def, skipSpace_cons (by decide)]
  simp only [readString_printed]
  rfl

/-! ## Lists -/

theorem readValue_bracket (levels : Nat) (text : List Char) :
    readValue (levels + 1) ('[' :: text) = do
      let (items, remaining) ← readItems (readValue levels) text
      return (.array items, remaining) :=
  rfl

theorem readItems_item
    {text others : List Char}
    {first : Char}
    (begins : skipSpace text = first :: others)
    (notEnd : first ≠ ']')
    (readItem : ItemReader) :
    readItems readItem text = do
      let (value, behind) ← readItem (first :: others)
      let (values, remaining) ← readFurtherItems readItem (behind.length + 1) behind
      return (value :: values, remaining) := by
  rw [readItems, begins]
  split
  all_goals simp_all

/-- Behind a comma, a list goes on with what does not end it. -/
theorem readFurtherItems_comma
    {text others : List Char}
    {first : Char}
    (begins : skipSpace text = first :: others)
    (notEnd : first ≠ ']')
    (readItem : ItemReader)
    (steps : Nat) :
    readFurtherItems readItem (steps + 1) (',' :: text) = do
      let (value, behind) ← readItem (first :: others)
      let (values, remaining) ← readFurtherItems readItem steps behind
      return (value :: values, remaining) := by
  rw [readFurtherItems, skipSpace_cons rfl]
  simp only [begins]
  split
  all_goals simp_all

theorem endsNumber_printFurtherItems (level : Nat) (items : List Value) (rest : List Char) :
    EndsNumber (printFurtherItems level items ++ rest) := by
  cases items with
  | nil => simp [EndsNumber, printFurtherItems, breakLine]
  | cons item items => simp [EndsNumber, printFurtherItems]

theorem length_lt_printFurtherItems (level : Nat) (items : List Value) :
    items.length < (printFurtherItems level items).length := by
  induction items with
  | nil => simp [printFurtherItems]
  | cons item items inductionHypothesis =>
      simp only [printFurtherItems, List.length_cons, List.length_append]
      omega

/-- A value is read back wherever it is printed at a level. -/
def ReadsBack (levels level : Nat) (value : Value) : Prop :=
  ∀ rest, EndsNumber rest → readValue levels (printValue level value ++ rest) = .ok (value, rest)

section

variable {levels level : Nat}

/-- An item on a line of its own begins with what does not end a list, and is
read from there. -/
theorem ReadsBack.item
    {item : Value}
    {rest : List Char}
    (readBack : ReadsBack levels (level + 1) item)
    (readable : Readable levels item)
    (ends : EndsNumber rest) :
    ∃ first others,
      skipSpace (breakLine (level + 1) ++ (printValue (level + 1) item ++ rest)) = first :: others
        ∧ first ≠ ']'
        ∧ readValue levels (first :: others) = .ok (item, rest) := by
  obtain ⟨first, others, begins, notSpace, notEnd⟩ := printValue_begins readable (level + 1)
  have read := readBack rest ends
  rw [begins, List.cons_append] at read
  refine ⟨first, others ++ rest, ?_, notEnd, read⟩
  rw [skipSpace_breakLine, begins, List.cons_append, skipSpace_cons notSpace]

variable
  {items : List Value}
  (readable : ∀ item ∈ items, Readable levels item)
  (readBack : ∀ item ∈ items, ReadsBack levels (level + 1) item)

include readable readBack

theorem readFurtherItems_printed
    {steps : Nat}
    (enough : items.length < steps)
    (rest : List Char) :
    readFurtherItems (readValue levels) steps (printFurtherItems level items ++ rest) =
      .ok (items, rest) := by
  -- The steps go down with the items and only have to outlast them.
  induction items generalizing steps with
  | nil =>
      obtain ⟨further, rfl⟩ := Nat.exists_eq_add_one.mpr enough
      rw [readFurtherItems, printFurtherItems, List.append_assoc, skipSpace_breakLine]
      rfl
  | cons item items inductionHypothesis =>
      obtain ⟨further, rfl⟩ := Nat.exists_eq_add_one.mpr (Nat.zero_lt_of_lt enough)
      rw [List.forall_mem_cons] at readable readBack
      obtain ⟨first, others, begins, notEnd, readItem⟩ :=
        readBack.1.item readable.1 (endsNumber_printFurtherItems level items rest)
      have readRest := inductionHypothesis readable.2 readBack.2 (Nat.lt_of_succ_lt_succ enough)
      simp only [printFurtherItems, List.cons_append, List.append_assoc]
      rw [readFurtherItems_comma begins notEnd, readItem]
      simp only [bind, Except.bind, pure, Except.pure, readRest]

theorem readsBack_array : ReadsBack (levels + 1) level (.array items) := by
  intro rest _
  cases items with
  | nil => rfl
  | cons item items =>
      rw [List.forall_mem_cons] at readable readBack
      obtain ⟨first, others, begins, notEnd, readItem⟩ :=
        readBack.1.item readable.1 (endsNumber_printFurtherItems level items rest)
      -- The reader allows as many steps as there are characters behind the first item.
      have enough : items.length < (printFurtherItems level items ++ rest).length + 1 := by
        have bound := length_lt_printFurtherItems level items
        rw [List.length_append]
        omega
      have readRest := readFurtherItems_printed readable.2 readBack.2 enough rest
      simp only [printValue, List.cons_append, List.append_assoc]
      rw [readValue_bracket, readItems_item begins notEnd, readItem]
      simp only [bind, Except.bind, pure, Except.pure, readRest]

end

/-! ## Objects -/

theorem readValue_brace (levels : Nat) (text : List Char) :
    readValue (levels + 1) ('{' :: text) = do
      let (members, remaining) ← readMembers (readValue levels) text
      return (.object members, remaining) :=
  rfl

theorem readMembers_member
    {text name : List Char}
    (begins : skipSpace text = '"' :: name)
    (readItem : ItemReader) :
    readMembers readItem text = do
      let (member, behind) ← readMember readItem name
      let (members, remaining) ← readFurtherMembers readItem (behind.length + 1) behind
      return (member :: members, remaining) := by
  rw [readMembers]
  simp only [begins]

/-- Behind a comma, an object goes on with a name. -/
theorem readFurtherMembers_comma
    {text name : List Char}
    (begins : skipSpace text = '"' :: name)
    (readItem : ItemReader)
    (steps : Nat) :
    readFurtherMembers readItem (steps + 1) (',' :: text) = do
      let (member, behind) ← readMember readItem name
      let (members, remaining) ← readFurtherMembers readItem steps behind
      return (member :: members, remaining) := by
  rw [readFurtherMembers, skipSpace_cons rfl]
  simp only [begins]

theorem endsNumber_printFurtherMembers
    (level : Nat)
    (members : List (String × Value))
    (rest : List Char) :
    EndsNumber (printFurtherMembers level members ++ rest) := by
  cases members with
  | nil => simp [EndsNumber, printFurtherMembers, breakLine]
  | cons member members => simp [EndsNumber, printFurtherMembers]

theorem length_lt_printFurtherMembers (level : Nat) (members : List (String × Value)) :
    members.length < (printFurtherMembers level members).length := by
  induction members with
  | nil => simp [printFurtherMembers]
  | cons member members inductionHypothesis =>
      simp only [printFurtherMembers, List.length_cons, List.length_append]
      omega

section

variable {levels level : Nat}

/-- A member on a line of its own begins with the quote of its name, and is read
from behind that. -/
theorem ReadsBack.member
    {value : Value}
    {rest : List Char}
    (readBack : ReadsBack levels (level + 1) value)
    (name : String)
    (ends : EndsNumber rest) :
    ∃ text,
      skipSpace (breakLine (level + 1)
          ++ (printString name ++ ':' :: ' ' :: (printValue (level + 1) value ++ rest))) =
            '"' :: text
        ∧ readMember (readValue levels) text = .ok ((name, value), rest) := by
  have blank : skipSpace (' ' :: (printValue (level + 1) value ++ rest)) =
      skipSpace (printValue (level + 1) value ++ rest) := rfl
  have read := readBack rest ends
  -- The blank behind the colon is skipped by the reader of the value itself.
  rw [← readValue_of_skipSpace_eq blank] at read
  refine ⟨name.toList.flatMap escapeCharacter
    ++ '"' :: ':' :: ' ' :: (printValue (level + 1) value ++ rest), ?_, ?_⟩
  · rw [skipSpace_breakLine, printString_append]
    rfl
  · rw [readMember, readString_printed]
    simp only [bind, Except.bind, pure, Except.pure]
    rw [skipSpace_cons rfl]
    simp only [read]

variable
  {members : List (String × Value)}
  (readBack : ∀ member ∈ members, ReadsBack levels (level + 1) member.2)

include readBack

theorem readFurtherMembers_printed
    {steps : Nat}
    (enough : members.length < steps)
    (rest : List Char) :
    readFurtherMembers (readValue levels) steps (printFurtherMembers level members ++ rest) =
      .ok (members, rest) := by
  induction members generalizing steps with
  | nil =>
      obtain ⟨further, rfl⟩ := Nat.exists_eq_add_one.mpr enough
      rw [readFurtherMembers, printFurtherMembers, List.append_assoc, skipSpace_breakLine]
      rfl
  | cons member members inductionHypothesis =>
      obtain ⟨name, value⟩ := member
      obtain ⟨further, rfl⟩ := Nat.exists_eq_add_one.mpr (Nat.zero_lt_of_lt enough)
      rw [List.forall_mem_cons] at readBack
      obtain ⟨text, begins, readMember⟩ :=
        readBack.1.member name (endsNumber_printFurtherMembers level members rest)
      have readRest := inductionHypothesis readBack.2 (Nat.lt_of_succ_lt_succ enough)
      simp only [printFurtherMembers, List.cons_append, List.append_assoc]
      rw [readFurtherMembers_comma begins, readMember]
      simp only [bind, Except.bind, pure, Except.pure, readRest]

theorem readsBack_object : ReadsBack (levels + 1) level (.object members) := by
  intro rest _
  cases members with
  | nil => rfl
  | cons member members =>
      obtain ⟨name, value⟩ := member
      rw [List.forall_mem_cons] at readBack
      obtain ⟨text, begins, readMember⟩ :=
        readBack.1.member name (endsNumber_printFurtherMembers level members rest)
      have enough : members.length < (printFurtherMembers level members ++ rest).length + 1 := by
        have bound := length_lt_printFurtherMembers level members
        rw [List.length_append]
        omega
      have readRest := readFurtherMembers_printed readBack.2 enough rest
      simp only [printValue, List.cons_append, List.append_assoc]
      rw [readValue_brace, readMembers_member begins, readMember]
      simp only [bind, Except.bind, pure, Except.pure, readRest]

end

/-! ## Documents -/

/-- A printed value is read back at every level of the layout. -/
theorem Readable.readsBack
    {levels : Nat}
    {value : Value}
    (readable : Readable levels value)
    (level : Nat) :
    ReadsBack levels level value := by
  -- Nesting counts down for the reader while the layout's level counts up.
  induction readable generalizing level with
  | null levels =>
      intro rest _
      rw [readValue.eq_def]
      rfl
  | boolean levels value =>
      intro rest _
      rw [readValue.eq_def]
      cases value <;> rfl
  | natural levels small => exact fun _ ends => readValue_natural small ends levels
  | negative levels notZero small =>
      exact fun _ ends => readValue_negative notZero small ends levels
  | string levels text => exact fun rest _ => readValue_string text rest levels
  | array readable inductionHypothesis =>
      exact readsBack_array readable fun item member => inductionHypothesis item member (level + 1)
  | object readable inductionHypothesis =>
      exact readsBack_object fun member isMember =>
        inductionHypothesis member isMember (level + 1)

theorem endsNumber_of_skipSpace_eq_nil
    {space : List Char}
    (allSpace : skipSpace space = []) :
    EndsNumber space := by
  intro character isFirst
  obtain ⟨rest, rfl⟩ := List.head?_eq_some_iff.mp isFirst
  have isSpace : isSpace character = true := by
    cases notSpace : Json.isSpace character with
    | true => rfl
    | false =>
        rw [skipSpace_cons notSpace] at allSpace
        cases allSpace
  simp only [Json.isSpace, Bool.or_eq_true, beq_iff_eq] at isSpace
  rcases isSpace with ((rfl | rfl) | rfl) | rfl <;> decide

/-- **A printed document is read back**, with any space behind it. -/
theorem parse_print
    {value : Value}
    (readable : Readable nestingLimit value)
    {space : String}
    (allSpace : skipSpace space.toList = []) :
    parse (print value ++ space) = .ok value := by
  have read := readable.readsBack 0 space.toList (endsNumber_of_skipSpace_eq_nil allSpace)
  rw [parse, readDocument, print, String.toList_append, String.toList_ofList, read]
  simp only [bind, Except.bind, pure, Except.pure, allSpace]

end ReportIndex.Json
