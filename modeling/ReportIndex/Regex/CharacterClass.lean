import ReportIndex.Regex.Escape

/-!
Contract: the classes of characters that are written in brackets.

Owns:
- items, ranges, named classes, classes in classes, and the operations on them;
- how deep a class is nested.

Does not own: the classes that an escape stands for.

A class that speaks about bytes cannot be negated, because the other bytes are
not all ASCII.
-/

namespace ReportIndex.Regex

/-- How deep parts that stand side by side are nested: a single part as deep as it
is, several parts one level deeper than the deepest. -/
def depthOfParts : List Nat → Nat
  | [] => 0
  | [depth] => depth
  | depths => 1 + depths.foldl max 0

/-- The names of classes in the form `[:name:]`. -/
def classNames : List String :=
  [ "alnum", "alpha", "ascii", "blank", "cntrl", "digit", "graph", "lower", "print", "punct",
    "space", "upper", "word", "xdigit" ]

/-- Reads a named class behind its opening bracket: whether it is negated, and what
follows. -/
def readNamedClass? (text : List Char) : Option (Bool × List Char) :=
  match text with
  | ':' :: rest =>
      let isNegated := rest.head? == some '^'
      let name := if isNegated then rest.drop 1 else rest
      match name.dropWhile (· != ':') with
      | ':' :: ']' :: behind =>
          if classNames.contains (String.ofList (name.takeWhile (· != ':'))) then
            some (isNegated, behind)
          else none
      | _ => none
  | _ => none

/-- Reads a character or an escape in brackets. -/
def readClassItem? (mode : Mode) : List Char → Option (Escape × List Char)
  | [] => none
  | '\\' :: rest => readEscape? mode rest
  | character :: rest => some (.character character false, rest)

/-- The rest, if an item can stand in brackets. -/
def afterItem? (mode : Mode) (item : Escape) (rest : List Char) : Option (List Char) :=
  if item.isClassItem mode then some rest else none

/-- What follows a single item or a range. A hyphen makes a range unless the class
ends behind it or another hyphen follows. -/
def skipRange? (mode : Mode) (text : List Char) : Option (List Char) := do
  let (lower, behind) ← readClassItem? mode text
  match mode.skip behind with
  | '-' :: rest =>
      let next := mode.peek? rest
      if next = some ']' ∨ next = some '-' then afterItem? mode lower ('-' :: rest)
      else
        let (upper, remaining) ← readClassItem? mode (mode.skip rest)
        match lower, upper with
        | .character first _, .character last _ =>
            if first ≤ last ∧ lower.isClassItem mode ∧ upper.isClassItem mode then
              some remaining
            else none
        | _, _ => none
  | rest => afterItem? mode lower rest

/-- The number of hyphens at the beginning of a text, and what follows them. -/
def readHyphens (mode : Mode) : Nat → List Char → Nat × List Char
  | 0, text => (0, text)
  | steps + 1, text =>
      match mode.skip text with
      | '-' :: rest =>
          let (count, behind) := readHyphens mode steps rest
          (count + 1, behind)
      | rest => (0, rest)

/-- Reads the beginning of a class behind its bracket and caret: hyphens, or a
closing bracket, that stand for themselves. Gives the depths of these items. -/
def readFirstItems (mode : Mode) (text : List Char) : List Nat × List Char :=
  match readHyphens mode (text.length + 1) text with
  | (0, ']' :: rest) => ([0], rest)
  | (count, rest) => (List.replicate count 0, rest)

/-- Reads the beginning of a class behind its bracket. -/
def readClassOpening? (mode : Mode) (text : List Char) : Option (List Nat × List Char) :=
  match mode.skip text with
  | '^' :: rest => if mode.isUnicode then some (readFirstItems mode rest) else none
  | rest => some (readFirstItems mode rest)

/-- The depth of items, behind an operation if there is one in front of them. -/
def depthOfItems (left : Option Nat) (items : List Nat) : Nat :=
  match left with
  | none => depthOfParts items
  | some depth => depthOfParts [depth, depthOfParts items]

/-- Reads the rest of a class and its closing bracket, with `steps` items at most.
Gives the depth of the content; `left` is that of what stands before the last
operation, and `items` are those behind it. -/
def readClassRest? (mode : Mode) :
    Nat → Option Nat → List Nat → List Char → Option (Nat × List Char)
  | 0, _, _, _ => none
  | steps + 1, left, items, text =>
      match mode.skip text with
      | [] => none
      | ']' :: rest => some (depthOfItems left items, rest)
      | '[' :: rest =>
          match readNamedClass? rest with
          | some (isNegated, behind) =>
              if isNegated && !mode.isUnicode then none
              else readClassRest? mode steps left (0 :: items) behind
          | none => do
              let (firstItems, content) ← readClassOpening? mode rest
              let (depth, behind) ← readClassRest? mode steps none firstItems content
              readClassRest? mode steps left ((depth + 1) :: items) behind
      | '&' :: '&' :: rest =>
          readClassRest? mode steps (some (depthOfItems left items)) [] rest
      | '-' :: '-' :: rest =>
          readClassRest? mode steps (some (depthOfItems left items)) [] rest
      | '~' :: '~' :: rest =>
          readClassRest? mode steps (some (depthOfItems left items)) [] rest
      | item => do
          let behind ← skipRange? mode item
          readClassRest? mode steps left (0 :: items) behind

/-- Reads a class behind its opening bracket, and gives its depth. -/
def readClass? (mode : Mode) (text : List Char) : Option (Nat × List Char) := do
  let (firstItems, content) ← readClassOpening? mode text
  let (depth, behind) ← readClassRest? mode (text.length + 1) none firstItems content
  return (depth + 1, behind)

end ReportIndex.Regex
