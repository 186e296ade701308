import ReportIndex.Regex.CharacterClass
import ReportIndex.Text.Alphanumeric

/-!
Contract: which texts are regular expressions.

Owns:
- alternatives, sequences, repetitions, and groups with their names and flags;
- the limit of 250 nested parts.

Does not own: what an expression matches.

Repetitions with a count, which need a closing brace, are not read. Flags reach
to the end of the group that they stand in.
-/

namespace ReportIndex.Regex

/-- A part of a sequence: how deep it is nested, and whether it can be repeated.
Flags cannot. -/
structure Part where
  depth : Nat
  isRepeatable : Bool
deriving DecidableEq, Repr

def depthOfSequence (parts : List Part) : Nat :=
  depthOfParts (parts.map Part.depth)

/-! ## Groups -/

def isNameStart (character : Char) : Bool :=
  character == '_' || Text.isAlphabetic character

def isNameRest (character : Char) : Bool :=
  ['_', '.', '[', ']'].contains character || Text.isAlphanumeric character

def isGroupName : List Char → Bool
  | [] => false
  | first :: rest => isNameStart first && rest.all isNameRest

/-- What stands behind an opening parenthesis. -/
inductive Opening where
  /-- The mode inside of a group, the group's name if it has one, and the text
  inside. -/
  | group (inside : Mode) (name : Option (List Char)) (text : List Char)
  /-- Flags without a group: the mode behind them, and the text there. -/
  | flags (behind : Mode) (text : List Char)
deriving Repr

/-- Reads the name of a group up to its angle bracket. -/
def readGroupName? (mode : Mode) (text : List Char) : Option Opening :=
  let name := text.takeWhile (· != '>')
  match text.dropWhile (· != '>') with
  | [] => none
  | _ :: rest => if isGroupName name then some (.group mode (some name) rest) else none

/-- Reads flags, and whether they belong to a group. -/
def readFlags? (mode : Mode) (text : List Char) : Option Opening :=
  let isFlag (character : Char) := character != ':' && character != ')'
  let flags := text.takeWhile isFlag
  if areFlags flags then
    match text.dropWhile isFlag with
    | ':' :: rest => some (.group (mode.withFlags flags) none rest)
    | ')' :: rest => if flags.isEmpty then none else some (.flags (mode.withFlags flags) rest)
    | _ => none
  else none

def readOpening? (mode : Mode) (text : List Char) : Option Opening :=
  match mode.skip text with
  | '?' :: 'P' :: '<' :: rest => readGroupName? mode rest
  | '?' :: '<' :: rest => readGroupName? mode rest
  | '?' :: rest => readFlags? mode rest
  | rest => some (.group mode none rest)

/-- The names of groups with one more, which must be a new one. -/
def addName? (names : List (List Char)) (name : Option (List Char)) :
    Option (List (List Char)) :=
  match name with
  | none => some names
  | some name => if names.contains name then none else some (name :: names)

/-! ## Sequences and alternatives -/

/-- A sequence whose last part, at the head of the list, is repeated. -/
def repeatLast? : List Part → Option (List Part)
  | ⟨depth, true⟩ :: parts => some (⟨depth + 1, true⟩ :: parts)
  | _ => none

/-- What follows the mark of a repetition that prefers to be short. -/
def dropShortMark : List Char → List Char
  | '?' :: rest => rest
  | text => text

/-- What has been read of an expression or of the inside of a group: the names of
all groups so far, the depths of the alternatives before the present one, and the
parts of that, the last one first. -/
structure Progress where
  names : List (List Char)
  alternatives : List Nat
  parts : List Part
deriving DecidableEq, Repr

namespace Progress

def add (progress : Progress) (depth : Nat) : Progress :=
  { progress with parts := ⟨depth, true⟩ :: progress.parts }

def addFlags (progress : Progress) : Progress :=
  { progress with parts := ⟨0, false⟩ :: progress.parts }

def branch (progress : Progress) : Progress :=
  { progress with
    alternatives := depthOfSequence progress.parts :: progress.alternatives
    parts := [] }

/-- The depth of all alternatives. -/
def depth (progress : Progress) : Nat :=
  depthOfParts (depthOfSequence progress.parts :: progress.alternatives)

end Progress

/-- Reads an expression, or the inside of a group, up to the end or to a closing
parenthesis, with `steps` parts at most. -/
def readAlternatives? :
    Nat → Mode → Progress → List Char → Option (Progress × List Char)
  | 0, _, _, _ => none
  | steps + 1, mode, progress, text =>
      match mode.skip text with
      | [] => some (progress, [])
      | ')' :: rest => some (progress, ')' :: rest)
      | '|' :: rest => readAlternatives? steps mode progress.branch rest
      | '(' :: rest => do
          match ← readOpening? mode rest with
          | .flags behind remaining =>
              readAlternatives? steps behind progress.addFlags remaining
          | .group inside name content => do
              let names ← addName? progress.names name
              match ← readAlternatives? steps inside ⟨names, [], []⟩ content with
              | (inner, ')' :: remaining) =>
                  let named := { progress with names := inner.names }
                  readAlternatives? steps mode (named.add (inner.depth + 1)) remaining
              | _ => none
      | '[' :: rest => do
          let (depth, remaining) ← readClass? mode rest
          readAlternatives? steps mode (progress.add depth) remaining
      | '\\' :: rest => do
          let (escape, remaining) ← readEscape? mode rest
          if escape.isPart mode then readAlternatives? steps mode (progress.add 0) remaining
          else none
      | character :: rest =>
          if character = '{' then none
          else if character = '.' ∧ ¬mode.isUnicode then none
          else if ['?', '*', '+'].contains character then do
            let parts ← repeatLast? progress.parts
            readAlternatives? steps mode { progress with parts } (dropShortMark rest)
          else readAlternatives? steps mode (progress.add 0) rest

/-- How deep the parts of an expression may be nested. -/
def nestingLimit : Nat := 250

def isExpression (text : List Char) : Bool :=
  match readAlternatives? (text.length + 1) .initial ⟨[], [], []⟩ text with
  | some (progress, []) => progress.depth ≤ nestingLimit
  | _ => false

end ReportIndex.Regex
