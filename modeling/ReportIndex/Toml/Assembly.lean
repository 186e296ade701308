import ReportIndex.Toml.Basic

/-!
Contract: putting a table together from the statements of a document.

Owns:
- the statements: a table's heading, an item's heading, and a pair;
- which statements may follow each other, so that no table and no key is
  defined twice.

Does not own: how statements are written.

Dotted keys and headings make tables on their way. A dotted key may lead through
such a table and add to it, as long as it has no heading of its own; it may be
given a heading later, once, as long as no dotted key has led through it.
-/

namespace ReportIndex.Toml

inductive Statement where
  /-- `[path]` -/
  | heading (path : List String)
  /-- `[[path]]` -/
  | itemHeading (path : List String)
  /-- `path.key = value` -/
  | pair (path : List String) (key : String) (value : Value)
deriving Repr

/-- How a table under construction came about. -/
inductive Origin where
  /-- By its own heading. -/
  | heading
  /-- On the way of a heading to a table below it, and on no other. -/
  | way
  /-- A dotted key has led through it. -/
  | dotted
deriving DecidableEq, Repr

/-- What stands at a key while a document is read. -/
inductive Node where
  /-- A value, to which nothing can be added. -/
  | closed (value : Value)
  | table (origin : Origin) (entries : List (String × Node))
  /-- The items of headings in double brackets. -/
  | items (tables : List (List (String × Node)))
deriving Inhabited

abbrev Draft := List (String × Node)

/-- `draft` with `node` at a key that is already there. -/
def Draft.replace (draft : Draft) (key : String) (node : Node) : Draft :=
  draft.map fun entry => if entry.1 == key then (key, node) else entry

/-- Changes the last of several tables. -/
def changeLast (change : Draft → Option Draft) (tables : List Draft) : Option (List Draft) :=
  match tables.getLast? with
  | some last => (change last).map fun changed => tables.dropLast ++ [changed]
  | none => none

/-- Adds a pair below a table. -/
def Draft.addPair : List String → String → Value → Draft → Option Draft
  | [], key, value, draft =>
      match draft.lookup key with
      | some _ => none
      | none => some (draft ++ [(key, .closed value)])
  | first :: path, key, value, draft =>
      match draft.lookup first with
      | none => do
          let entries ← addPair path key value []
          return draft ++ [(first, .table .dotted entries)]
      | some (.closed _) => none
      | some (.table origin entries) =>
          if origin = .heading then none
          else do
            let changed ← addPair path key value entries
            return draft.replace first (.table .dotted changed)
      | some (.items tables) =>
          if path.isEmpty then none
          else do
            let changed ← changeLast (addPair path key value) tables
            return draft.replace first (.items changed)

/-- Changes the table that a heading leads to; tables on the way are made where
there are none. -/
def Draft.descend (change : String → Draft → Option Draft) :
    List String → Draft → Option Draft
  | [], _ => none
  | [key], draft => change key draft
  | first :: path, draft =>
      match draft.lookup first with
      | none => do
          let entries ← descend change path []
          return draft ++ [(first, .table .way entries)]
      | some (.closed _) => none
      | some (.table origin entries) => do
          let changed ← descend change path entries
          return draft.replace first (.table origin changed)
      | some (.items tables) => do
          let changed ← changeLast (descend change path) tables
          return draft.replace first (.items changed)

def Draft.open? (key : String) (draft : Draft) : Option Draft :=
  match draft.lookup key with
  | none => some (draft ++ [(key, .table .heading [])])
  | some (.table .way entries) => some (draft.replace key (.table .heading entries))
  | some _ => none

def Draft.openItem? (key : String) (draft : Draft) : Option Draft :=
  match draft.lookup key with
  | none => some (draft ++ [(key, .items [[]])])
  | some (.items tables) => some (draft.replace key (.items (tables ++ [[]])))
  | some _ => none

/-- Changes the table of a heading that has been opened. -/
def Draft.within (change : Draft → Option Draft) (key : String) (draft : Draft) : Option Draft :=
  match draft.lookup key with
  | some (.table origin entries) => do
      let changed ← change entries
      return draft.replace key (.table origin changed)
  | some (.items tables) => do
      let changed ← changeLast change tables
      return draft.replace key (.items changed)
  | _ => none

/-- The draft after a statement, and the path of the heading that pairs stand
under from there on. -/
def Draft.addStatement (draft : Draft) (under : List String) :
    Statement → Option (Draft × List String)
  | .heading path => (draft.descend open? path).map fun changed => (changed, path)
  | .itemHeading path => (draft.descend openItem? path).map fun changed => (changed, path)
  | .pair path key value =>
      match under with
      | [] => (draft.addPair path key value).map fun changed => (changed, under)
      | _ => (draft.descend (within (addPair path key value)) under).map fun changed =>
          (changed, under)

mutual

def Node.finish : Node → Value
  | .closed value => value
  | .table _ entries => .table (finishEntries entries)
  | .items tables => .array (finishItems tables)

def finishEntries : List (String × Node) → Table
  | [] => []
  | (key, node) :: rest => (key, node.finish) :: finishEntries rest

def finishItems : List (List (String × Node)) → List Value
  | [] => []
  | entries :: rest => .table (finishEntries entries) :: finishItems rest

end

/-- The table that the statements of a document make, if they agree. -/
def assemble (statements : List Statement) : Option Table := do
  let (draft, _) ← statements.foldlM
    (fun (state : Draft × List String) statement => Draft.addStatement state.1 state.2 statement)
    ([], [])
  return finishEntries draft

/-- The table that pairs inside braces make, if they agree. -/
def assembleInline (pairs : List (List String × String × Value)) : Option Value := do
  let draft ← pairs.foldlM
    (fun (draft : Draft) pair => draft.addPair pair.1 pair.2.1 pair.2.2) []
  return .table (finishEntries draft)

end ReportIndex.Toml
