import ReportIndex.Text.Blank
import ReportIndex.Text.Bytes

/-!
Contract: where the illustrations of a card are found.

Owns:
- the file names of a card's two illustrations;
- the root under which they are served, as a user writes it and as it is used.

Does not own: whether the files are there.
-/

namespace ReportIndex

def lightFileName (index : Nat) : String :=
  "graph-" ++ toString index ++ ".svg"

def darkFileName (index : Nat) : String :=
  "graph-" ++ toString index ++ "-dark.svg"

/-- The files that a catalog of `count` reports asks for: in the order of the
cards, light before dark. -/
def illustrationNames (count : Nat) : List String :=
  (List.range count).flatMap fun index => [lightFileName index, darkFileName index]

/-- The static root of the illustrations. -/
structure AssetRoot where
  base : String
deriving DecidableEq, Repr

namespace AssetRoot

/-- The root that a user means by `text`: blanks at its ends do not count, nor
slashes at the end of what is left. -/
def ofText (text : String) : AssetRoot :=
  ⟨String.ofList (Text.dropEndWhile (· == '/') (Text.trimBlanks text.toList))⟩

def light (root : AssetRoot) (index : Nat) : String :=
  root.base ++ "/" ++ lightFileName index

def dark (root : AssetRoot) (index : Nat) : String :=
  root.base ++ "/" ++ darkFileName index

def plainHttpScheme : List Char := ['h', 't', 't', 'p', ':', '/', '/']

/-- Whether the root is at an unencrypted origin; the case of letters does not
matter. The root's first seven bytes are compared, if no character lies across their
end. -/
def isPlainHttp (root : AssetRoot) : Bool :=
  (Text.splitAtByte? 7 root.base.toList).any fun halves =>
    halves.1.map Char.toLower == plainHttpScheme

end AssetRoot

end ReportIndex
