/-!
Contract: the parts of a link target, read off its text.

Owns:
- fragment, path, query and the parameters of the query;
- the test whether a target leaves the site.

Does not own: how a version enters a target.

A target is taken as any text: nothing is decoded or normalised, and its parts
put together again give the text back.
-/

namespace ReportIndex.Href

/-- The part before the first `#`. -/
def withoutFragment (href : List Char) : List Char :=
  href.takeWhile (· != '#')

/-- The part from the first `#` on, with it; empty if there is none. -/
def fragment (href : List Char) : List Char :=
  href.dropWhile (· != '#')

/-- The part before the first `?` that no `#` precedes. -/
def path (href : List Char) : List Char :=
  (withoutFragment href).takeWhile (· != '?')

/-- The part between that `?` and the fragment; empty if there is none. -/
def query (href : List Char) : List Char :=
  ((withoutFragment href).dropWhile (· != '?')).drop 1

/-- The pieces of the query between `&`, empty ones left out. -/
def parameters (href : List Char) : List (List Char) :=
  ((query href).splitOn '&').filter (!·.isEmpty)

/-- The name of a parameter is what stands before its first `=`. -/
def parameterName (parameter : List Char) : List Char :=
  parameter.takeWhile (· != '=')

/-- A scheme is an ASCII letter followed by ASCII letters, digits, `+`, `-` and `.`. -/
def isScheme : List Char → Bool
  | [] => false
  | first :: rest =>
      first.isAlpha && rest.all fun character =>
        character.isAlphanum || character == '+' || character == '-' || character == '.'

/-- A target leaves the site when it names a host (`//`) or a scheme (`mailto:`).

Only the first `:` can end a scheme: no scheme holds one. -/
def isExternal (href : List Char) : Bool :=
  ['/', '/'].isPrefixOf href
    || (href.contains ':' && isScheme (href.takeWhile (· != ':')))

end ReportIndex.Href
