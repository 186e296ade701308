import ReportIndex.Asset
import ReportIndex.Link.Strategy
import ReportIndex.Theme

/-!
Contract: the settings of a site, each with a default.

Owns:
- the settings and their defaults;
- the link strategy and the asset root that they describe.

Does not own: the file that settings are read from.
-/

namespace ReportIndex

/-- How versions are written into links. -/
structure LinkConfig where
  encoding : LinkEncoding := .query
  /-- The query parameter; the path encoding does not look at it. -/
  parameter : String := LinkStrategy.defaultParameter
deriving DecidableEq, Repr, Inhabited

structure Config where
  title : String := "Benchmark Reports"
  assetBase : String := "/"
  theme : Theme := .system
  /-- The versions that get a page each. -/
  versions : List String := []
  link : LinkConfig := {}
deriving DecidableEq, Repr

namespace Config

instance : Inhabited Config := ⟨{}⟩

/-- The strategy that the link settings describe. -/
def linkStrategy (config : Config) : LinkStrategy :=
  match config.link.encoding with
  | .query => .queryNamed config.link.parameter
  | .path => .path

/-- Whether the settings name a parameter that cannot be used. -/
def hasBlankParameter (config : Config) : Bool :=
  config.link.encoding == .query && Text.isBlankText config.link.parameter

def assetRoot (config : Config) : AssetRoot :=
  .ofText config.assetBase

end Config

end ReportIndex
