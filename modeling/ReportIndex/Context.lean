import ReportIndex.Config.Basic

/-!
Contract: what a rendering reads besides the catalog.

Owns:
- title, version, theme, link strategy and asset root of one rendering;
- the changes to one of them at a time.

Does not own: what is made of them.
-/

namespace ReportIndex

/-- Everything a rendering reads besides the catalog. -/
structure Context where
  title : String := ({} : Config).title
  version : Option String := none
  theme : Theme := .system
  links : LinkStrategy := default
  assets : AssetRoot := .ofText ({} : Config).assetBase

namespace Context

instance : Inhabited Context := ⟨{}⟩

/-- The context that the settings describe, without a version. -/
def ofConfig (config : Config) : Context :=
  { title := config.title
    version := none
    theme := config.theme
    links := config.linkStrategy
    assets := config.assetRoot }

inductive Change where
  | version (version : String)
  | theme (theme : Theme)
  | links (strategy : LinkStrategy)
  | assets (root : AssetRoot)
  | title (title : String)

def change (context : Context) : Change → Context
  | .version version => { context with version := some version }
  | .theme theme => { context with theme }
  | .links links => { context with links }
  | .assets assets => { context with assets }
  | .title title => { context with title }

def withVersion (context : Context) (version : String) : Context :=
  context.change (.version version)

/-- The version, where a blank one counts as absent. -/
def activeVersion (context : Context) : Option String :=
  ReportIndex.activeVersion context.version

end Context

end ReportIndex
