import ReportIndex.Command.Arguments
import ReportIndex.Command.Output
import ReportIndex.Config.Load

/-!
Contract: the task that writes pages.

Owns:
- the settings that the command line overrides;
- the choice between one page and a site with a page for each version;
- the order of a site's pages: the one without a version first.

Does not own: what a page holds.

All versions are looked at before the first page is written.
-/

namespace ReportIndex.Command

variable {m : Type → Type} [Monad m] [Workspace m]

/-- The settings, with those of the command line in place of the file's. -/
def RenderArguments.override (arguments : RenderArguments) (config : Config) : Config :=
  { config with
    theme := arguments.theme.getD config.theme
    assetBase := arguments.assetBase.getD config.assetBase
    link :=
      { encoding := arguments.encoding.getD config.link.encoding
        parameter := arguments.parameter.getD config.link.parameter }
    title := arguments.title.getD config.title }

def pageName : String := "index.html"

/-- The directory of a site unless another is named. -/
def siteName : String := "site"

def loadCatalog (path : String) : TaskM m Catalog := do
  match ← (Catalog.load path : m _) with
  | .ok catalog => return catalog
  | .error error => throw (.catalog path error)

/-- Renders and writes the page of each version, given as directory names. -/
def writeVersions
    (fragment : Bool)
    (catalog : Catalog)
    (context : Context)
    (directory : String) :
    List String → TaskM m Unit
  | [] => return
  | version :: versions => do
      let html ← (renderMarkup fragment catalog (context.withVersion version) : m String)
      writeOutput (Path.join (Path.join directory version) pageName) html
      writeVersions fragment catalog context directory versions

/-- Writes a page without a version, and below it one for each version. -/
def writeSite
    (fragment : Bool)
    (catalog : Catalog)
    (context : Context)
    (directory : String)
    (versions : List String) :
    TaskM m Unit := do
  if Path.isStandardOutput directory then throw .siteNeedsDirectory
  let names ← liftExcept (versions.mapM versionDirectory)
  let html ← (renderMarkup fragment catalog context : m String)
  writeOutput (Path.join directory pageName) html
  writeVersions fragment catalog context directory names
  (Workspace.record
    { level := .info
      target := .render
      message := "rendered versioned site"
      fields :=
        [ ("versions", .count names.length),
          ("reports", .count catalog.size),
          ("dir", .plain directory) ] } : m Unit)
where
  liftExcept {α : Type} (result : Except TaskError α) : TaskM m α :=
    match result with
    | .ok value => return value
    | .error error => throw error

def writeSinglePage
    (arguments : RenderArguments)
    (catalog : Catalog)
    (context : Context) :
    TaskM m Unit := do
  let html ← (renderMarkup arguments.fragment catalog context : m String)
  writeOutput (arguments.out.getD pageName) html

/-- Writes what is asked for: with a version on the command line, or without
versions in the settings, one page; otherwise a site. -/
def render (arguments : RenderArguments) (fileConfig : Config) : TaskM m Nat := do
  let catalog ← loadCatalog arguments.catalog
  let config := arguments.override fileConfig
  let context ← (Config.announceContext config : m Context)
  match arguments.documentVersion with
  | some version => writeSinglePage arguments catalog (context.withVersion version)
  | none =>
    if config.versions.isEmpty then writeSinglePage arguments catalog context
    else
      writeSite arguments.fragment catalog context (arguments.out.getD siteName) config.versions
  return 0

end ReportIndex.Command
