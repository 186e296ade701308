import ReportIndex.Proofs.Command.WrittenSite
import ReportIndex.Proofs.Link.Merge
import ReportIndex.Proofs.Page.ShownPage

/-!
Contract: the directory of a version's page and the links on it say the same.

Owns:
- what a link says of a version, for both encodings;
- the agreement of directory, links and badge on every page of a site that is written.

Does not own: when a site is written.
-/

namespace ReportIndex

/-! ## Links -/

/-- What a link that was made from a stored target says of a version. -/
structure LinkNames (settings : LinkConfig) (name base href : String) : Prop where
  external : Href.isExternal base.toList = true → href = base
  segment :
    settings.encoding = .path →
    Href.isExternal base.toList = false →
    ∃ segment,
      LinkStrategy.Inserts segment base.toList href.toList
        ∧ Percent.decode segment = some name
        ∧ '/' ∉ segment
        ∧ segment ≠ ['.']
        ∧ segment ≠ ['.', '.']
  parameter :
    settings.encoding = .query →
    Href.isExternal base.toList = false →
    Text.isBlankText settings.parameter = false →
    Href.IsParameterName settings.parameter.toList →
    ∃ value,
      (Href.parameters href.toList).filter
          (Href.parameterName · == (Text.trim settings.parameter).toList) =
        [(Text.trim settings.parameter).toList ++ '=' :: value]
        ∧ Percent.decode value = some name

theorem encode_ne_dots
    {name : String}
    (isName : Path.IsName name) :
    Percent.encode name ≠ ['.'] ∧ Percent.encode name ≠ ['.', '.'] :=
  ⟨fun same => isName.notHere (@Percent.encode_injective name "." same),
    fun same => isName.notAbove (@Percent.encode_injective name ".." same)⟩

theorem linkNames_apply
    (config : Config)
    {name : String}
    (isName : Path.IsName name)
    (base : String) :
    LinkNames config.link name base (config.linkStrategy.apply base name) := by
  constructor
  · intro external
    exact LinkStrategy.apply_external config.isBuiltIn_linkStrategy external name
  · intro encoding internal
    have strategy : config.linkStrategy = .path := by rw [Config.linkStrategy, encoding]
    refine ⟨Percent.encode name, ?_, Percent.decode_encode name,
      Percent.not_mem_encode rfl name, encode_ne_dots isName⟩
    rw [strategy, LinkStrategy.apply_path internal, String.toList_ofList]
    exact LinkStrategy.inserts_mergePath name base.toList
  · intro encoding internal notBlank isParameterName
    have strategy : config.linkStrategy = .query (Text.trim config.link.parameter) := by
      rw [Config.linkStrategy, encoding]
      exact LinkStrategy.queryNamed_of_not_blank notBlank
    have isTrimmedName := isParameterName.of_subset
      (Text.toList_trim_subset config.link.parameter)
    refine ⟨Percent.encode name, ?_, Percent.decode_encode name⟩
    rw [strategy, LinkStrategy.apply_query internal, String.toList_ofList]
    exact LinkStrategy.filter_parameters_mergeQuery isTrimmedName name base.toList

namespace Command

/-! ## Pages -/

variable
  {request : Request}
  {arguments : RenderArguments}
  {config : Config}
  {catalog : Catalog}
  {start final : Surroundings}

/-- What a reader sees of the cards is the same with and without the page around
them. -/
theorem shownCards_html
    (arguments : RenderArguments)
    (config : Config)
    (catalog : Catalog)
    (version : Option String) :
    Page.shownCards (arguments.html config catalog version) =
      (({ arguments.contextOf config with version } : Context).cards catalog).map
        Page.ShownCard.ofCard := by
  rw [RenderArguments.html, markup]
  split
  · exact Page.shownCards_grid _ _
  · rw [Page.shownCards_page, Page.shownCards_grid]

/-- A page whose links and badge all name the same version. -/
structure PageNames
    (settings : LinkConfig)
    (fragment : Bool)
    (catalog : Catalog)
    (name html : String) :
    Prop where
  links :
    List.Forall₂
      (fun report shown => ∃ href, shown.targets = [href] ∧ LinkNames settings name report.href href)
      catalog.reports (Page.shownCards html)
  badge : Page.shownBadges html = if fragment then [] else [name]

theorem pageNames_html
    (arguments : RenderArguments)
    (config : Config)
    (catalog : Catalog)
    {version : String}
    (usable : Usable version) :
    PageNames (arguments.override config).link arguments.fragment catalog (Text.trim version)
      (arguments.html config catalog (some version)) := by
  have active : activeVersion (some version) = some (Text.trim version) :=
    (activeVersion_eq_some_iff _ _).mpr ⟨version, rfl, rfl, usable.1.nonempty⟩
  constructor
  · rw [shownCards_html, List.forall₂_map_right_iff]
    refine (Context.cards_show_reports _ catalog).imp fun report card shows => ?_
    refine ⟨card.href, rfl, ?_⟩
    rw [shows.href_eq, LinkStrategy.resolve, active]
    exact linkNames_apply _ usable.1 report.href
  · rw [RenderArguments.html, markup]
    split
    · exact Page.badges_grid _ _
    · rw [Page.badges_page, Context.activeVersion, active]
      rfl

/-- **The directory of a page and its links name the same version.** On every page of
a site that is written, links and badge give back the name of the page's directory,
however differently the three are spelled; links that leave the site are as in the
catalog. -/
theorem directory_and_links_agree
    (task : request.task = .render arguments)
    (unversioned : arguments.documentVersion = none)
    (settings : start.files.settings request.config = .ok config)
    (performed : (perform request : Simulation Nat).run start = (0, final)) :
    ∃ catalog,
      Catalog.inFiles start.files arguments.catalog = .ok catalog
        ∧ ∀ version ∈ config.versions, ∃ html,
            final.files.read
                (Path.join (Path.join (arguments.out.getD siteName) (Text.trim version)) pageName) =
              .ok html.toUTF8
              ∧ PageNames (arguments.override config).link arguments.fragment catalog
                  (Text.trim version) html := by
  obtain ⟨catalog, renders⟩ := Renders.of_perform task settings performed
  refine ⟨catalog, renders.catalog, fun version configured => ?_⟩
  have several := List.ne_nil_of_mem configured
  obtain ⟨_, usable, _⟩ := renders.exists_written unversioned several performed
  exact ⟨_, renders.read_pagePath unversioned performed configured,
    pageNames_html arguments config catalog (usable version configured)⟩

/-- A version with blanks and a percent sign names a directory as it is, and is encoded
in links. -/
theorem directory_and_links_agree_encoded :
    let document := "versions = [\" a 50% \"]\n[link]\nstrategy = \"path\"\n"
    ∃ final html,
      (perform smallRequest : Simulation Nat).run (smallStart document) = (0, final)
        ∧ final.files.read "site/a 50%/index.html" = .ok html.toUTF8
        ∧ PageNames { encoding := .path } false smallCatalog "a 50%" html := by
  intro document
  have parsed : Config.ofToml document =
      .ok { versions := [" a 50% "], link := { encoding := .path } } := by
    cbv
  have usable : ∀ version ∈ [" a 50% "], Usable version := by decide
  have fits : Fits "site" ([" a 50% "].map Text.trim) := by decide
  have notPage : pageName ∉ [" a 50% "].map Text.trim := by decide
  have renders := renders_small parsed
  obtain ⟨final, performed⟩ := (exists_perform_small_iff parsed (by simp) usable fits).mpr notPage
  obtain ⟨catalog, loaded, pages⟩ :=
    directory_and_links_agree renders.task rfl renders.settings performed
  rw [renders.catalog] at loaded
  cases loaded
  obtain ⟨html, read, names⟩ := pages " a 50% " (by simp)
  have trimmed : Text.trim " a 50% " = "a 50%" := by decide
  rw [trimmed] at read names
  exact ⟨final, html, performed, read, names⟩

end Command

end ReportIndex
