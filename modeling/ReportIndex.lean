import ReportIndex.Main
import ReportIndex.Proofs.Asset.Root
import ReportIndex.Proofs.Catalog.Load
import ReportIndex.Proofs.Command.BlankVersion
import ReportIndex.Proofs.Command.Confinement
import ReportIndex.Proofs.Command.Illustrations
import ReportIndex.Proofs.Command.Listing
import ReportIndex.Proofs.Command.PlainListing
import ReportIndex.Proofs.Command.Refusal
import ReportIndex.Proofs.Command.Repeat
import ReportIndex.Proofs.Command.SettingsFile
import ReportIndex.Proofs.Command.SiteLinks
import ReportIndex.Proofs.Command.Spelling
import ReportIndex.Proofs.Command.WholeSite
import ReportIndex.Proofs.Command.WrittenSite
import ReportIndex.Proofs.Link.Query
import ReportIndex.Proofs.Link.Replacement
import ReportIndex.Proofs.Link.Segment
import ReportIndex.Proofs.Link.Unchanged
import ReportIndex.Proofs.Page.ContextChange
import ReportIndex.Proofs.Page.Frame
import ReportIndex.Proofs.Page.LiveLink
import ReportIndex.Proofs.Page.Policy
import ReportIndex.Proofs.Page.ShownCard
import ReportIndex.Proofs.Page.Skeleton
import ReportIndex.Theme.Document
import ReportIndex.Workspace.Simulation
