import NodeWorkflow.Catalog.Lookup
import NodeWorkflow.Copying
import NodeWorkflow.Execution.Edit
import NodeWorkflow.Format
import NodeWorkflow.Load
import NodeWorkflow.Main
import NodeWorkflow.Prompt.Process
import NodeWorkflow.Prompt.Titles
import NodeWorkflow.Proofs.Entries
import NodeWorkflow.Proofs.Keys
import NodeWorkflow.Proofs.Traversal
import NodeWorkflow.Repair.Fix
import NodeWorkflow.Service.Launch
import NodeWorkflow.Service.Routes
import NodeWorkflow.Proofs.Compilation
import NodeWorkflow.Proofs.Inputs
import NodeWorkflow.Proofs.Wiring
import NodeWorkflow.Proofs.Acceptance
import NodeWorkflow.Proofs.Injection
import NodeWorkflow.Proofs.InjectionFrame
import NodeWorkflow.Proofs.PromptDelivery
import NodeWorkflow.Proofs.Issues
import NodeWorkflow.Proofs.Copying
import NodeWorkflow.Proofs.Orderly
import NodeWorkflow.Proofs.Malformed
import NodeWorkflow.Proofs.Agreement
import NodeWorkflow.Proofs.Exclusion
import NodeWorkflow.Proofs.WrittenWires
import NodeWorkflow.Proofs.Cycles
import NodeWorkflow.Proofs.Endpoints
import NodeWorkflow.Proofs.Reports
import NodeWorkflow.Proofs.Reordering
import NodeWorkflow.Proofs.RepairFrame
import NodeWorkflow.Proofs.WidgetFrame
import NodeWorkflow.Proofs.Growth
import NodeWorkflow.Proofs.NumberDelivery
import NodeWorkflow.Proofs.WidgetShape
import NodeWorkflow.Proofs.LinkSearch
import NodeWorkflow.Proofs.TemplateListing
import NodeWorkflow.Proofs.CompiledFormat
import NodeWorkflow.Proofs.IssueTexts
import NodeWorkflow.Proofs.Prediction
import NodeWorkflow.Proofs.CatalogHistory
import NodeWorkflow.Proofs.MendedGraph
import NodeWorkflow.Proofs.WidgetNaming
import NodeWorkflow.Proofs.Generation
import NodeWorkflow.Proofs.Connecting
import NodeWorkflow.Proofs.SamplerLayout
import NodeWorkflow.Proofs.SeedControls
import NodeWorkflow.Proofs.InjectionEffect
import NodeWorkflow.Proofs.LinkGathering
import NodeWorkflow.Proofs.Sorting
import NodeWorkflow.Proofs.PromptTitles
import NodeWorkflow.Proofs.RepairCoverage
import NodeWorkflow.Proofs.QuickRepair
import NodeWorkflow.Proofs.DirectWires
import NodeWorkflow.Proofs.Confinement
import NodeWorkflow.Proofs.StrayControls
import NodeWorkflow.Proofs.PromptUpdates
import NodeWorkflow.Proofs.TemplateSlugs
import NodeWorkflow.Proofs.PromptReadiness
import NodeWorkflow.Proofs.FormatDetection
import NodeWorkflow.Proofs.RequestDefaults
import NodeWorkflow.Proofs.WrittenNumbers
import NodeWorkflow.Proofs.Folding
