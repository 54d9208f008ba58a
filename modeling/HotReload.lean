import HotReload.Report
import HotReload.Proofs.Site
import HotReload.Proofs.Search
import HotReload.Proofs.Visit
import HotReload.Proofs.Rewrite
import HotReload.Proofs.Isolation
import HotReload.Proofs.Outcome
import HotReload.Proofs.Recognition
import HotReload.Proofs.Tree.Rescope
import HotReload.Proofs.Tree.Syntax
import HotReload.Proofs.Script.Reading
import HotReload.Proofs.Script.Yields
import HotReload.Proofs.Script.Unscoped
import HotReload.Proofs.HotUnit.Shape
import HotReload.Proofs.HotUnit.Reading
import HotReload.Proofs.HotUnit.Names
import HotReload.Proofs.HotUnit.Hygiene
import HotReload.Proofs.HotUnit.Text
import HotReload.Proofs.HotUnit.Carries
import HotReload.Proofs.HotUnit.ReadBack
import HotReload.Proofs.Slots
import HotReload.Proofs.Functions
import HotReload.Proofs.Renaming
import HotReload.Proofs.SourceOrder
import HotReload.Proofs.References
import HotReload.Proofs.HotUnit.Capture
import HotReload.Proofs.Factory
import HotReload.Proofs.Inert
import HotReload.Proofs.ModelPaths
import HotReload.Proofs.Options
import HotReload.Proofs.FileIdentity
import HotReload.Proofs.Coherence
import HotReload.Proofs.Introductions
import HotReload.Proofs.Sessions
