import BuildDeps.Main
import BuildDeps.Files.Tree
import BuildDeps.Proofs.Export.Graph
import BuildDeps.Proofs.Export.ClaimOrder
import BuildDeps.Proofs.Export.Claims
import BuildDeps.Proofs.Export.Absorption
import BuildDeps.Proofs.Export.Visibility
import BuildDeps.Proofs.Resolution.Provenance
import BuildDeps.Proofs.Resolution.StandIns
import BuildDeps.Proofs.Resolution.Encapsulation
import BuildDeps.Proofs.Export.Recording
import BuildDeps.Proofs.Resolution.Acyclic
import BuildDeps.Proofs.Label.RoundTrip
import BuildDeps.Proofs.Label.Reading
import BuildDeps.Proofs.Label.Grammar
import BuildDeps.Proofs.ClassName.Division
import BuildDeps.Proofs.ClassName.Imports
import BuildDeps.Proofs.Resolution.Deps
import BuildDeps.Proofs.Workspace.Run
import BuildDeps.Proofs.Workspace.Recording
import BuildDeps.Proofs.Workspace.Closure
import BuildDeps.Proofs.Export.Nesting
import BuildDeps.Proofs.Collections
import BuildDeps.Proofs.Export.Agreement
import BuildDeps.Proofs.Resolution.Transparency
import BuildDeps.Proofs.Resolution.OneLanguage
import BuildDeps.Proofs.Workspace.OrderIndependence
import BuildDeps.Proofs.Maven.ArtifactLabel
import BuildDeps.Proofs.Resolution.Rereading
import BuildDeps.Proofs.Workspace.Stability
import BuildDeps.Proofs.Export.Conflicts
import BuildDeps.Proofs.Resolution.Substitution
import BuildDeps.Proofs.Resolution.Recency
import BuildDeps.Proofs.ByteOrder
import BuildDeps.Proofs.Label.Simplification
import BuildDeps.Proofs.Resolution.Listing
import BuildDeps.Proofs.Resolution.Targets
import BuildDeps.Proofs.Resolution.Session
import BuildDeps.Proofs.Maven.Coordinate
import BuildDeps.Proofs.Maven.InstallFile
import BuildDeps.Proofs.Maven.Providers
import BuildDeps.Proofs.Maven.Exclusion
import BuildDeps.Proofs.Maven.ConflictResolution
import BuildDeps.Proofs.Config.Exclusions
import BuildDeps.Proofs.Maven.Printing
import BuildDeps.Proofs.Resolution.Imports
import BuildDeps.Proofs.Resolution.Reports
import BuildDeps.Proofs.Resolution.Alike
import BuildDeps.Proofs.Workspace.ExportsOff
import BuildDeps.Proofs.Workspace.Failure
import BuildDeps.Proofs.JvmPackage.Containment
import BuildDeps.Proofs.Label.Order
import BuildDeps.Proofs.Maven.TargetName
import BuildDeps.Proofs.Export.Queries
