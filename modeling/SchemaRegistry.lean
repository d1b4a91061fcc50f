import SchemaRegistry.Validation.Run
import SchemaRegistry.Proofs.Judgement.Finding
import SchemaRegistry.Proofs.Judgement.Check
import SchemaRegistry.Proofs.Judgement.Plan
import SchemaRegistry.Proofs.Judgement.Keywords
import SchemaRegistry.Proofs.Graph.Links
import SchemaRegistry.Proofs.Judgement.Run
import SchemaRegistry.Proofs.Graph.Recursion
import SchemaRegistry.Proofs.Judgement.Verdict
import SchemaRegistry.Proofs.Judgement.Evident
import SchemaRegistry.Proofs.Compile.Positions
import SchemaRegistry.Proofs.Compile.Traversal
import SchemaRegistry.Proofs.Compile.Layout
import SchemaRegistry.Proofs.Compile.Sealed
import SchemaRegistry.Proofs.Json.Equality
import SchemaRegistry.Proofs.Json.Access
import SchemaRegistry.Proofs.Json.Rounding
import SchemaRegistry.Proofs.Json.Proper
import SchemaRegistry.Proofs.Json.Distinct
import SchemaRegistry.Proofs.Json.Datum
import SchemaRegistry.Proofs.Addressing.Location
import SchemaRegistry.Proofs.Addressing.Pointers
import SchemaRegistry.Proofs.Addressing.Bases
import SchemaRegistry.Proofs.Addressing.Trails
import SchemaRegistry.Proofs.Addressing.Overlays
import SchemaRegistry.Proofs.Addressing.Resolution
import SchemaRegistry.Proofs.Acceptance.Shapes
import SchemaRegistry.Proofs.Acceptance.Readers
import SchemaRegistry.Proofs.Acceptance.Keywords
import SchemaRegistry.Proofs.Acceptance.Rejection
import SchemaRegistry.Proofs.Addressing.Resources
import SchemaRegistry.Proofs.Addressing.Conflicts
import SchemaRegistry.Proofs.Addressing.Known
import SchemaRegistry.Proofs.Addressing.Removal
import SchemaRegistry.Proofs.Validation.Capacity
import SchemaRegistry.Proofs.Validation.Agreement
import SchemaRegistry.Proofs.Validation.Context
import SchemaRegistry.Proofs.Validation.Depth
import SchemaRegistry.Proofs.Validation.Descent
import SchemaRegistry.Proofs.Graph.Guarded
import SchemaRegistry.Proofs.Graph.Endless
import SchemaRegistry.Proofs.Semantics.Admits
import SchemaRegistry.Proofs.Semantics.Fixpoint
import SchemaRegistry.Proofs.Semantics.Holds
import SchemaRegistry.Proofs.Semantics.Verdict
import SchemaRegistry.Proofs.Invariance.Extension
import SchemaRegistry.Proofs.Invariance.Alike
import SchemaRegistry.Proofs.Invariance.Plans
import SchemaRegistry.Proofs.Invariance.Bisimulation
import SchemaRegistry.Proofs.Invariance.Instances
import SchemaRegistry.Proofs.Invariance.Places
import SchemaRegistry.Proofs.Invariance.Reading
import SchemaRegistry.Proofs.Invariance.Content
import SchemaRegistry.Proofs.Invariance.Order
import SchemaRegistry.Proofs.Reports.Origins
import SchemaRegistry.Proofs.Reports.Plans
import SchemaRegistry.Proofs.Reports.Visits
import SchemaRegistry.Proofs.Reports.InstancePaths
import SchemaRegistry.Proofs.Reports.Assertions
import SchemaRegistry.Proofs.Reports.SchemaPaths
import SchemaRegistry.Proofs.Semantics.Bounds
import SchemaRegistry.Proofs.Reports.Apart
import SchemaRegistry.Proofs.Reports.Unrepeated
import SchemaRegistry.Proofs.Text.Escapes
import SchemaRegistry.Proofs.Json.Nearest
import SchemaRegistry.Proofs.Semantics.Multiples
