import ApiAtlas.Main
import ApiAtlas.Proofs.Cache.Refinement
import ApiAtlas.Proofs.Document.Leftover
import ApiAtlas.Proofs.Document.RoundTrip
import ApiAtlas.Proofs.Graph.Execution
import ApiAtlas.Proofs.Graph.Nesting
import ApiAtlas.Proofs.Graph.Preflight
import ApiAtlas.Proofs.Graph.RootFields
import ApiAtlas.Proofs.Shape.Filling
import ApiAtlas.Proofs.Shape.Skipping
import ApiAtlas.Proofs.Shape.Composition
import ApiAtlas.Proofs.Validation.Coherence
import ApiAtlas.Proofs.Validation.Example
import ApiAtlas.Proofs.Discovery.Names
import ApiAtlas.Proofs.Explorer.Invalidation
import ApiAtlas.Proofs.Explorer.Sessions
import ApiAtlas.Proofs.Validation.BodyAdvice
import ApiAtlas.Proofs.Validation.WriteBack
import ApiAtlas.Proofs.Shape.Admission
import ApiAtlas.Proofs.Shape.Bounds
import ApiAtlas.Proofs.Document.Inlining
import ApiAtlas.Proofs.Document.Pointers
import ApiAtlas.Proofs.Document.Idempotence
import ApiAtlas.Proofs.Document.Termination
import ApiAtlas.Proofs.Discovery.Tags
import ApiAtlas.Proofs.Discovery.Collected
import ApiAtlas.Proofs.Shape.Sample
import ApiAtlas.Proofs.Shape.SampleLimits
import ApiAtlas.Proofs.Graph.TypeText
import ApiAtlas.Proofs.Cache.Counts
import ApiAtlas.Proofs.Document.Placeholders
import ApiAtlas.Proofs.Graph.Wording
import ApiAtlas.Proofs.Graph.Partition
