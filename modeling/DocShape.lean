import DocShape.Access.Call
import DocShape.Main
import DocShape.Value.Indented
import DocShape.Proofs.Addresses
import DocShape.Proofs.Agreement
import DocShape.Proofs.BatchSummary
import DocShape.Proofs.CheckRun
import DocShape.Proofs.ElementAdaptors
import DocShape.Proofs.ElementCursors
import DocShape.Proofs.Enumeration
import DocShape.Proofs.Extraction
import DocShape.Proofs.FirstMissing
import DocShape.Proofs.FixedPoint
import DocShape.Proofs.Intervals
import DocShape.Proofs.KeyOrder
import DocShape.Proofs.Likeness
import DocShape.Proofs.Loosening
import DocShape.Proofs.MoreSamples
import DocShape.Proofs.Normalization
import DocShape.Proofs.NumberValue
import DocShape.Proofs.OpenRoot
import DocShape.Proofs.OptionalMarks
import DocShape.Proofs.PathConcatenation
import DocShape.Proofs.ReachedNodes
import DocShape.Proofs.Resemblance
import DocShape.Proofs.RoundTrips
import DocShape.Proofs.SampleSets
import DocShape.Proofs.SharedPaths
import DocShape.Proofs.SyntaxErrors
import DocShape.Proofs.TaggedLookups
import DocShape.Proofs.TrailRestored
import DocShape.Proofs.Truncation
