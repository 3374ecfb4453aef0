import StreamScalar.Config.Loading
import StreamScalar.Host.Basic
import StreamScalar.Proofs.CallSite.Contract
import StreamScalar.Proofs.Codec.Malformed
import StreamScalar.Proofs.Codec.RoundTrip
import StreamScalar.Proofs.Function.Isolation
import StreamScalar.Proofs.Function.Math
import StreamScalar.Proofs.Function.TypeSoundness
import StreamScalar.Proofs.Registry.History
import StreamScalar.Proofs.SnapshotService
import StreamScalar.Proofs.Store.Recency
import StreamScalar.Proofs.Checkpoint.Origin
import StreamScalar.Proofs.Checkpoint.RunningSum
import StreamScalar.Proofs.Checkpoint.Deployment
import StreamScalar.Proofs.Checkpoint.Transparency
import StreamScalar.Proofs.SnapshotService.Restore
import StreamScalar.Proofs.SnapshotService.Capture
import StreamScalar.Proofs.SnapshotService.Torn
import StreamScalar.Proofs.Binary64.Rounding
import StreamScalar.Proofs.Binary64.Value
import StreamScalar.Proofs.Binary64.HalfUp
import StreamScalar.Proofs.Binary64.Single
import StreamScalar.Proofs.Coercion
import StreamScalar.Proofs.Function.Outcome
import StreamScalar.Proofs.Function.Rounding
import StreamScalar.Proofs.Registry.Build
import StreamScalar.Proofs.Function.Errors
import StreamScalar.Proofs.Function.Revalidation
import StreamScalar.Proofs.Registry.Naming
import StreamScalar.Proofs.Config.File
import StreamScalar.Proofs.Config.Namespace
import StreamScalar.Proofs.CallSite.Warnings
