import RawProfile.Hooks
import RawProfile.Main
import RawProfile.Transport.Any
import RawProfile.Proofs.Dump.Lookup
import RawProfile.Proofs.Session.Decode
import RawProfile.Proofs.Memory.ByteMap
import RawProfile.Proofs.Memory.History
import RawProfile.Proofs.Session.Steps
import RawProfile.Proofs.Transport.Lockstep
import RawProfile.Proofs.Registry.Unordered
import RawProfile.Proofs.Session.Unordered
import RawProfile.Proofs.Dump.Acceptance
import RawProfile.Proofs.Session.Shutdown
import RawProfile.Proofs.Hooks.Contract
import RawProfile.Proofs.Hooks.Refinement
import RawProfile.Proofs.Dump.Obstacle
import RawProfile.Proofs.Dump.Source
import RawProfile.Proofs.Gate.Callers
import RawProfile.Proofs.Gate.Once
import RawProfile.Proofs.Transport.Stores
import RawProfile.Proofs.Dump.Stored
import RawProfile.Proofs.Dump.Copy
import RawProfile.Proofs.Dump.Outside
import RawProfile.Proofs.Session.Effects
import RawProfile.Proofs.Session.Restart
import RawProfile.Proofs.Session.Sentinel
import RawProfile.Proofs.Transport.Exchanges
import RawProfile.Proofs.Dump.Hosted
import RawProfile.Proofs.Registry.Bounds
import RawProfile.Proofs.Transport.Interchange
import RawProfile.Proofs.Memory.Canonical
import RawProfile.Proofs.Command.Run
import RawProfile.Proofs.Layout.Limits
import RawProfile.Proofs.SegmentWriter.Turns
import RawProfile.Proofs.Registry.Packing
import RawProfile.Proofs.Transport.Reports
import RawProfile.Proofs.Dump.Phases
import RawProfile.Proofs.Header.Bijection
import RawProfile.Proofs.FunctionRecord.Codec
import RawProfile.Proofs.Session.EmptyBlob
import RawProfile.Proofs.Dump.Checked
import RawProfile.Proofs.Dump.Records
import RawProfile.Proofs.Transport.Ledger
