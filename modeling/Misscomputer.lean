import Misscomputer.Lib.Table
import Misscomputer.Lib.Machine
import Misscomputer.Lib.Pool
import Misscomputer.Lib.Sha256
import Misscomputer.Lib.Except
import Misscomputer.Sandbox.Vocabulary
import Misscomputer.Protocol.Documents
import Misscomputer.Protocol.OpDocuments
import Misscomputer.Durable.Leases
import Misscomputer.Durable.LeaseStep
import Misscomputer.Durable.LeaseRefinement
import Misscomputer.Durable.Capacity
import Misscomputer.Durable.Fence
import Misscomputer.Durable.Lifecycle
import Misscomputer.Durable.Ops
import Misscomputer.Durable.OpsStep
import Misscomputer.Durable.Execs
import Misscomputer.Durable.Renewal
import Misscomputer.Durable.NonStart
import Misscomputer.Protocol.Receipt
import Misscomputer.Runtime.InstanceName
import Misscomputer.Durable.Timely
import Misscomputer.Miner.Lane
import Misscomputer.Miner.LaneReceipts
import Misscomputer.Durable.Teardown
import Misscomputer.Miner.LaneOutline
import Misscomputer.Miner.LaneTeardown
import Misscomputer.Durable.ExecTimes
import Misscomputer.Miner.OpsLane
import Misscomputer.Miner.OpsSteps
import Misscomputer.Miner.ExecReceipts
import Misscomputer.Miner.ExecStarts
import Misscomputer.Durable.Endpoints
import Misscomputer.Durable.EndpointSteps
import Misscomputer.Durable.Deactivation
import Misscomputer.Durable.StaticEndpoints
import Misscomputer.Lib.Text
import Misscomputer.Lib.Json
import Misscomputer.Static.Path
import Misscomputer.Static.Manifest
import Misscomputer.Static.Rules
import Misscomputer.Static.Response
import Misscomputer.Static.Parse
import Misscomputer.Lib.Sorting
import Misscomputer.Lib.Dict
import Misscomputer.Contract.Codec
import Misscomputer.Contract.Timestamp
import Misscomputer.Organic.Contracts
import Misscomputer.Organic.Observation
import Misscomputer.Organic.Scoring
import Misscomputer.Organic.Tallies
import Misscomputer.Organic.Epochs
import Misscomputer.Organic.Corroboration
import Misscomputer.Scoring.Means
import Misscomputer.Organic.Window
import Misscomputer.Organic.Attestations
import Misscomputer.Static.Observation
import Misscomputer.Static.Evaluation
import Misscomputer.Static.Evidence
import Misscomputer.Static.Scoring
import Misscomputer.Static.EpochScore
import Misscomputer.Static.Tallies
import Misscomputer.Static.Epochs
import Misscomputer.Static.Charges
import Misscomputer.Static.Sealing
import Misscomputer.Static.Faults
import Misscomputer.Static.Window
import Misscomputer.Scoring.Windows
import Misscomputer.Validator.Quorum
import Misscomputer.Manifest.Onboarding
import Misscomputer.Static.CacheSafety
import Misscomputer.Lib.Lines
import Misscomputer.Contract.Parsing
import Misscomputer.Static.Documents
import Misscomputer.Static.Journal
import Misscomputer.Static.RecordSize
import Misscomputer.Static.Reopening
import Misscomputer.Static.Releases
import Misscomputer.Static.Revocation
import Misscomputer.Static.RevocationEpochs
import Misscomputer.Durable.Replay
import Misscomputer.Relay.Normalization
import Misscomputer.Relay.Checkpoints
import Misscomputer.Relay.Quorum
import Misscomputer.Weights.Execution
import Misscomputer.Weights.Parse
import Misscomputer.Weights.Reconciliation
import Misscomputer.Contract.Instant
import Misscomputer.Manifest.Identities
import Misscomputer.Probe.ResolutionLease
import Misscomputer.Weights.AuditPromise
import Misscomputer.Probe.Slices
import Misscomputer.Static.Serve
import Misscomputer.Bridge.Replay
import Misscomputer.Edge.Authorization
import Misscomputer.Edge.Replay
import Misscomputer.Miner.Admission
import Misscomputer.Miner.StaticRetire
import Misscomputer.Lib.Reservation
import Misscomputer.Lib.Hmac
import Misscomputer.Lib.Digits
import Misscomputer.Lib.Sha256Numeral
