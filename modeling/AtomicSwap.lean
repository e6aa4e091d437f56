import AtomicSwap.Amount
import AtomicSwap.Answer
import AtomicSwap.Bytes
import AtomicSwap.Chain
import AtomicSwap.Check
import AtomicSwap.Config
import AtomicSwap.Digest.Keccak
import AtomicSwap.Digest.Scheme
import AtomicSwap.Digest.Sha256
import AtomicSwap.Environment
import AtomicSwap.Event
import AtomicSwap.Feed
import AtomicSwap.Json.Basic
import AtomicSwap.Json.Decoder
import AtomicSwap.Json.Number
import AtomicSwap.Json.Printer
import AtomicSwap.Json.Reader
import AtomicSwap.Json.Text
import AtomicSwap.Ledger
import AtomicSwap.Main
import AtomicSwap.Node.Config
import AtomicSwap.Node.HostedChain
import AtomicSwap.Node.Swap
import AtomicSwap.Numeral
import AtomicSwap.Proofs.Acceptance
import AtomicSwap.Proofs.Announcement
import AtomicSwap.Proofs.Batch
import AtomicSwap.Proofs.Conservation
import AtomicSwap.Proofs.CounterLeg
import AtomicSwap.Proofs.Digits
import AtomicSwap.Proofs.Drain
import AtomicSwap.Proofs.Encoding
import AtomicSwap.Proofs.Environment
import AtomicSwap.Proofs.Escrow
import AtomicSwap.Proofs.Funds
import AtomicSwap.Proofs.Holdings
import AtomicSwap.Proofs.Identity
import AtomicSwap.Proofs.Json.Rearrangement
import AtomicSwap.Proofs.Json.Shape
import AtomicSwap.Proofs.Json.Text
import AtomicSwap.Proofs.Json.Value
import AtomicSwap.Proofs.Locking
import AtomicSwap.Proofs.Node.Course
import AtomicSwap.Proofs.Node.Environment
import AtomicSwap.Proofs.Node.Half
import AtomicSwap.Proofs.Node.Observation
import AtomicSwap.Proofs.Node.Outcome
import AtomicSwap.Proofs.Node.Reconciliation
import AtomicSwap.Proofs.Node.Watch
import AtomicSwap.Proofs.Payment
import AtomicSwap.Proofs.Records
import AtomicSwap.Proofs.Refusal
import AtomicSwap.Proofs.Replay
import AtomicSwap.Proofs.Restitution
import AtomicSwap.Proofs.Run
import AtomicSwap.Proofs.Secrecy
import AtomicSwap.Proofs.Settlement
import AtomicSwap.Proofs.Solvency
import AtomicSwap.Proofs.Step
import AtomicSwap.Proofs.Stream
import AtomicSwap.Proofs.Supply
import AtomicSwap.Proofs.TableSum
import AtomicSwap.Proofs.Tallies
import AtomicSwap.Proofs.Telemetry.Counters
import AtomicSwap.Proofs.Timelocks
import AtomicSwap.Proofs.Totals
import AtomicSwap.Proofs.Wire.Event
import AtomicSwap.Proofs.Wire.Grammar
import AtomicSwap.Proofs.Wire.RoundTrip
import AtomicSwap.Proofs.Wire.Scalar
import AtomicSwap.Proofs.Wire.Transfer
import AtomicSwap.Registry
import AtomicSwap.Seconds
import AtomicSwap.Table
import AtomicSwap.Telemetry.Counters
import AtomicSwap.Telemetry.Exposition
import AtomicSwap.Telemetry.Settings
import AtomicSwap.Text
import AtomicSwap.Transfer.Asset
import AtomicSwap.Transfer.Error
import AtomicSwap.Transfer.Params
import AtomicSwap.Transfer.Record
import AtomicSwap.Wire.Config
import AtomicSwap.Wire.Event
import AtomicSwap.Wire.Scalar
import AtomicSwap.Wire.Transfer
