import KeyRenewal.Action
import KeyRenewal.Attempt
import KeyRenewal.Batch
import KeyRenewal.Batch.Expectation
import KeyRenewal.Batch.Report
import KeyRenewal.BigEndian
import KeyRenewal.Cbor.Encode
import KeyRenewal.Cbor.Item
import KeyRenewal.Cbor.Record
import KeyRenewal.Cbor.Scan
import KeyRenewal.Collaborators
import KeyRenewal.Config
import KeyRenewal.Confirmation
import KeyRenewal.Credential
import KeyRenewal.Dispatch
import KeyRenewal.Engine
import KeyRenewal.Envelope
import KeyRenewal.Envelope.Cbor
import KeyRenewal.Files.Machine
import KeyRenewal.Files.Tree
import KeyRenewal.Generation
import KeyRenewal.Json.Failures
import KeyRenewal.Json.Ledger
import KeyRenewal.Json.Parse
import KeyRenewal.Json.Print
import KeyRenewal.Json.Record
import KeyRenewal.Json.Results
import KeyRenewal.Json.Settings
import KeyRenewal.Json.Value
import KeyRenewal.KeyFolder
import KeyRenewal.Logging.Filter
import KeyRenewal.Logging.Install
import KeyRenewal.Logging.Notice
import KeyRenewal.Logging.Pattern
import KeyRenewal.Logging.Pattern.Basic
import KeyRenewal.Logging.Pattern.Class
import KeyRenewal.Logging.Pattern.Scan
import KeyRenewal.Logging.Pattern.Support
import KeyRenewal.OrderedMap
import KeyRenewal.Path
import KeyRenewal.Proofs.Effects
import KeyRenewal.Proofs.OrderedMap
import KeyRenewal.Protocol
import KeyRenewal.RenewalError
import KeyRenewal.Round
import KeyRenewal.Scripted.Bench
import KeyRenewal.Scripted.Canned
import KeyRenewal.Scripted.KeyStore
import KeyRenewal.Scripted.Ledger
import KeyRenewal.Scripted.Wallet
import KeyRenewal.ServiceError
import KeyRenewal.Sha256
import KeyRenewal.SingleRenewal
import KeyRenewal.StatusChange
import KeyRenewal.Text.Alphanumeric
import KeyRenewal.Text.Blank
import KeyRenewal.Text.Hex
import KeyRenewal.Text.Quoted
import KeyRenewal.Text.Ranges
import KeyRenewal.Text.Utf8
import KeyRenewal.Text.Visible
import KeyRenewal.Toml.Document
import KeyRenewal.Toml.Number
import KeyRenewal.Toml.Settings
import KeyRenewal.Toml.Text
import KeyRenewal.Toml.Value
import KeyRenewal.Transaction
import KeyRenewal.Window
import KeyRenewal.Proofs.Bench
import KeyRenewal.Proofs.Course
import KeyRenewal.Proofs.Runs
import KeyRenewal.Proofs.Atomicity
import KeyRenewal.Proofs.Latest
import KeyRenewal.Proofs.Accounting
import KeyRenewal.Proofs.Idempotence
import KeyRenewal.Proofs.Conflicts
import KeyRenewal.Proofs.Refinement
import KeyRenewal.Proofs.Handles
import KeyRenewal.Proofs.Isolation
import KeyRenewal.Proofs.Recording
import KeyRenewal.Proofs.Answered
import KeyRenewal.Proofs.SafeWindows
import KeyRenewal.Proofs.Rollback
import KeyRenewal.Proofs.Cbor
import KeyRenewal.Proofs.Records
import KeyRenewal.Proofs.Polling
import KeyRenewal.Proofs.SameTransaction
import KeyRenewal.Proofs.FileNames
import KeyRenewal.Proofs.Files
import KeyRenewal.Proofs.KeyFiles
import KeyRenewal.Proofs.Mirroring
import KeyRenewal.Proofs.Dropping
import KeyRenewal.Proofs.Cancellation
import KeyRenewal.Proofs.Resubmission
import KeyRenewal.Proofs.Handovers
import KeyRenewal.Proofs.Coverage
import KeyRenewal.Proofs.Ownership
import KeyRenewal.Proofs.Lifetimes
import KeyRenewal.Proofs.Finality
import KeyRenewal.Proofs.Keeping
import KeyRenewal.Proofs.WellFormed
import KeyRenewal.Proofs.Endings
import KeyRenewal.Proofs.Nodes
import KeyRenewal.Proofs.Scripts
import KeyRenewal.Proofs.Selection
import KeyRenewal.Proofs.Settling
import KeyRenewal.Proofs.Agreement
import KeyRenewal.Proofs.Success
import KeyRenewal.Proofs.Generating
import KeyRenewal.Proofs.Exports
import KeyRenewal.Proofs.StatusChanges
import KeyRenewal.Proofs.Dilution
import KeyRenewal.Proofs.Registry
import KeyRenewal.Proofs.Failures
import KeyRenewal.Proofs.Accepted
import KeyRenewal.Proofs.Fields
import KeyRenewal.Proofs.Json
import KeyRenewal.Proofs.JsonRecords
