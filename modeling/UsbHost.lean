import UsbHost.Bus.Basic
import UsbHost.Bus.Calls
import UsbHost.Bus.Record
import UsbHost.Bus.Step
import UsbHost.Config.Error
import UsbHost.Config.Load
import UsbHost.Config.Reader
import UsbHost.Config.Settings
import UsbHost.Config.Writer
import UsbHost.Context
import UsbHost.Descriptor
import UsbHost.Device
import UsbHost.Device.Basic
import UsbHost.DeviceList
import UsbHost.Error
import UsbHost.FileTree
import UsbHost.Handle
import UsbHost.Inspect
import UsbHost.Level
import UsbHost.Linked
import UsbHost.Log
import UsbHost.Logging.Field
import UsbHost.Logging.Filter
import UsbHost.Logging.Pattern
import UsbHost.Logging.Pattern.Basic
import UsbHost.Logging.Pattern.CharClass
import UsbHost.Logging.Record
import UsbHost.Logging.Setup
import UsbHost.NativeApi
import UsbHost.Owner.Basic
import UsbHost.Owner.Board
import UsbHost.Owner.Pool
import UsbHost.Policy
import UsbHost.Proofs.Backing
import UsbHost.Proofs.Keyed
import UsbHost.Proofs.Title
import UsbHost.Session.Basic
import UsbHost.Session.Contexts
import UsbHost.Session.Controls
import UsbHost.Session.Descriptors
import UsbHost.Session.Devices
import UsbHost.Session.Handles
import UsbHost.Session.Lists
import UsbHost.Session.Natives
import UsbHost.Session.Resource
import UsbHost.Session.Run
import UsbHost.Slots
import UsbHost.Text.Alphabetic
import UsbHost.Text.Alphanumeric
import UsbHost.Text.Blank
import UsbHost.Text.CaseBlind
import UsbHost.Text.Decimal
import UsbHost.Text.Digit
import UsbHost.Text.Hex
import UsbHost.Text.Natural
import UsbHost.Text.Numeric
import UsbHost.Text.Place
import UsbHost.Text.Quoted
import UsbHost.Text.Ranges
import UsbHost.Text.Split
import UsbHost.Text.Unprintable
import UsbHost.Toml.Document
import UsbHost.Toml.Lexical
import UsbHost.Toml.Moment
import UsbHost.Toml.Number
import UsbHost.Toml.QuotedText
import UsbHost.Toml.Syntax
import UsbHost.Toml.Value
import UsbHost.Toml.Writer
import UsbHost.World
import UsbHost.Proofs.Exchange
import UsbHost.Proofs.NativeCalls
import UsbHost.Proofs.Endings
import UsbHost.Proofs.Operations
import UsbHost.Proofs.Disposal
import UsbHost.Proofs.Client
import UsbHost.Proofs.Custody
import UsbHost.Proofs.Naming
import UsbHost.Proofs.SessionMoves
import UsbHost.Proofs.ClientMoves
import UsbHost.Proofs.Ownership
import UsbHost.Proofs.Claims
import UsbHost.Proofs.Teardown
import UsbHost.Proofs.Refusal
import UsbHost.Proofs.QuoteForms
import UsbHost.Proofs.WrittenConfig
import UsbHost.Proofs.Closing
import UsbHost.Proofs.DropOrder
import UsbHost.Proofs.Governance
import UsbHost.Proofs.Reporting
import UsbHost.Proofs.StepReports
import UsbHost.Proofs.FailureLog
import UsbHost.Proofs.Inheritance
import UsbHost.Proofs.SettingsReach
import UsbHost.Proofs.CallRecords
import UsbHost.Proofs.NativeAccounts
import UsbHost.Proofs.CallAccounts
import UsbHost.Proofs.OverRelease
import UsbHost.Proofs.Conservation
import UsbHost.Proofs.Likeness
import UsbHost.Proofs.LikeOperations
import UsbHost.Proofs.LikeSteps
import UsbHost.Proofs.Views
import UsbHost.Proofs.Forwarding
import UsbHost.Proofs.Indifference
import UsbHost.Proofs.Switching
import UsbHost.Proofs.Codes
import UsbHost.Proofs.Fates
import UsbHost.Proofs.FailedClaims
import UsbHost.Proofs.ListSizes
import UsbHost.Proofs.Positions
import UsbHost.Proofs.PathSearch
import UsbHost.Proofs.PathIdentity
import UsbHost.Proofs.Attachments
import UsbHost.Proofs.Snapshots
import UsbHost.Proofs.QueryForms
import UsbHost.Proofs.Bystanders
import UsbHost.Proofs.HandleRuns
import UsbHost.Proofs.Isolation
import UsbHost.Proofs.KeptDevices
import UsbHost.Proofs.Interfaces
import UsbHost.Proofs.SettingsChecks
import UsbHost.Proofs.Excerpts
import UsbHost.Proofs.Printing
import UsbHost.Proofs.OneLogger
import UsbHost.Proofs.Lookup
import UsbHost.Proofs.Loading
import UsbHost.Proofs.Watched
import UsbHost.Proofs.WatchedCalls
import UsbHost.Proofs.Growth
import UsbHost.Proofs.WatchedRuns
import UsbHost.Proofs.Lengths
import UsbHost.Proofs.Stops
import UsbHost.Proofs.WatchedSteps
import UsbHost.Proofs.Faultless
import UsbHost.Proofs.Issuance
import UsbHost.Proofs.StaleAddresses
