import ManagedAgent.Decimal.Double
import ManagedAgent.Decimal.Shortest
import ManagedAgent.Digest.Crc32
import ManagedAgent.Digest.Sha256
import ManagedAgent.Duration
import ManagedAgent.Engine
import ManagedAgent.Engine.Display
import ManagedAgent.Error
import ManagedAgent.Gzip.Bits
import ManagedAgent.Gzip.Block
import ManagedAgent.Gzip.Huffman
import ManagedAgent.Gzip.Member
import ManagedAgent.Gzip.Token
import ManagedAgent.Http.Headers
import ManagedAgent.Http.Secured
import ManagedAgent.Http.Sender
import ManagedAgent.Message.Attribute
import ManagedAgent.Message.Config
import ManagedAgent.Message.Connection
import ManagedAgent.Message.Digest
import ManagedAgent.Message.Instruction
import ManagedAgent.Message.Package
import ManagedAgent.Message.Report
import ManagedAgent.NameMap
import ManagedAgent.Network
import ManagedAgent.Network.Client
import ManagedAgent.Proofs.Decimal.Nearest
import ManagedAgent.Proofs.Decimal.Order
import ManagedAgent.Proofs.Decimal.Shortest
import ManagedAgent.Proofs.Digest.Canonical
import ManagedAgent.Proofs.Engine.Life
import ManagedAgent.Proofs.Engine.Setup
import ManagedAgent.Proofs.Gzip.Bits
import ManagedAgent.Proofs.Gzip.Blocks
import ManagedAgent.Proofs.Gzip.Members
import ManagedAgent.Proofs.Gzip.Stable
import ManagedAgent.Proofs.Gzip.Tokens
import ManagedAgent.Proofs.Gzip.Words
import ManagedAgent.Proofs.Http.Requests
import ManagedAgent.Proofs.Network.Delivery
import ManagedAgent.Proofs.Network.Traffic
import ManagedAgent.Proofs.Reader
import ManagedAgent.Proofs.Rehearsal
import ManagedAgent.Proofs.Session.Adoption
import ManagedAgent.Proofs.Session.Announcing
import ManagedAgent.Proofs.Session.Anonymous
import ManagedAgent.Proofs.Session.BackOff
import ManagedAgent.Proofs.Session.Cadence
import ManagedAgent.Proofs.Session.Calls
import ManagedAgent.Proofs.Session.Clock
import ManagedAgent.Proofs.Session.Closed
import ManagedAgent.Proofs.Session.ConfigEffects
import ManagedAgent.Proofs.Session.Course
import ManagedAgent.Proofs.Session.DerivedHash
import ManagedAgent.Proofs.Session.Frame
import ManagedAgent.Proofs.Session.Heeding
import ManagedAgent.Proofs.Session.Identity
import ManagedAgent.Proofs.Session.InForce
import ManagedAgent.Proofs.Session.InUse
import ManagedAgent.Proofs.Session.KeptEndpoint
import ManagedAgent.Proofs.Session.Knowledge
import ManagedAgent.Proofs.Session.Lanes
import ManagedAgent.Proofs.Session.LateRuns
import ManagedAgent.Proofs.Session.LoopFrame
import ManagedAgent.Proofs.Session.LoopSteps
import ManagedAgent.Proofs.Session.Management
import ManagedAgent.Proofs.Session.NewestConfig
import ManagedAgent.Proofs.Session.NewestOffer
import ManagedAgent.Proofs.Session.Notices
import ManagedAgent.Proofs.Session.Numbers
import ManagedAgent.Proofs.Session.OfferRuns
import ManagedAgent.Proofs.Session.Overlap
import ManagedAgent.Proofs.Session.Patience
import ManagedAgent.Proofs.Session.Repetition
import ManagedAgent.Proofs.Session.Slots
import ManagedAgent.Proofs.Session.Switchable
import ManagedAgent.Proofs.Session.TaskFrame
import ManagedAgent.Proofs.Session.TaskSteps
import ManagedAgent.Proofs.Session.Telling
import ManagedAgent.Proofs.Session.Threads
import ManagedAgent.Proofs.Session.Views
import ManagedAgent.Proofs.Session.Wakeups
import ManagedAgent.Proofs.Slot
import ManagedAgent.Proofs.State.Frame
import ManagedAgent.Proofs.State.Operation
import ManagedAgent.Proofs.State.PackageFailures
import ManagedAgent.Proofs.State.PackageSyncs
import ManagedAgent.Proofs.State.PackagesHash
import ManagedAgent.Proofs.State.ServerView
import ManagedAgent.Proofs.State.Telling
import ManagedAgent.Proofs.State.Undelivered
import ManagedAgent.Proofs.Supervisor
import ManagedAgent.Proofs.Wire.Accepting
import ManagedAgent.Proofs.Wire.Buffering
import ManagedAgent.Proofs.Wire.Compression
import ManagedAgent.Proofs.Wire.Container
import ManagedAgent.Proofs.Wire.CutNumber
import ManagedAgent.Proofs.Wire.Digits
import ManagedAgent.Proofs.Wire.Document
import ManagedAgent.Proofs.Wire.Double
import ManagedAgent.Proofs.Wire.Fading
import ManagedAgent.Proofs.Wire.Finite
import ManagedAgent.Proofs.Wire.Grammar
import ManagedAgent.Proofs.Wire.Layout
import ManagedAgent.Proofs.Wire.Meaning
import ManagedAgent.Proofs.Wire.MemberOrder
import ManagedAgent.Proofs.Wire.Messages
import ManagedAgent.Proofs.Wire.Number
import ManagedAgent.Proofs.Wire.Passing
import ManagedAgent.Proofs.Wire.PassingGrammar
import ManagedAgent.Proofs.Wire.Reading
import ManagedAgent.Proofs.Wire.Rearrangement
import ManagedAgent.Proofs.Wire.RecordMeaning
import ManagedAgent.Proofs.Wire.RecordSpelling
import ManagedAgent.Proofs.Wire.RoundTrip
import ManagedAgent.Proofs.Wire.Scalar
import ManagedAgent.Proofs.Wire.Spelling
import ManagedAgent.Proofs.Wire.Text
import ManagedAgent.Proofs.Wire.Tokens
import ManagedAgent.Proofs.Wire.Truncation
import ManagedAgent.Reader
import ManagedAgent.Rehearsal
import ManagedAgent.Rehearsal.Agent
import ManagedAgent.Rehearsal.Run
import ManagedAgent.Rehearsal.Script
import ManagedAgent.Rehearsal.Transport
import ManagedAgent.Session
import ManagedAgent.Session.Dispatch
import ManagedAgent.Session.Gate
import ManagedAgent.Session.Handler
import ManagedAgent.Session.Handlers
import ManagedAgent.Session.Loop
import ManagedAgent.Session.Run
import ManagedAgent.Session.Stage
import ManagedAgent.Session.Transport
import ManagedAgent.Settings
import ManagedAgent.Settings.Display
import ManagedAgent.Settings.Environment
import ManagedAgent.Slot
import ManagedAgent.State
import ManagedAgent.State.Connections
import ManagedAgent.State.Outbox
import ManagedAgent.State.PackageSync
import ManagedAgent.State.Sequence
import ManagedAgent.State.Wakeup
import ManagedAgent.Supervisor
import ManagedAgent.Table
import ManagedAgent.Text.Ascii
import ManagedAgent.Text.Base64
import ManagedAgent.Text.Hex
import ManagedAgent.Text.Quoted
import ManagedAgent.Text.Ranges
import ManagedAgent.Url
import ManagedAgent.Url.Domain
import ManagedAgent.Url.Folding
import ManagedAgent.Url.Host
import ManagedAgent.Url.Percent
import ManagedAgent.Url.Punycode
import ManagedAgent.Wire.Body
import ManagedAgent.Wire.Codec
import ManagedAgent.Wire.Format
import ManagedAgent.Wire.Number
import ManagedAgent.Wire.Reader
import ManagedAgent.Wire.Record
import ManagedAgent.Wire.Tagged
import ManagedAgent.Wire.Text
import ManagedAgent.Wire.Value
