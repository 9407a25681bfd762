import TunnelAgent.Access
import TunnelAgent.Address
import TunnelAgent.Address.Isolated
import TunnelAgent.Address.Lookup
import TunnelAgent.Address.Reader
import TunnelAgent.Agent
import TunnelAgent.Agent.Isolated
import TunnelAgent.Backoff
import TunnelAgent.Binary64
import TunnelAgent.Binary64.Text
import TunnelAgent.Bytes
import TunnelAgent.Certificate.Base64
import TunnelAgent.Certificate.Bundle
import TunnelAgent.Certificate.Identity
import TunnelAgent.CommandLine.Directive
import TunnelAgent.CommandLine.Invocation
import TunnelAgent.CommandLine.Launch
import TunnelAgent.CommandLine.LogFilter
import TunnelAgent.CommandLine.LogLine
import TunnelAgent.CommandLine.Options
import TunnelAgent.Config
import TunnelAgent.Config.Reader
import TunnelAgent.Document
import TunnelAgent.Document.Folding
import TunnelAgent.Document.Numbers
import TunnelAgent.Document.Reader
import TunnelAgent.Document.Typed
import TunnelAgent.Duration
import TunnelAgent.FileTree
import TunnelAgent.Frame
import TunnelAgent.Frame.Decoder
import TunnelAgent.Frame.Envelope
import TunnelAgent.Frame.Fault
import TunnelAgent.Frame.Source
import TunnelAgent.Gateway
import TunnelAgent.Gateway.Link
import TunnelAgent.Health
import TunnelAgent.Health.Scenario
import TunnelAgent.Main
import TunnelAgent.Message
import TunnelAgent.Pool
import TunnelAgent.Pool.Timeline
import TunnelAgent.Proofs.Access.Grants
import TunnelAgent.Proofs.Access.History
import TunnelAgent.Proofs.Agent.Destinations
import TunnelAgent.Proofs.Agent.Manifest
import TunnelAgent.Proofs.Agent.Pacing
import TunnelAgent.Proofs.Agent.Steps
import TunnelAgent.Proofs.Backoff.Runs
import TunnelAgent.Proofs.Binary64.Rounding
import TunnelAgent.Proofs.Certificate.CommonName
import TunnelAgent.Proofs.CommandLine.Address
import TunnelAgent.Proofs.Config.Validity
import TunnelAgent.Proofs.Duration.Seconds
import TunnelAgent.Proofs.Frame.Checks
import TunnelAgent.Proofs.Frame.Ending
import TunnelAgent.Proofs.Frame.Fields
import TunnelAgent.Proofs.Frame.Grammar
import TunnelAgent.Proofs.Frame.Reordering
import TunnelAgent.Proofs.Frame.RoundTrip
import TunnelAgent.Proofs.Frame.Schedules
import TunnelAgent.Proofs.Health.Window
import TunnelAgent.Proofs.Message.Canonical
import TunnelAgent.Proofs.Message.Truncation
import TunnelAgent.Proofs.Pool.Retries
import TunnelAgent.Proofs.Registration.Keys
import TunnelAgent.Proofs.Relay.Course
import TunnelAgent.Proofs.Relay.Delivery
import TunnelAgent.Proofs.Relay.Invariant
import TunnelAgent.Proofs.Relay.LocalIds
import TunnelAgent.Proofs.Relay.Locality
import TunnelAgent.Proofs.Relay.Moves
import TunnelAgent.Proofs.Relay.Opening
import TunnelAgent.Proofs.Relay.Operations
import TunnelAgent.Proofs.Relay.Release
import TunnelAgent.Proofs.Relay.Reporting
import TunnelAgent.Proofs.Relay.Reuse
import TunnelAgent.Proofs.Relay.Sharing
import TunnelAgent.Proofs.Relay.Silence
import TunnelAgent.Proofs.Relay.Uplink
import TunnelAgent.Proofs.Serial.Cuts
import TunnelAgent.Proofs.Serial.Exact
import TunnelAgent.Proofs.Session.Beside
import TunnelAgent.Proofs.Session.Cause
import TunnelAgent.Proofs.Session.Cleanup
import TunnelAgent.Proofs.Session.Closing
import TunnelAgent.Proofs.Session.Diary
import TunnelAgent.Proofs.Session.Exchange
import TunnelAgent.Proofs.Session.Favour
import TunnelAgent.Proofs.Session.Gate
import TunnelAgent.Proofs.Session.History
import TunnelAgent.Proofs.Session.Identity
import TunnelAgent.Proofs.Session.Progress
import TunnelAgent.Proofs.Session.Queue
import TunnelAgent.Proofs.Session.Reading
import TunnelAgent.Proofs.Session.Registering
import TunnelAgent.Proofs.Session.Renewal
import TunnelAgent.Proofs.Session.Turn
import TunnelAgent.Proofs.Session.Vigil
import TunnelAgent.Proofs.Session.Wire
import TunnelAgent.Proofs.Socks.Admission
import TunnelAgent.Proofs.Socks.Anonymity
import TunnelAgent.Proofs.Socks.Answering
import TunnelAgent.Proofs.Socks.Conversation
import TunnelAgent.Proofs.Socks.Transcript
import TunnelAgent.Proofs.Text.Decimal
import TunnelAgent.Proofs.Text.Parts
import TunnelAgent.Proofs.Transport.Dispatching
import TunnelAgent.Proofs.Transport.Writer
import TunnelAgent.Proofs.Transport.Writing
import TunnelAgent.Registration
import TunnelAgent.Registration.Scenario
import TunnelAgent.Relay
import TunnelAgent.Relay.Scenario
import TunnelAgent.Relay.Schedule
import TunnelAgent.Relay.Step
import TunnelAgent.Serial
import TunnelAgent.Session
import TunnelAgent.Session.Fault
import TunnelAgent.Session.Handshake
import TunnelAgent.Session.Main
import TunnelAgent.Session.Phase
import TunnelAgent.Session.Scenario
import TunnelAgent.Session.Step
import TunnelAgent.Socks.Metadata
import TunnelAgent.Socks.Negotiation
import TunnelAgent.Supervisor
import TunnelAgent.Text.Classes
import TunnelAgent.Text.Letters
import TunnelAgent.Text.Numeral
import TunnelAgent.Text.Parts
import TunnelAgent.Text.Pattern
import TunnelAgent.Text.Quoted
import TunnelAgent.Text.Terminal
import TunnelAgent.Text.Utf8
import TunnelAgent.Transport.Dispatch
import TunnelAgent.Transport.Fault
import TunnelAgent.Transport.Outgoing
import TunnelAgent.Transport.Reader
import TunnelAgent.Proofs.Socks.Metadata
import TunnelAgent.Proofs.Address.Reading
import TunnelAgent.Proofs.Socks.Addresses
