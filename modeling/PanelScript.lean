import PanelScript.Capacity
import PanelScript.Compiler
import PanelScript.Decimal.Binary64
import PanelScript.Decimal.Reader
import PanelScript.Decimal.Shortest
import PanelScript.Environment
import PanelScript.EnvironmentFile
import PanelScript.Event.Basic
import PanelScript.Event.Bus
import PanelScript.Files
import PanelScript.Gateway.Address
import PanelScript.Gateway.Conversation
import PanelScript.Gateway.Error
import PanelScript.Gateway.Launcher
import PanelScript.Gateway.Link.Basic
import PanelScript.Gateway.Link.Step
import PanelScript.Gateway.Settings
import PanelScript.Json.Basic
import PanelScript.Json.Decode
import PanelScript.Json.Failure
import PanelScript.Json.Literal
import PanelScript.Json.Numeral
import PanelScript.Json.Octets
import PanelScript.Json.Printer
import PanelScript.Json.Reader
import PanelScript.Json.Typed
import PanelScript.Lane
import PanelScript.LiveValue.Basic
import PanelScript.LiveValue.Codec
import PanelScript.LiveValue.Reading
import PanelScript.Machine
import PanelScript.Macro
import PanelScript.Main
import PanelScript.Outcome
import PanelScript.PanelError
import PanelScript.Preferences.Basic
import PanelScript.Preferences.Service
import PanelScript.Runner.Arguments
import PanelScript.Runner.Report
import PanelScript.Runner.Run
import PanelScript.Script.Bindings
import PanelScript.Script.Program
import PanelScript.Script.Unit
import PanelScript.Session.Basic
import PanelScript.Session.Settle
import PanelScript.Session.Step
import PanelScript.Support.Basic
import PanelScript.Support.Error
import PanelScript.Support.Handle
import PanelScript.Support.Settings
import PanelScript.Support.Step
import PanelScript.Text.Blank
import PanelScript.Text.Printable
import PanelScript.Text.Quoted
import PanelScript.Text.Ranges
import PanelScript.Text.Wordlike
import PanelScript.Time.Civil
import PanelScript.Time.Timestamp
import PanelScript.Uuid
import PanelScript.Watcher
import PanelScript.Widget
import PanelScript.Wire.Codec
import PanelScript.Wire.Message
import PanelScript.Proofs.Support.Admission
import PanelScript.Proofs.Support.Lifecycle
import PanelScript.Proofs.Support.Fence
import PanelScript.Proofs.Support.Execution
import PanelScript.Proofs.Support.Report
import PanelScript.Proofs.Support.Places
import PanelScript.Proofs.Support.Drain
import PanelScript.Proofs.Support.Reading
import PanelScript.Proofs.Link.Move
import PanelScript.Proofs.Link.Custody
import PanelScript.Proofs.Link.Deeds
import PanelScript.Proofs.Link.Slots
import PanelScript.Proofs.Link.Search
import PanelScript.Proofs.Link.Balance
import PanelScript.Proofs.Link.Closing
import PanelScript.Proofs.Link.Dialogue
import PanelScript.Proofs.Link.Connectivity
import PanelScript.Proofs.Link.Process
import PanelScript.Proofs.Link.Retry
import PanelScript.Proofs.Link.Effort
import PanelScript.Proofs.Link.Lone
import PanelScript.Proofs.Session.Answer
import PanelScript.Proofs.Session.Takings
import PanelScript.Proofs.Json.Trees
import PanelScript.Proofs.Json.Tokens
import PanelScript.Proofs.Json.ReadBack
import PanelScript.Proofs.Uuid
import PanelScript.Proofs.Time.Civil
import PanelScript.Proofs.Time.Timestamp
import PanelScript.Proofs.Wire.RoundTrip
import PanelScript.Proofs.Support.Release
import PanelScript.Proofs.Event.Conservation
import PanelScript.Proofs.Json.Canonical
import PanelScript.Proofs.Json.Octets
import PanelScript.Proofs.Json.Skipping
import PanelScript.Proofs.LiveValue
import PanelScript.Proofs.Preferences.Loads
import PanelScript.Proofs.Macro.Pieces
import PanelScript.Proofs.Macro.Survivors
import PanelScript.Proofs.Macro.Substitution
import PanelScript.Proofs.Compiler
import PanelScript.Proofs.Session.Watching
import PanelScript.Proofs.Session.Connections
import PanelScript.Proofs.Session.Handles
import PanelScript.Proofs.Session.Imprint
import PanelScript.Proofs.Session.Effort
import PanelScript.Proofs.Session.Single
import PanelScript.Proofs.Session.Rest
import PanelScript.Proofs.Link.Speech
import PanelScript.Proofs.Json.Records
import PanelScript.Proofs.Wire.Reshaping
import PanelScript.Proofs.Decimal.Integers
import PanelScript.Proofs.LiveValue.Numbers
import PanelScript.Proofs.LiveValue.Labels
import PanelScript.Proofs.Runner.CommandLine
import PanelScript.Proofs.Runner.Once
import PanelScript.Proofs.Lane
import PanelScript.Proofs.Launcher.Lifecycle
