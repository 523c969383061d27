import SubgraphLauncher.Text.Blank
import SubgraphLauncher.Text.Digit
import SubgraphLauncher.Text.Quoted
import SubgraphLauncher.Text.Upper
import SubgraphLauncher.Text.Utf8
import SubgraphLauncher.Decimal.Binary
import SubgraphLauncher.Decimal.Numeral
import SubgraphLauncher.Value.Written
import SubgraphLauncher.Value.Json
import SubgraphLauncher.Endpoint
import SubgraphLauncher.Command
import SubgraphLauncher.Action
import SubgraphLauncher.Event
import SubgraphLauncher.Host.Request
import SubgraphLauncher.Host.Listening
import SubgraphLauncher.Partner.SocketScanner
import SubgraphLauncher.Partner.Console
import SubgraphLauncher.Partner.Notice
import SubgraphLauncher.Partner.Script
import SubgraphLauncher.Host.SearchPath
import SubgraphLauncher.Runner.Session
import SubgraphLauncher.Host.Files
import SubgraphLauncher.Settings.Environment
import SubgraphLauncher.Settings.EnvironmentFile
import SubgraphLauncher.Settings.Overrides
import SubgraphLauncher.Settings.Entries
import SubgraphLauncher.Journal.Basic
import SubgraphLauncher.Main
import SubgraphLauncher.Proofs.Teardown.Task
import SubgraphLauncher.Proofs.Teardown.Pass
import SubgraphLauncher.Proofs.Teardown.Children
import SubgraphLauncher.Proofs.Teardown.Deeds
import SubgraphLauncher.Proofs.Teardown.Completed
import SubgraphLauncher.Proofs.Teardown.Contained
import SubgraphLauncher.Proofs.Frame
import SubgraphLauncher.Proofs.Program.Arguments
import SubgraphLauncher.Proofs.Session.Attempt
import SubgraphLauncher.Proofs.Session.Launch
import SubgraphLauncher.Proofs.Session.Effect
import SubgraphLauncher.Proofs.Session.Launches
import SubgraphLauncher.Proofs.Teardown.Reach
import SubgraphLauncher.Proofs.Session.Discard
import SubgraphLauncher.Proofs.Trace
import SubgraphLauncher.Proofs.Discovery.Events
import SubgraphLauncher.Proofs.Session.Announcements
import SubgraphLauncher.Proofs.Discovery.Turn
import SubgraphLauncher.Proofs.Discovery.Course
import SubgraphLauncher.Proofs.Discovery.Deadline
import SubgraphLauncher.Proofs.Scanning.Clock
import SubgraphLauncher.Proofs.Scanning.Fresh
import SubgraphLauncher.Proofs.Discovery.Novelty
import SubgraphLauncher.Proofs.Scanning.Origin
import SubgraphLauncher.Proofs.Session.Signals
import SubgraphLauncher.Proofs.Scanning.Ports
import SubgraphLauncher.Proofs.Scanning.Probes
import SubgraphLauncher.Proofs.Scanning.Sweep
import SubgraphLauncher.Proofs.Scanning.Scans
import SubgraphLauncher.Proofs.Scanning.Rounds
import SubgraphLauncher.Proofs.Scanning.Hidden
import SubgraphLauncher.Proofs.Program.Command
import SubgraphLauncher.Proofs.Program.Cleanup
import SubgraphLauncher.Proofs.Settings.Precedence
import SubgraphLauncher.Proofs.Settings.Types
import SubgraphLauncher.Proofs.Journal.Files
import SubgraphLauncher.Proofs.Journal.Routing
import SubgraphLauncher.Proofs.Scanning.Answers
import SubgraphLauncher.Proofs.Scanning.Literals
import SubgraphLauncher.Proofs.Scanning.Trail
import SubgraphLauncher.Proofs.Scanning.Report
import SubgraphLauncher.Proofs.Scanning.Open
import SubgraphLauncher.Proofs.Scanning.Complete
import SubgraphLauncher.Proofs.Matching
import SubgraphLauncher.Proofs.Scanning.Listing
import SubgraphLauncher.Proofs.Scanning.Transport
import SubgraphLauncher.Proofs.Scanning.Order
import SubgraphLauncher.Proofs.Scanning.Plain
import SubgraphLauncher.Proofs.Scanning.Failures
import SubgraphLauncher.Proofs.Scanning.Schedule
import SubgraphLauncher.Proofs.Scanning.Authority
import SubgraphLauncher.Proofs.Discovery.Footprint
import SubgraphLauncher.Proofs.Choosing.Numerals
import SubgraphLauncher.Proofs.Choosing.Console
import SubgraphLauncher.Proofs.Program.Layout
import SubgraphLauncher.Proofs.Settings.Stable
import SubgraphLauncher.Proofs.Endpoint.Host
import SubgraphLauncher.Proofs.Endpoint.Projection
