import RoutingDump.Text.Blank
import RoutingDump.Text.Lowercase
import RoutingDump.Text.Utf8
import RoutingDump.Duration
import RoutingDump.StringSet.Named
import RoutingDump.Resource
import RoutingDump.Filters
import RoutingDump.Record
import RoutingDump.Failure
import RoutingDump.Outcome
import RoutingDump.Notice
import RoutingDump.Opening.Obstacle
import RoutingDump.Opening.Race
import RoutingDump.Reader.Call
import RoutingDump.Medium.Basic
import RoutingDump.Ascii.Format
import RoutingDump.Script
import RoutingDump.Json.Skip
import RoutingDump.Configuration.Load
import RoutingDump.LogFile.Rotation
import RoutingDump.CommandLine.Run
import RoutingDump.Main
import RoutingDump.Proofs.Stream.Lookahead
import RoutingDump.Proofs.Stream.Trace
import RoutingDump.Proofs.Reader.Finite
import RoutingDump.Proofs.Ascii.Findings
import RoutingDump.Proofs.Ascii.Lines
import RoutingDump.Proofs.Medium.ReadLine
import RoutingDump.Proofs.Reader.Live
import RoutingDump.Proofs.Ascii.Decoding
import RoutingDump.Proofs.Medium.TextFile
import RoutingDump.Proofs.Ascii.FiniteDump
import RoutingDump.Proofs.Ascii.Tailing
import RoutingDump.Proofs.Ascii.TextDump
import RoutingDump.Proofs.Opening.Attempts
import RoutingDump.Proofs.Reader.Opening
import RoutingDump.Proofs.Ascii.Interruption
import RoutingDump.Proofs.Opening.Cancellation
import RoutingDump.Proofs.Reader.Latch
import RoutingDump.Proofs.Reader.Slots
import RoutingDump.Proofs.Reader.Outcomes
import RoutingDump.Proofs.Ascii.Taken
import RoutingDump.Proofs.Ascii.NextTime
import RoutingDump.Proofs.Text.Exact
import RoutingDump.Proofs.Ascii.ByteDump
import RoutingDump.Proofs.Ascii.Faults
import RoutingDump.Proofs.Ascii.RoundTrip
import RoutingDump.Proofs.CommandLine.Settings
import RoutingDump.Proofs.CommandLine.Prints
import RoutingDump.Proofs.Ascii.Interval
import RoutingDump.Proofs.Ascii.Grammar
import RoutingDump.Proofs.Configuration.ReadBack
import RoutingDump.Proofs.LogFile.Rotation
import RoutingDump.Proofs.Opening.Backoff
import RoutingDump.Proofs.StringSet.Histories
import RoutingDump.Proofs.Reader.Refused
import RoutingDump.Proofs.Ascii.Rounds
import RoutingDump.Proofs.Record.Names
