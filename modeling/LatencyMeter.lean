import LatencyMeter.Word
import LatencyMeter.Text.Blank
import LatencyMeter.Text.Quoted
import LatencyMeter.Decimal.Natural
import LatencyMeter.Decimal.Rounding
import LatencyMeter.Decimal.Binary
import LatencyMeter.Decimal.Fixed
import LatencyMeter.Decimal.Shortest
import LatencyMeter.Decimal.Literal
import LatencyMeter.Duration
import LatencyMeter.Duration.Format
import LatencyMeter.Duration.Parser
import LatencyMeter.Address
import LatencyMeter.Address.Parser
import LatencyMeter.Error
import LatencyMeter.Log
import LatencyMeter.Log.Filter
import LatencyMeter.Payload
import LatencyMeter.Header
import LatencyMeter.Flight
import LatencyMeter.EchoWindow
import LatencyMeter.Histogram
import LatencyMeter.Metrics
import LatencyMeter.Report
import LatencyMeter.Program
import LatencyMeter.Sending
import LatencyMeter.Schedule
import LatencyMeter.Pacer
import LatencyMeter.Probe
import LatencyMeter.Jitter
import LatencyMeter.Calibration
import LatencyMeter.Stream
import LatencyMeter.RoundTrip
import LatencyMeter.Reflector
import LatencyMeter.Reception
import LatencyMeter.LoopbackPath
import LatencyMeter.DatagramPath
import LatencyMeter.Settings.Pair
import LatencyMeter.Settings.Check
import LatencyMeter.Settings.Ping
import LatencyMeter.Settings.Pong
import LatencyMeter.Settings.Jitter
import LatencyMeter.Document
import LatencyMeter.Document.Lexeme
import LatencyMeter.Document.Reader
import LatencyMeter.Settings.Document
import LatencyMeter.Timestamp
import LatencyMeter.Timestamp.Parser
import LatencyMeter.RunRecord
import LatencyMeter.Options
import LatencyMeter.Options.Command
import LatencyMeter.Options.Detail
import LatencyMeter.Options.Usage
import LatencyMeter.Transcript
import LatencyMeter.Session
import LatencyMeter.Session.Ping
import LatencyMeter.Session.Pong
import LatencyMeter.Session.Jitter
import LatencyMeter.Host
import LatencyMeter.Threads
import LatencyMeter.Tool
import LatencyMeter.Main
import LatencyMeter.Proofs.Word
import LatencyMeter.Proofs.EchoHistory
import LatencyMeter.Proofs.Flight
import LatencyMeter.Proofs.RoundTrip.Delivery
import LatencyMeter.Proofs.RoundTrip.Accounting
import LatencyMeter.Proofs.Header
import LatencyMeter.Proofs.Sending.Draft
import LatencyMeter.Proofs.RoundTrip.ReceiveThread
import LatencyMeter.Proofs.RoundTrip.Race
import LatencyMeter.Proofs.Reflector
import LatencyMeter.Proofs.Relay.Inbox
import LatencyMeter.Proofs.Relay.Provenance
import LatencyMeter.Proofs.Histogram.Samples
import LatencyMeter.Proofs.Histogram.OrderStatistic
import LatencyMeter.Proofs.Schedule
import LatencyMeter.Proofs.Sending.Trace
import LatencyMeter.Proofs.Sending.Amid
import LatencyMeter.Proofs.Pacer.CatchUp
import LatencyMeter.Proofs.Pacer.Filler
import LatencyMeter.Proofs.Pacer.Tally
import LatencyMeter.Proofs.Pacer.Timetable
import LatencyMeter.Proofs.Pacer.Delivery
import LatencyMeter.Proofs.RoundTrip.StreamCounts
import LatencyMeter.Proofs.Program.Protocol
import LatencyMeter.Proofs.Sending.Ledger
import LatencyMeter.Proofs.Pacer.Stint
import LatencyMeter.Proofs.Pacer.Campaign
import LatencyMeter.Proofs.Session.Course
import LatencyMeter.Proofs.Session.Phases
import LatencyMeter.Proofs.Session.Wire
import LatencyMeter.Proofs.Loopback.Pickup
import LatencyMeter.Proofs.Loopback.Carriage
import LatencyMeter.Proofs.Loopback.Attendance
import LatencyMeter.Proofs.Loopback.Service
import LatencyMeter.Proofs.Loopback.Answer
import LatencyMeter.Proofs.Loopback.Watch
import LatencyMeter.Proofs.Loopback.Completion
import LatencyMeter.Proofs.Reception
import LatencyMeter.Proofs.Header.Codec
import LatencyMeter.Proofs.Datagram.Framing
import LatencyMeter.Proofs.Datagram.Figures
import LatencyMeter.Proofs.Loopback.Shutdown
import LatencyMeter.Proofs.Histogram.Mean
import LatencyMeter.Proofs.Jitter
import LatencyMeter.Proofs.Pacer.Agreement
import LatencyMeter.Proofs.Reflector.Echoing
import LatencyMeter.Proofs.Text.Blank
import LatencyMeter.Proofs.Text.Respelling
import LatencyMeter.Proofs.Decimal.Natural
import LatencyMeter.Proofs.Settings.Pair
import LatencyMeter.Proofs.Settings.Acceptance
import LatencyMeter.Proofs.Session.Desk
import LatencyMeter.Proofs.Session.Sufficiency
import LatencyMeter.Proofs.Stream.Reporting
import LatencyMeter.Proofs.Decimal.Digits
import LatencyMeter.Proofs.Address.Number
import LatencyMeter.Proofs.Address.Gap
import LatencyMeter.Proofs.Address.Socket
import LatencyMeter.Proofs.Document.Lexeme
import LatencyMeter.Proofs.Document.Restoring
import LatencyMeter.Proofs.Document.Record
import LatencyMeter.Proofs.Settings.RoundTrip
import LatencyMeter.Proofs.Calibration
import LatencyMeter.Proofs.Jitter.Ending
import LatencyMeter.Proofs.Pacer.Bursts
import LatencyMeter.Proofs.Pacer.Termination
import LatencyMeter.Proofs.Session.Deadline
import LatencyMeter.Proofs.Calibration.Ending
import LatencyMeter.Proofs.RoundTrip.Reordering
import LatencyMeter.Proofs.Decimal.Literal
import LatencyMeter.Proofs.Duration.Grammar
import LatencyMeter.Proofs.Text.Pieces
import LatencyMeter.Proofs.Report.Fields
import LatencyMeter.Proofs.Report.Histogram
import LatencyMeter.Proofs.Report.Parameters
import LatencyMeter.Proofs.Sending.Alone
import LatencyMeter.Proofs.Probe
import LatencyMeter.Proofs.Flight.Crowd
import LatencyMeter.Proofs.RoundTrip.Warnings
import LatencyMeter.Proofs.Binary.Significand
import LatencyMeter.Proofs.Binary.Rounding
import LatencyMeter.Proofs.Binary.Packing
import LatencyMeter.Proofs.Binary.Arithmetic
import LatencyMeter.Proofs.Decimal.Fixed
import LatencyMeter.Proofs.Duration.Text
import LatencyMeter.Proofs.Duration.Hundredths
