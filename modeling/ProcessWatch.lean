import ProcessWatch.Channel
import ProcessWatch.Encoding.Control
import ProcessWatch.Encoding.Event
import ProcessWatch.Encoding.Statistics
import ProcessWatch.Json.Parser
import ProcessWatch.Main
import ProcessWatch.Monitor
import ProcessWatch.SpinLock
import ProcessWatch.Encoding.Filter
import ProcessWatch.Proofs.Index.Consistency
import ProcessWatch.Proofs.Index.Inspection
import ProcessWatch.Proofs.Roster.Models
import ProcessWatch.Proofs.Index.StartOrder
import ProcessWatch.Proofs.Index.Unlinking
import ProcessWatch.Proofs.Roster.Simulation
import ProcessWatch.Proofs.SpinLock.Exclusion
import ProcessWatch.Proofs.Statistics
import ProcessWatch.Proofs.Roster.Capacity
import ProcessWatch.Proofs.History
import ProcessWatch.Proofs.Roster.History
import ProcessWatch.Proofs.Roster.Running
import ProcessWatch.Proofs.Roster.Renumbering
import ProcessWatch.Proofs.Threads.Linearization
import ProcessWatch.Proofs.Channel.Delivery
import ProcessWatch.Proofs.Text.Numeral
import ProcessWatch.Proofs.Command.Grammar
import ProcessWatch.Proofs.Command.Line
import ProcessWatch.Proofs.Console.Conversation
import ProcessWatch.Proofs.Roster.Conservation
import ProcessWatch.Proofs.Roster.Lifetime
import ProcessWatch.Proofs.Roster.Truncation
import ProcessWatch.Proofs.Interleaving
import ProcessWatch.Proofs.Roster.Control
import ProcessWatch.Proofs.Roster.Reports
import ProcessWatch.Proofs.Threads.Independence
import ProcessWatch.Proofs.Json.Lexing
import ProcessWatch.Proofs.Json.Reading
import ProcessWatch.Proofs.Encoding.RoundTrip
import ProcessWatch.Proofs.Console.Export
import ProcessWatch.Proofs.Console.Piping
import ProcessWatch.Proofs.Roster.Average
import ProcessWatch.Proofs.Roster.Range
import ProcessWatch.Proofs.Roster.Chronology
import ProcessWatch.Proofs.Roster.Timekeeping
import ProcessWatch.Proofs.Filter.Update
import ProcessWatch.Proofs.Filter.Verdict
import ProcessWatch.Proofs.Filter.Plain
import ProcessWatch.Proofs.Roster.Logging
import ProcessWatch.Proofs.Settings
import ProcessWatch.Proofs.Console.Transcript
import ProcessWatch.Proofs.Text.Padding
import ProcessWatch.Proofs.CommandName
import ProcessWatch.Proofs.Report.Lines
import ProcessWatch.Proofs.Report.Table
import ProcessWatch.Proofs.Console.Retelling
import ProcessWatch.Proofs.Roster.Recount
