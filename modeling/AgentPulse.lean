import AgentPulse.Beat.Wire
import AgentPulse.Log.Setup
import AgentPulse.Proofs.Advances
import AgentPulse.Proofs.Audit
import AgentPulse.Proofs.Beat.Building
import AgentPulse.Proofs.Beat.Fields
import AgentPulse.Proofs.Beat.RoundTrip
import AgentPulse.Proofs.Bus.Archive
import AgentPulse.Proofs.Bus.Audit
import AgentPulse.Proofs.Bus.Counting
import AgentPulse.Proofs.Bus.Enrolled
import AgentPulse.Proofs.Bus.Fifo
import AgentPulse.Proofs.Bus.Mailbox
import AgentPulse.Proofs.Bus.Operation
import AgentPulse.Proofs.Bus.Order
import AgentPulse.Proofs.Bus.Queue
import AgentPulse.Proofs.Bus.Roster
import AgentPulse.Proofs.Bus.Round
import AgentPulse.Proofs.Bus.Saturation
import AgentPulse.Proofs.Bus.Sound
import AgentPulse.Proofs.Bus.Trail
import AgentPulse.Proofs.Bus.Unsubscribe
import AgentPulse.Proofs.Bus.View
import AgentPulse.Proofs.Capacities
import AgentPulse.Proofs.Carry
import AgentPulse.Proofs.Closing
import AgentPulse.Proofs.Conservation
import AgentPulse.Proofs.Decoding
import AgentPulse.Proofs.Double.Whole
import AgentPulse.Proofs.Enrolment
import AgentPulse.Proofs.Exposition
import AgentPulse.Proofs.Hub.Account
import AgentPulse.Proofs.Hub.Owner
import AgentPulse.Proofs.Hub.Queue
import AgentPulse.Proofs.Hub.Run
import AgentPulse.Proofs.Hub.Sound
import AgentPulse.Proofs.Hub.Step
import AgentPulse.Proofs.Hub.View
import AgentPulse.Proofs.Interfaces
import AgentPulse.Proofs.Isolation
import AgentPulse.Proofs.Json.Arrangement
import AgentPulse.Proofs.Json.Equality
import AgentPulse.Proofs.LastGiven
import AgentPulse.Proofs.Metering
import AgentPulse.Proofs.Metrics.Board
import AgentPulse.Proofs.Metrics.Lines
import AgentPulse.Proofs.Metrics.Registry
import AgentPulse.Proofs.Metrics.Shown
import AgentPulse.Proofs.Presentation
import AgentPulse.Proofs.Producers
import AgentPulse.Proofs.PublishLog
import AgentPulse.Proofs.Readings
import AgentPulse.Proofs.Record.Agreement
import AgentPulse.Proofs.Record.Gathering
import AgentPulse.Proofs.Record.Presentation
import AgentPulse.Proofs.Record.Setting
import AgentPulse.Proofs.Registration
import AgentPulse.Proofs.Separation
import AgentPulse.Proofs.Server.Check
import AgentPulse.Proofs.Server.Table
import AgentPulse.Proofs.Session.Boards
import AgentPulse.Proofs.Session.Run
import AgentPulse.Proofs.Session.Servers
import AgentPulse.Proofs.Storing
import AgentPulse.Proofs.Text.Numeral
import AgentPulse.Proofs.Text.Order
import AgentPulse.Proofs.Text.Utf8
import AgentPulse.Proofs.Tool.Dispatch
import AgentPulse.Proofs.Tool.Listing
import AgentPulse.Session
import AgentPulse.Text.Alphanumeric
