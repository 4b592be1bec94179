import OfferDispatch.Text.Quoted
import OfferDispatch.Text.Natural
import OfferDispatch.Decimal.Layout
import OfferDispatch.Decimal.Reading
import OfferDispatch.Time.Duration
import OfferDispatch.Time.Instant
import OfferDispatch.Table
import OfferDispatch.Json.Numeral
import OfferDispatch.Json.Reader
import OfferDispatch.Json.Printer
import OfferDispatch.Id.FrameworkId
import OfferDispatch.Matching.Evaluate
import OfferDispatch.Launch.Launcher
import OfferDispatch.Document.Task
import OfferDispatch.Config.Environment
import OfferDispatch.Cluster.Recorder
import OfferDispatch.Session.Backoff
import OfferDispatch.Session.Basic
import OfferDispatch.Tracking.Tracker
import OfferDispatch.Offer.Buffer
import OfferDispatch.Supervision
import OfferDispatch.Scheduler.Action
import OfferDispatch.Scheduler.Operation
import OfferDispatch.Scheduler.Readiness
import OfferDispatch.Online.Watch
import OfferDispatch.Scenario.Notation
import OfferDispatch.Scenario.Report
import OfferDispatch.Pipeline.Demonstration
import OfferDispatch.Main
import OfferDispatch.Proofs.Frame
import OfferDispatch.Proofs.Course
import OfferDispatch.Proofs.Ledger
import OfferDispatch.Proofs.Bookkeeping
import OfferDispatch.Proofs.Names
import OfferDispatch.Proofs.Callbacks
import OfferDispatch.Proofs.Completion
import OfferDispatch.Proofs.Operations
import OfferDispatch.Proofs.Forgetting
import OfferDispatch.Proofs.StoppedSession
import OfferDispatch.Proofs.Turns
import OfferDispatch.Proofs.FirstFit
import OfferDispatch.Proofs.Amounts
import OfferDispatch.Proofs.Suitability
import OfferDispatch.Proofs.PlacementSafety
import OfferDispatch.Proofs.Disposal
import OfferDispatch.Proofs.SessionRecords
import OfferDispatch.Proofs.Lookup
import OfferDispatch.Proofs.Lifecycle
import OfferDispatch.Proofs.Settling
import OfferDispatch.Proofs.IdleSession
import OfferDispatch.Proofs.StaleOffers
import OfferDispatch.Proofs.Separation
import OfferDispatch.Proofs.BufferHistory
import OfferDispatch.Proofs.Watches
import OfferDispatch.Proofs.CommandQueue
import OfferDispatch.Proofs.FrontEnds
import OfferDispatch.Proofs.SessionLife
import OfferDispatch.Proofs.Agendas
import OfferDispatch.Proofs.Calls
import OfferDispatch.Proofs.Agents
import OfferDispatch.Proofs.InStep
import OfferDispatch.Proofs.Rehearsals
import OfferDispatch.Proofs.LaunchOrigin
import OfferDispatch.Proofs.Pledges
import OfferDispatch.Proofs.Receptions
import OfferDispatch.Proofs.Calendar
import OfferDispatch.Proofs.Instants
import OfferDispatch.Proofs.Magnitudes
import OfferDispatch.Proofs.Documents
import OfferDispatch.Proofs.RoundTrips
import OfferDispatch.Proofs.Connections
import OfferDispatch.Proofs.Crowds
import OfferDispatch.Proofs.CrowdBooks
import OfferDispatch.Proofs.Withdrawals
import OfferDispatch.Proofs.Sources
import OfferDispatch.Proofs.LateNews
import OfferDispatch.Proofs.Ports
import OfferDispatch.Proofs.PortRoles
import OfferDispatch.Proofs.Announcements
import OfferDispatch.Proofs.Shortfalls
import OfferDispatch.Proofs.Shares
import OfferDispatch.Proofs.Unmatched
import OfferDispatch.Proofs.Arrangement
import OfferDispatch.Proofs.RecentAgents
import OfferDispatch.Proofs.Intake
import OfferDispatch.Proofs.Submissions
import OfferDispatch.Proofs.Addresses
import OfferDispatch.Proofs.Deadlines
import OfferDispatch.Proofs.Kills
import OfferDispatch.Proofs.Prospects
import OfferDispatch.Proofs.FrameworkIds
import OfferDispatch.Proofs.IdOrder
import OfferDispatch.Proofs.NameOrigins
import OfferDispatch.Proofs.Constraints
import OfferDispatch.Proofs.Walks
import OfferDispatch.Proofs.Numerals
import OfferDispatch.Proofs.Loading
