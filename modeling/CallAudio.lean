import CallAudio.Command
import CallAudio.CommandLine
import CallAudio.CommandLine.Help
import CallAudio.CommandLine.Request
import CallAudio.Device
import CallAudio.Event
import CallAudio.Files
import CallAudio.Files.Rehearsal
import CallAudio.Files.Tree
import CallAudio.Handset
import CallAudio.Host
import CallAudio.Kind
import CallAudio.Kind.Spelling
import CallAudio.Listeners
import CallAudio.Log
import CallAudio.Main
import CallAudio.Path
import CallAudio.Platform
import CallAudio.PreferredOrder
import CallAudio.Route
import CallAudio.RoutingError
import CallAudio.Scenario
import CallAudio.Scenario.Play
import CallAudio.Scenario.Step
import CallAudio.Selector
import CallAudio.Settings
import CallAudio.Settings.Storage
import CallAudio.Switch
import CallAudio.Switch.Callbacks
import CallAudio.Switch.Session
import CallAudio.Text.Blank
import CallAudio.Text.Control
import CallAudio.Text.Lowercase
import CallAudio.Text.Plain
import CallAudio.Text.Quoted
import CallAudio.Toml.Codec
import CallAudio.Toml.Date
import CallAudio.Toml.Document
import CallAudio.Toml.Draft
import CallAudio.Toml.Number
import CallAudio.Toml.Printer
import CallAudio.Toml.Quotes
import CallAudio.Toml.Reader
import CallAudio.Toml.Value
import CallAudio.Tracker
import CallAudio.Wired
import CallAudio.Proofs.Run
import CallAudio.Proofs.Arrangement
import CallAudio.Proofs.LinkSteps
import CallAudio.Proofs.Headsets
import CallAudio.Proofs.Selection
import CallAudio.Proofs.Reselection
import CallAudio.Proofs.Routing
import CallAudio.Proofs.Fallback
import CallAudio.Proofs.Consistency
import CallAudio.Proofs.Operations
import CallAudio.Proofs.Holdings
import CallAudio.Proofs.Reports
import CallAudio.Proofs.Mirror
import CallAudio.Proofs.Registration
import CallAudio.Proofs.Availability
import CallAudio.Proofs.Attachment
import CallAudio.Proofs.LinkCommands
import CallAudio.Proofs.LinkBeats
import CallAudio.Proofs.BorrowedLink
import CallAudio.Proofs.Supervision
import CallAudio.Proofs.Focus
import CallAudio.Proofs.Layers
import CallAudio.Proofs.Restart
import CallAudio.Proofs.Release
import CallAudio.Proofs.Veils
import CallAudio.Proofs.Logging
import CallAudio.Proofs.ClosedGate
import CallAudio.Proofs.Draining
import CallAudio.Proofs.Sessions
import CallAudio.Proofs.Staleness
import CallAudio.Proofs.Notices
import CallAudio.Proofs.Silence
import CallAudio.Proofs.Requests
import CallAudio.Proofs.Bans
import CallAudio.Proofs.Agreement
import CallAudio.Proofs.Schedules
import CallAudio.Proofs.Shifts
import CallAudio.Proofs.Dealings
import CallAudio.Proofs.Restoring
import CallAudio.Proofs.Loudspeaker
import CallAudio.Proofs.Pairings
import CallAudio.Proofs.Plays
import CallAudio.Proofs.Setbacks
import CallAudio.Proofs.Pins
import CallAudio.Proofs.PinLaw
import CallAudio.Proofs.Attempts
import CallAudio.Proofs.DrainCount
import CallAudio.Proofs.RouteCommands
import CallAudio.Proofs.Deadlines
import CallAudio.Proofs.DroppedLinks
import CallAudio.Proofs.Reactivation
import CallAudio.Proofs.TrackerHistory
import CallAudio.Proofs.RouteChanges
import CallAudio.Proofs.FailedRoutes
import CallAudio.Proofs.Spellings
import CallAudio.Proofs.Rankings
import CallAudio.Proofs.StableOrder
import CallAudio.Proofs.Waiting
import CallAudio.Proofs.Readings
import CallAudio.Proofs.QuotedTexts
import CallAudio.Proofs.WrittenValues
import CallAudio.Proofs.WrittenSections
import CallAudio.Proofs.SavedSettings
