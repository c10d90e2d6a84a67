import VehicleBus.BitField
import VehicleBus.Clock
import VehicleBus.Config
import VehicleBus.Frame
import VehicleBus.Frame.Link
import VehicleBus.Frame.Text
import VehicleBus.Handshake.Listener
import VehicleBus.Handshake.Requester
import VehicleBus.Handshake.Sequence
import VehicleBus.Hex
import VehicleBus.Identifier
import VehicleBus.Identifier.Control
import VehicleBus.Identifier.Draft
import VehicleBus.Identifier.Family
import VehicleBus.Identifier.Lemmas
import VehicleBus.Identifier.Text
import VehicleBus.Network
import VehicleBus.Node
import VehicleBus.Node.Reception
import VehicleBus.Node.Run
import VehicleBus.Node.Timers
import VehicleBus.Notification
import VehicleBus.Options
import VehicleBus.Proofs.Frame.Kinds
import VehicleBus.Proofs.Handshake.Window
import VehicleBus.Proofs.Network.Contender
import VehicleBus.Proofs.Network.Election
import VehicleBus.Proofs.Node.Deference
import VehicleBus.Proofs.Node.Duties
import VehicleBus.Proofs.Node.Emissions
import VehicleBus.Proofs.Node.Mastery
import VehicleBus.Proofs.Node.Modes
import VehicleBus.Proofs.Node.Stages
import VehicleBus.Proofs.Node.Stance
import VehicleBus.Proofs.Notification.ChangeLog
import VehicleBus.Proofs.TransmitQueue.SortedList
import VehicleBus.Reaction
import VehicleBus.Session
import VehicleBus.Session.Bus
import VehicleBus.Session.Journal
import VehicleBus.Session.Run
import VehicleBus.Session.Runner
import VehicleBus.TimeBase
import VehicleBus.Timing
import VehicleBus.TransmitQueue
import VehicleBus.TransmitQueue.Entry
import VehicleBus.Proofs.Node.Configuration
import VehicleBus.Proofs.Session.Iteration
import VehicleBus.Proofs.Session.Traffic
import VehicleBus.Proofs.Node.Layers
import VehicleBus.Proofs.Handshake.Pace
import VehicleBus.Proofs.Network.Concert
import VehicleBus.Proofs.Network.Overlay
import VehicleBus.Proofs.Network.Summons
import VehicleBus.Proofs.Network.Invitation
import VehicleBus.Proofs.Node.Moves
import VehicleBus.Proofs.Node.Promotion
import VehicleBus.Proofs.Node.Exits
import VehicleBus.Proofs.Node.Watchdog
import VehicleBus.Proofs.Node.Departure
import VehicleBus.Proofs.Node.Echoes
import VehicleBus.Proofs.Session.Echo
import VehicleBus.Proofs.Node.Provenance
import VehicleBus.Proofs.Node.Handshakes
import VehicleBus.Proofs.Node.Coherence
import VehicleBus.Proofs.Node.Roots
import VehicleBus.Proofs.Node.Strays
import VehicleBus.Proofs.Network.Fleet
import VehicleBus.Proofs.Session.OwnFrames
import VehicleBus.Proofs.Session.Inbox
import VehicleBus.Proofs.Session.Inputs
import VehicleBus.Proofs.Node.ModeGraph
import VehicleBus.Proofs.Node.Isolation
import VehicleBus.Proofs.Node.Discipline
import VehicleBus.Proofs.Session.Endings
import VehicleBus.Proofs.Node.Horizon
import VehicleBus.Proofs.Node.Repose
import VehicleBus.Proofs.Session.Course
import VehicleBus.Proofs.Session.Release
import VehicleBus.Proofs.Session.Settling
import VehicleBus.Proofs.Session.Announcements
import VehicleBus.Proofs.Node.Cadence
import VehicleBus.Proofs.Node.Pulses
import VehicleBus.Proofs.Node.ClockShift
import VehicleBus.Proofs.Node.OwnSequence
import VehicleBus.Proofs.Handshake.Recital
import VehicleBus.Proofs.Handshake.Accord
import VehicleBus.Proofs.Node.Service
import VehicleBus.Proofs.Identifier.Coding
import VehicleBus.Proofs.Config.LastWord
import VehicleBus.Proofs.Handshake.Verdicts
import VehicleBus.Proofs.Session.Oldest
