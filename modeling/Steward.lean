import Steward.Broadcast
import Steward.Delivery
import Steward.Event
import Steward.Failure
import Steward.Failure.Body
import Steward.Failure.Reading
import Steward.Failure.Text
import Steward.Fanout
import Steward.Health
import Steward.Health.Report
import Steward.Json.Literal
import Steward.Json.Number
import Steward.Json.Reader
import Steward.Json.Scan
import Steward.Json.Shape
import Steward.Lifecycle
import Steward.Lifecycle.Call
import Steward.Lifecycle.Checking
import Steward.Lifecycle.GivingWay
import Steward.Lifecycle.Next
import Steward.Lifecycle.Starting
import Steward.Lifecycle.Stopping
import Steward.Lifecycle.Tray
import Steward.Log
import Steward.Log.Filter
import Steward.Log.Rule
import Steward.Log.Setup
import Steward.Mailbox
import Steward.Panic
import Steward.Proofs.Absence
import Steward.Proofs.Answers
import Steward.Proofs.Blocks
import Steward.Proofs.Building
import Steward.Proofs.Chronicle
import Steward.Proofs.Clearing
import Steward.Proofs.Closings
import Steward.Proofs.Containment
import Steward.Proofs.Course
import Steward.Proofs.CutShort
import Steward.Proofs.Disclosure
import Steward.Proofs.Doorway
import Steward.Proofs.Ending
import Steward.Proofs.Enrichment
import Steward.Proofs.Enrolment
import Steward.Proofs.Faithful
import Steward.Proofs.Fields
import Steward.Proofs.Following
import Steward.Proofs.Gate
import Steward.Proofs.Gathering
import Steward.Proofs.Json.Containers
import Steward.Proofs.Json.Derivation
import Steward.Proofs.Json.Grammar
import Steward.Proofs.Json.Literals
import Steward.Proofs.Json.Moves
import Steward.Proofs.Json.Numerals
import Steward.Proofs.Json.Rewriting
import Steward.Proofs.Json.Spelling
import Steward.Proofs.Json.Values
import Steward.Proofs.Launch
import Steward.Proofs.Legible
import Steward.Proofs.Listing
import Steward.Proofs.Loudness
import Steward.Proofs.Mailing
import Steward.Proofs.Neighbours
import Steward.Proofs.Overlay
import Steward.Proofs.Passage
import Steward.Proofs.Phase
import Steward.Proofs.Quiescence
import Steward.Proofs.ReadBack
import Steward.Proofs.Record
import Steward.Proofs.Recount
import Steward.Proofs.Relay
import Steward.Proofs.Renumber
import Steward.Proofs.Report
import Steward.Proofs.Retrying
import Steward.Proofs.Ring
import Steward.Proofs.Rounds
import Steward.Proofs.Run
import Steward.Proofs.Server
import Steward.Proofs.Snapshot
import Steward.Proofs.Step
import Steward.Proofs.Step.Converse
import Steward.Proofs.Step.Inversion
import Steward.Proofs.Tolerance
import Steward.Proofs.Trace
import Steward.Proofs.Trial
import Steward.Proofs.TurnedAway
import Steward.Proofs.Turns
import Steward.Proofs.Underway
import Steward.Rehearsal.Audience
import Steward.Rehearsal.Crew
import Steward.Rehearsal.Crowd
import Steward.Rehearsal.Exchange
import Steward.Rehearsal.Listener
import Steward.Rehearsal.Part
import Steward.Rehearsal.Play
import Steward.Rehearsal.Player
import Steward.Rehearsal.Receivers
import Steward.Rehearsal.Script
import Steward.Rehearsal.Stage
import Steward.Rehearsal.StandIn
import Steward.Relay
import Steward.Roster
import Steward.Service
import Steward.Settings
import Steward.Settings.Load
import Steward.Signal
import Steward.Text.Alphanumeric
import Steward.Text.Blank
import Steward.Text.CaseTable
import Steward.Text.CodeRange
import Steward.Text.Decimal
import Steward.Text.LowerCase
import Steward.Text.Pieces
import Steward.Text.Printable
import Steward.Text.Quoted
import Steward.Ticker
import Steward.Turnstile
