import Rendezvous.Channel.Reader
import Rendezvous.Channel.Serving
import Rendezvous.Channel.Writer
import Rendezvous.Chat
import Rendezvous.Database.Dialogue
import Rendezvous.Database.Schema
import Rendezvous.Database.Statement
import Rendezvous.Database.Store
import Rendezvous.Dealings.Correspondence
import Rendezvous.Dealings.Flow
import Rendezvous.Dealings.Pairing
import Rendezvous.Digest.Sha384
import Rendezvous.Failure
import Rendezvous.Http.Answering
import Rendezvous.Http.Cors
import Rendezvous.Http.MediaType
import Rendezvous.Http.Message
import Rendezvous.Http.Route
import Rendezvous.Identity
import Rendezvous.Json.Number
import Rendezvous.Json.Record
import Rendezvous.Json.Scalar
import Rendezvous.Json.Scan
import Rendezvous.Json.Skip
import Rendezvous.Json.Tagged
import Rendezvous.Json.Value
import Rendezvous.Json.Writer
import Rendezvous.Log.Filter
import Rendezvous.Log.Line
import Rendezvous.Main
import Rendezvous.Message
import Rendezvous.Notice
import Rendezvous.Page
import Rendezvous.Program.Arguments
import Rendezvous.Program.Console
import Rendezvous.Program.Server
import Rendezvous.Program.Stage
import Rendezvous.Program.Upkeep
import Rendezvous.Proofs.Channel.Acceptance
import Rendezvous.Proofs.Channel.Concourse
import Rendezvous.Proofs.Channel.Delivery
import Rendezvous.Proofs.Channel.Farewell
import Rendezvous.Proofs.Channel.Ghosts
import Rendezvous.Proofs.Channel.Hearing
import Rendezvous.Proofs.Channel.Rehearsed
import Rendezvous.Proofs.Channel.Shift
import Rendezvous.Proofs.Database.Agreement
import Rendezvous.Proofs.Database.Queries
import Rendezvous.Proofs.Database.Readings
import Rendezvous.Proofs.Database.Transactions
import Rendezvous.Proofs.Dealings.Isolation
import Rendezvous.Proofs.Dealings.Preferences
import Rendezvous.Proofs.Dealings.Receipts
import Rendezvous.Proofs.Dealings.Sending
import Rendezvous.Proofs.Dealings.Setbacks
import Rendezvous.Proofs.Heartbeat.Evictions
import Rendezvous.Proofs.Heartbeat.IdleClock
import Rendezvous.Proofs.Heartbeat.Patrol
import Rendezvous.Proofs.Heartbeat.Rehearsed
import Rendezvous.Proofs.Heartbeat.Responsive
import Rendezvous.Proofs.Heartbeat.Rounds
import Rendezvous.Proofs.Heartbeat.Verdicts
import Rendezvous.Proofs.Heartbeat.Watch
import Rendezvous.Proofs.Json.Grammar
import Rendezvous.Proofs.Json.Lexemes
import Rendezvous.Proofs.Json.Objects
import Rendezvous.Proofs.Json.Records
import Rendezvous.Proofs.Json.Scalars
import Rendezvous.Proofs.Json.Tagged
import Rendezvous.Proofs.Recurrence.Rehearsed
import Rendezvous.Proofs.Recurrence.Rota
import Rendezvous.Proofs.Service.AccessTokens
import Rendezvous.Proofs.Service.Admission
import Rendezvous.Proofs.Service.Contract
import Rendezvous.Proofs.Service.Course
import Rendezvous.Proofs.Service.Discretion
import Rendezvous.Proofs.Service.Keeping
import Rendezvous.Proofs.Service.Origins
import Rendezvous.Proofs.Service.PageRequests
import Rendezvous.Proofs.Service.Pushes
import Rendezvous.Proofs.Service.Requests
import Rendezvous.Proofs.Service.Scene
import Rendezvous.Proofs.Service.Sharing
import Rendezvous.Proofs.Service.Strangers
import Rendezvous.Proofs.Service.Tokens
import Rendezvous.Proofs.Session.Interchange
import Rendezvous.Proofs.Session.Lifetimes
import Rendezvous.Proofs.Session.SingleUse
import Rendezvous.Proofs.Settings.Environment
import Rendezvous.Proofs.Settings.TokenLists
import Rendezvous.Proofs.Store.Annals
import Rendezvous.Proofs.Store.ChatList
import Rendezvous.Proofs.Store.Chronicle
import Rendezvous.Proofs.Store.Cuts
import Rendezvous.Proofs.Store.Growth
import Rendezvous.Proofs.Store.Likings
import Rendezvous.Proofs.Store.Overview
import Rendezvous.Proofs.Store.Pages
import Rendezvous.Proofs.Store.PairChats
import Rendezvous.Proofs.Store.Permanence
import Rendezvous.Proofs.Store.ReadMarks
import Rendezvous.Proofs.Store.Refusals
import Rendezvous.Proofs.Store.Soundness
import Rendezvous.Proofs.Store.Views
import Rendezvous.Proofs.Store.Walks
import Rendezvous.Proofs.Switchboard.Comings
import Rendezvous.Proofs.Switchboard.Queues
import Rendezvous.Proofs.Switchboard.Signs
import Rendezvous.Proofs.Switchboard.Succession
import Rendezvous.Proofs.Text.Entries
import Rendezvous.Proofs.Text.Form
import Rendezvous.Proofs.Text.Numeral
import Rendezvous.Proofs.Text.Utf8
import Rendezvous.Proofs.Time.Calendar
import Rendezvous.Proofs.Time.Timestamps
import Rendezvous.Proofs.Traffic.Announcement
import Rendezvous.Proofs.Traffic.MutualLikes
import Rendezvous.Proofs.Traffic.Openings
import Rendezvous.Proofs.Traffic.Scene
import Rendezvous.Proofs.Traffic.Stages
import Rendezvous.Proofs.Traffic.StaleLikes
import Rendezvous.Proofs.Wire.Notices
import Rendezvous.Proofs.Wire.Records
import Rendezvous.Proofs.Wire.Signals
import Rendezvous.Recurrence
import Rendezvous.Rehearsal.Database
import Rendezvous.Rehearsal.Keys
import Rendezvous.Rehearsal.Names
import Rendezvous.Rehearsal.Socket
import Rendezvous.Rehearsal.StandIn
import Rendezvous.Rehearsal.Step
import Rendezvous.Rehearsal.Surroundings
import Rendezvous.Rehearsal.Turns
import Rendezvous.Rehearsal.World
import Rendezvous.Session.KeyServer
import Rendezvous.Session.Ledger
import Rendezvous.Session.Token
import Rendezvous.Settings.Address
import Rendezvous.Settings.Environment
import Rendezvous.Settings.Origins
import Rendezvous.Settings.Service
import Rendezvous.Store.Records
import Rendezvous.Store.Request
import Rendezvous.Swipe
import Rendezvous.Switchboard.Connection
import Rendezvous.Switchboard.Registry
import Rendezvous.Switchboard.Round
import Rendezvous.Table
import Rendezvous.Text.Blank
import Rendezvous.Text.CaseTable
import Rendezvous.Text.Form
import Rendezvous.Text.Hex
import Rendezvous.Text.Lowercase
import Rendezvous.Text.Numeral
import Rendezvous.Text.Quoted
import Rendezvous.Text.Split
import Rendezvous.Text.Url
import Rendezvous.Text.Utf8
import Rendezvous.Time.Calendar
import Rendezvous.Time.Timestamp
import Rendezvous.WebSocket.Endpoint
import Rendezvous.WebSocket.Frame
import Rendezvous.Wire.Notice
import Rendezvous.Wire.Record
import Rendezvous.Wire.Request
