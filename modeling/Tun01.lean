import Tun01.Lib.OrderedMap
import Tun01.Net.Base
import Tun01.Net.WriteStream
import Tun01.Net.ReadStream
import Tun01.Net.Framing
import Tun01.Net.Poller
import Tun01.Net.PollRound
import Tun01.Net.SockBuffer
import Tun01.Lib.Run
import Tun01.Lib.Doubling
import Tun01.Net.PollArray
import Tun01.Net.Subpoll
import Tun01.Lib.Matcher
import Tun01.Lib.Ledger
import Tun01.Lib.Interleaving
import Tun01.Protocol.Link
import Tun01.Protocol.LinkSafety
import Tun01.Protocol.LinkFlow
import Tun01.Tunnel.ConnectionSpec
import Tun01.Tunnel.State
import Tun01.Tunnel.Connection
import Tun01.Tunnel.Message
import Tun01.Tunnel.Sockets
import Tun01.Tunnel.View
import Tun01.Tunnel.LinkOps
import Tun01.Tunnel.Numbering
import Tun01.Tunnel.Endpoint
import Tun01.Tunnel.Handlers
import Tun01.Tunnel.Outcome
import Tun01.Tunnel.Operations
import Tun01.Tunnel.Scripts
import Tun01.Tunnel.Local
import Tun01.Tunnel.Remote
import Tun01.Tunnel.Handshake
import Tun01.Tunnel.Dispatch
import Tun01.Tunnel.System
import Tun01.Tunnel.Halves
import Tun01.Tunnel.Invariant
import Tun01.Tunnel.Preservation
import Tun01.Tunnel.Delivery
import Tun01.Tunnel.Runs
import Tun01.Tunnel.Detector
import Tun01.Tunnel.PassThrough
import Tun01.Tunnel.Turns
import Tun01.Tunnel.Reachable
import Tun01.Tunnel.Start
import Tun01.Tunnel.LiveLinks
import Tun01.Tunnel.Fields
import Tun01.Tunnel.Frames
import Tun01.Tunnel.LocalRuns
import Tun01.Tunnel.Opening
import Tun01.Tunnel.Clients
import Tun01.Tunnel.Finish
import Tun01.Tunnel.Schedule
import Tun01.Tunnel.Shutdown
import Tun01.Tunnel.Honest
import Tun01.Tunnel.Descriptors
import Tun01.Tunnel.Holding
import Tun01.Tunnel.ServerCalls
import Tun01.Tunnel.LastRound
import Tun01.Net.Codec
import Tun01.Net.FillCalls
import Tun01.Tunnel.Bodies
import Tun01.Tunnel.Table
import Tun01.Tunnel.HangUp
import Tun01.Tunnel.OwnRecords
import Tun01.Tunnel.Output
import Tun01.Tunnel.LinkEvents
import Tun01.Tunnel.Console
import Tun01.Tunnel.LinkRuns
import Tun01.Tunnel.Agreement
import Tun01.Tunnel.Identifiers
import Tun01.Tunnel.Containment
import Tun01.Tunnel.Truncation
import Tun01.Tunnel.Alignment
import Tun01.Tunnel.Packets
import Tun01.Tunnel.Grammar
import Tun01.Tunnel.Options
import Tun01.Tunnel.Flags
import Tun01.Tunnel.SocksSpecs
import Tun01.Protocol.Window
import Tun01.Net.Cursor
import Tun01.Tunnel.Answers
import Tun01.Tunnel.Exchanges
import Tun01.Tunnel.Rounds
import Tun01.Tunnel.Driven
import Tun01.Tunnel.PollLoops
import Tun01.Tunnel.StopAndWait
import Tun01.Tunnel.Refinement
import Tun01.Tunnel.Flight
import Tun01.Tunnel.Leaks
import Tun01.Tunnel.Draining
import Tun01.Tunnel.Carrying
import Tun01.Tunnel.Asking
import Tun01.Tunnel.Served
import Tun01.Tunnel.Requests
import Tun01.Tunnel.Rest
import Tun01.Workers.Sblist
import Tun01.Workers.Server
import Tun01.Workers.Collect
import Tun01.Workers.Table
import Tun01.Workers.Ownership
import Tun01.Workers.Request
import Tun01.Workers.Parsing
import Tun01.Workers.Dialogue
import Tun01.Workers.Relay
import Tun01.Workers.ClientThread
