import TunnelDial.Address.Basic
import TunnelDial.Address.Ip
import TunnelDial.Dial.Clock
import TunnelDial.Dial.Custody
import TunnelDial.Dial.Direct
import TunnelDial.Dial.Gate
import TunnelDial.Dial.Hub
import TunnelDial.Dial.Options
import TunnelDial.Dial.Socket
import TunnelDial.Dial.Socks
import TunnelDial.Dial.Surroundings
import TunnelDial.Failure
import TunnelDial.Header.Basic
import TunnelDial.Http2.Authority
import TunnelDial.Http2.Cause
import TunnelDial.Http2.Client
import TunnelDial.Http2.Endpoint
import TunnelDial.Http2.Frame
import TunnelDial.Http2.HeaderBlock
import TunnelDial.Http2.Reason
import TunnelDial.Http2.Window
import TunnelDial.Lease.Ledger
import TunnelDial.Name.Composition
import TunnelDial.Name.CompositionTable
import TunnelDial.Name.International
import TunnelDial.Name.Label
import TunnelDial.Name.LabelTable
import TunnelDial.Name.Mapping
import TunnelDial.Name.MappingTable
import TunnelDial.Name.Punycode
import TunnelDial.Name.Table
import TunnelDial.Proofs.Dial.Attempts
import TunnelDial.Proofs.Dial.Closing
import TunnelDial.Proofs.Dial.Fares
import TunnelDial.Proofs.Dial.Gate
import TunnelDial.Proofs.Dial.Holders
import TunnelDial.Proofs.Dial.Move
import TunnelDial.Proofs.Dial.Own
import TunnelDial.Proofs.Dial.Run
import TunnelDial.Proofs.Dial.Sharing
import TunnelDial.Proofs.Dial.Slot
import TunnelDial.Proofs.Header.Valid
import TunnelDial.Proofs.Lease.Ledger
import TunnelDial.Proofs.Request.Exchange
import TunnelDial.Proofs.Request.Head
import TunnelDial.Proofs.Request.Reply
import TunnelDial.Proofs.Stream.Sound
import TunnelDial.Proofs.Tunnel.Delivery
import TunnelDial.Proofs.Tunnel.Pump
import TunnelDial.Proxy.Basic
import TunnelDial.Proxy.Locator
import TunnelDial.Rehearsal.Calls
import TunnelDial.Rehearsal.Carrier
import TunnelDial.Rehearsal.Dialing
import TunnelDial.Rehearsal.Handler
import TunnelDial.Rehearsal.LeaseBench
import TunnelDial.Rehearsal.Machine
import TunnelDial.Rehearsal.MuxServer
import TunnelDial.Rehearsal.Plan
import TunnelDial.Rehearsal.Session
import TunnelDial.Rehearsal.Task
import TunnelDial.Rehearsal.TlsServer
import TunnelDial.Rehearsal.Trip
import TunnelDial.Rehearsal.TunnelBench
import TunnelDial.Rehearsal.TunnelCall
import TunnelDial.Rehearsal.World
import TunnelDial.Request.Exchange
import TunnelDial.Request.Head
import TunnelDial.Request.Reply
import TunnelDial.Request.Status
import TunnelDial.Request.Timing
import TunnelDial.Stream.Basic
import TunnelDial.Stream.Peer
import TunnelDial.Stream.Pipe
import TunnelDial.Stream.Record
import TunnelDial.Stream.Script
import TunnelDial.Text.Base64
import TunnelDial.Text.Blank
import TunnelDial.Text.Bytes
import TunnelDial.Text.Numeral
import TunnelDial.Text.Percent
import TunnelDial.Text.Printable
import TunnelDial.Text.Quoted
import TunnelDial.Tls.Handshake
import TunnelDial.Tls.ServerName
import TunnelDial.Tunnel.Channel
import TunnelDial.Tunnel.Mux
import TunnelDial.Tunnel.Plain
import TunnelDial.Tunnel.Upload
import TunnelDial.Proofs.Dial.Negotiation
import TunnelDial.Proofs.Dial.Waiting
import TunnelDial.Tunnel.Tenancy
import TunnelDial.Proofs.Lease.Tenancy
import TunnelDial.Proofs.Lease.Bench
import TunnelDial.Proofs.Text.Lossy
import TunnelDial.Proofs.Text.Numeral
import TunnelDial.Proofs.Request.Bound
import TunnelDial.Proofs.Header.Values
import TunnelDial.Proofs.Request.Fields
import TunnelDial.Proofs.Dial.Requests
import TunnelDial.Proofs.Stream.Patience
import TunnelDial.Proofs.Request.Deadline
import TunnelDial.Proofs.Request.Ending
import TunnelDial.Proofs.Dial.Stalling
import TunnelDial.Proofs.Address.Ip
import TunnelDial.Proofs.Address.ReadBack
import TunnelDial.Proofs.Proxy.Locator
import TunnelDial.Proofs.Proxy.Secrecy
import TunnelDial.Proofs.Text.Coding
import TunnelDial.Proofs.Proxy.Credentials
import TunnelDial.Proofs.Header.Overlay
import TunnelDial.Stream.Use
import TunnelDial.Tunnel.Replay
import TunnelDial.Proofs.Stream.Transcript
import TunnelDial.Proofs.Tunnel.Replay
import TunnelDial.Proofs.Lease.Holding
import TunnelDial.Tunnel.Duplex
import TunnelDial.Proofs.Tunnel.Duplex
import TunnelDial.Proofs.Name.Shown
import TunnelDial.Proofs.Proxy.Host
import TunnelDial.Proofs.Proxy.Normal
import TunnelDial.Proofs.Tunnel.Calls
import TunnelDial.Proofs.Dial.Direct
import TunnelDial.Proofs.Dial.Socket
import TunnelDial.Proofs.Dial.Socks
import TunnelDial.Proofs.Dial.Cancelling
import TunnelDial.Http2.Downloads
import TunnelDial.Proofs.Http2.Body
import TunnelDial.Http2.Traffic
import TunnelDial.Proofs.Http2.Traffic
import TunnelDial.Proofs.Request.Status
