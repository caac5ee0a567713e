import Switchboard.Config.FromJson
import Switchboard.Files.Tree
import Switchboard.Main
import Switchboard.Service
import Switchboard.Proofs.Text.Utf8
import Switchboard.Proofs.Text.Order
import Switchboard.Proofs.Decimal.Integer
import Switchboard.Proofs.Hub.Recipients
import Switchboard.Proofs.Hub.Run
import Switchboard.Proofs.Hub.Invariant
import Switchboard.Proofs.Hub.Slice
import Switchboard.Proofs.Hub.Membership
import Switchboard.Proofs.Hub.Flow
import Switchboard.Proofs.Hub.Stream
import Switchboard.Proofs.Hub.Agreement
import Switchboard.Proofs.Hub.Change
import Switchboard.Proofs.Hub.Chronicle
import Switchboard.Proofs.Hub.Announcement
import Switchboard.Proofs.Hub.Lanes
import Switchboard.Proofs.Hub.Passes
import Switchboard.Proofs.Hub.Ordering
import Switchboard.Proofs.Hub.Traffic
import Switchboard.Proofs.Hub.Lookahead
import Switchboard.Proofs.Hub.Memory
import Switchboard.Proofs.Hub.Regrouping
import Switchboard.Proofs.Hub.Concern
import Switchboard.Proofs.Hub.Isolation
import Switchboard.Proofs.Hub.Succession
import Switchboard.Proofs.Hub.Admission
import Switchboard.Proofs.Hub.Tally
import Switchboard.Proofs.Hub.Accounts
import Switchboard.Proofs.Hub.Custody
import Switchboard.Proofs.Hub.Faithful
import Switchboard.Proofs.Hub.Shutdown
import Switchboard.Proofs.Hub.Settling
import Switchboard.Proofs.Hub.Attempt
import Switchboard.Proofs.Config.Fitness
import Switchboard.Proofs.Config.Overriding
import Switchboard.Proofs.Config.Search
import Switchboard.Proofs.Hub.Channels
import Switchboard.Proofs.Json.Reading
import Switchboard.Proofs.Json.Grammar
import Switchboard.Proofs.Json.Strings
import Switchboard.Proofs.Json.Numbers
import Switchboard.Proofs.Json.Numerals
import Switchboard.Proofs.Json.Members
import Switchboard.Proofs.Json.Values
import Switchboard.Proofs.Json.Skipping
import Switchboard.Proofs.Json.Printing
import Switchboard.Proofs.Json.Unique
import Switchboard.Proofs.Json.Acceptance
import Switchboard.Proofs.Json.Canonical
import Switchboard.Proofs.Json.Readable
import Switchboard.Proofs.Message.Written
import Switchboard.Proofs.Message.Decoding
import Switchboard.Proofs.Message.Layout
import Switchboard.Proofs.WebSocket.Confinement
import Switchboard.Proofs.WebSocket.Gateway
import Switchboard.Proofs.WebSocket.Lifecycle
import Switchboard.Proofs.WebSocket.Frames
import Switchboard.Proofs.WebSocket.Draining
import Switchboard.Proofs.WebSocket.Events
import Switchboard.Proofs.WebSocket.Turns
import Switchboard.Proofs.WebSocket.Mirror
import Switchboard.Proofs.WebSocket.Clients
import Switchboard.Proofs.WebSocket.Rest
import Switchboard.Proofs.WebSocket.Operation
import Switchboard.Proofs.WebSocket.Wire
import Switchboard.Proofs.Api.Bodies
import Switchboard.Proofs.Api.Publishing
import Switchboard.Proofs.Api.Payloads
import Switchboard.Proofs.Api.Republishing
import Switchboard.Proofs.Api.Failure
