import RpcDispatch.Endpoint.Json
import RpcDispatch.Entrypoint.Delegate
import RpcDispatch.Json.Conversion
import RpcDispatch.Main
import RpcDispatch.Scripted.Entrypoint
import RpcDispatch.Scripted.Task
import RpcDispatch.Proofs.Exchange.Effect
import RpcDispatch.Proofs.Exchange.Move
import RpcDispatch.Proofs.Exchange.Answers
import RpcDispatch.Proofs.Exchange.Silence
import RpcDispatch.Proofs.Exchange.Locality
import RpcDispatch.Proofs.Task.Step
import RpcDispatch.Proofs.Task.Lists
import RpcDispatch.Proofs.Task.Ledger
import RpcDispatch.Proofs.Task.Account
import RpcDispatch.Proofs.Task.Reach
import RpcDispatch.Proofs.Task.Tracking
import RpcDispatch.Proofs.Task.Departure
import RpcDispatch.Proofs.Task.Answering
import RpcDispatch.Proofs.Task.Silence
import RpcDispatch.Proofs.Task.Ticket
import RpcDispatch.Proofs.Task.View
import RpcDispatch.Proofs.Task.Concern
import RpcDispatch.Proofs.Wire.Reading
import RpcDispatch.Proofs.Dispatch.Order
import RpcDispatch.Proofs.Dispatch.Routing
import RpcDispatch.Proofs.Dispatch.Enlisted
import RpcDispatch.Proofs.Dispatch.Answering
import RpcDispatch.Proofs.Dispatch.Silence
import RpcDispatch.Proofs.Dispatch.Concern
import RpcDispatch.Proofs.Service.Iteration
import RpcDispatch.Proofs.Service.Run
import RpcDispatch.Proofs.Service.Tracking
import RpcDispatch.Proofs.Service.Answers
import RpcDispatch.Proofs.Service.Silence
import RpcDispatch.Proofs.Service.Traffic
import RpcDispatch.Proofs.Service.Separation
import RpcDispatch.Proofs.Job.Path
import RpcDispatch.Proofs.Job.Round
import RpcDispatch.Proofs.Job.Rounds
import RpcDispatch.Proofs.Delegate.Balance
import RpcDispatch.Proofs.Delegate.Book
import RpcDispatch.Proofs.Delegate.Case
import RpcDispatch.Proofs.Delegate.Growth
import RpcDispatch.Proofs.Delegate.Tally
import RpcDispatch.Proofs.Delegate.Task
import RpcDispatch.Proofs.Delegate.Attendance
import RpcDispatch.Proofs.Delegate.Dispatch
import RpcDispatch.Proofs.Service.Delegation
import RpcDispatch.Proofs.Delegate.Neighbour
import RpcDispatch.Proofs.Delegate.Chronicle
import RpcDispatch.Proofs.Bytes
import RpcDispatch.Proofs.Text.Utf8
import RpcDispatch.Proofs.Wire.Codec
import RpcDispatch.Proofs.Json.Grammar
import RpcDispatch.Proofs.Json.Members
import RpcDispatch.Proofs.Json.Strings
import RpcDispatch.Proofs.Json.Numbers
import RpcDispatch.Proofs.Json.Decoding
import RpcDispatch.Proofs.Json.Reading
import RpcDispatch.Proofs.Json.Printing
import RpcDispatch.Proofs.Json.Portable
import RpcDispatch.Proofs.Rpc.Payload
import RpcDispatch.Proofs.Rpc.Request
import RpcDispatch.Proofs.Rpc.Envelope
import RpcDispatch.Proofs.Rpc.RoundTrip
import RpcDispatch.Proofs.Exchange.Sparing
import RpcDispatch.Proofs.Task.Life
import RpcDispatch.Proofs.Task.Standing
import RpcDispatch.Proofs.Task.Evolution
import RpcDispatch.Proofs.Task.History
import RpcDispatch.Proofs.Task.Sparing
import RpcDispatch.Proofs.Task.Cancellation
import RpcDispatch.Proofs.Task.Withdrawal
import RpcDispatch.Proofs.Exchange.Faults
import RpcDispatch.Proofs.Task.Faults
import RpcDispatch.Proofs.Dispatch.Faults
import RpcDispatch.Proofs.Service.Faults
import RpcDispatch.Proofs.Service.Steps
import RpcDispatch.Proofs.Service.Batching
import RpcDispatch.Proofs.Exchange.Visible
import RpcDispatch.Proofs.Task.Visible
import RpcDispatch.Proofs.Dispatch.Visible
import RpcDispatch.Proofs.Dispatch.Registry
import RpcDispatch.Proofs.Service.Order
import RpcDispatch.Proofs.Dispatch.Framing
import RpcDispatch.Proofs.Task.Refusal
import RpcDispatch.Proofs.Service.Parameters
import RpcDispatch.Proofs.Text.Split
import RpcDispatch.Proofs.Url.Escape
import RpcDispatch.Proofs.Url.Path
import RpcDispatch.Proofs.Url.Ipv6
import RpcDispatch.Proofs.Url.Host
import RpcDispatch.Proofs.Url.Parsing
import RpcDispatch.Proofs.Endpoint.RoundTrip
import RpcDispatch.Proofs.Config.Socket
import RpcDispatch.Proofs.Rpc.Outbound
import RpcDispatch.Proofs.Dispatch.Rejection
import RpcDispatch.Proofs.Dispatch.Outbound
import RpcDispatch.Proofs.Text.Order
import RpcDispatch.Proofs.Dispatch.Reaching
import RpcDispatch.Proofs.Dispatch.Listing
import RpcDispatch.Proofs.Exchange.Copies
import RpcDispatch.Proofs.Inbox
import RpcDispatch.Proofs.Task.Chunks
import RpcDispatch.Proofs.Service.Chunks
import RpcDispatch.Proofs.Json.Typed
import RpcDispatch.Proofs.Json.Variants
import RpcDispatch.Proofs.NormalForm
import RpcDispatch.Proofs.Rpc.Schema
