import Outbound.ActiveSet.Script
import Outbound.Call.Desk
import Outbound.Dispatch.History
import Outbound.Exchange.Upload
import Outbound.Executor
import Outbound.Json.Parser
import Outbound.Session
import Outbound.Signal.Stage
import Outbound.Proofs.Dispatch.Ownership
import Outbound.Proofs.Dispatch.Closing
import Outbound.Proofs.Dispatch.Agreement
import Outbound.Proofs.Dispatch.Abort
import Outbound.Proofs.Dispatch.Shutdown
import Outbound.Proofs.Dispatch.Refusal
import Outbound.Proofs.Text.Progressive
import Outbound.Proofs.Multipart.RoundTrip
import Outbound.Proofs.Multipart.Inquiry
import Outbound.Proofs.Header.Validity
import Outbound.Proofs.Header.Building
import Outbound.Proofs.Header.Multimap
import Outbound.Proofs.Response.Merging
import Outbound.Proofs.Gzip.RoundTrip
import Outbound.Proofs.Request.Draft
import Outbound.Proofs.Request.Encoding
import Outbound.Proofs.Request.Length
import Outbound.Proofs.Request.Identity
import Outbound.Proofs.Request.Upload
import Outbound.Proofs.Request.Grammar
import Outbound.Proofs.Request.Boundary
import Outbound.Proofs.Exchange.Trace
import Outbound.Proofs.Exchange.Delivery
import Outbound.Proofs.Dispatch.Release
import Outbound.Proofs.Dispatch.Separation
import Outbound.Proofs.Call.Linearity
import Outbound.Proofs.ActiveSet.Reentry
import Outbound.Proofs.Traffic.Interleaving
import Outbound.Proofs.Signal.Order
import Outbound.Proofs.Signal.Guard
import Outbound.Proofs.Cookie.Ledger
import Outbound.Proofs.Cookie.Store
import Outbound.Proofs.Cookie.Reach
import Outbound.Proofs.Cookie.Overflow
import Outbound.Proofs.Cookie.Directory
import Outbound.Proofs.Cookie.Sending
import Outbound.Proofs.Progress.Ending
import Outbound.Proofs.Header.Gathering
import Outbound.Proofs.Progress.Spacing
import Outbound.Proofs.File.Streaming
