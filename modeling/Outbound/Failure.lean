import Outbound.Request.Id

/-! Why a request ends without success. A request is refused while it is prepared, or it fails on
the way. The message is what the caller reads in the closing event. -/

namespace Outbound

inductive IoKind
  | notFound
  | permissionDenied
  | connectionRefused
  | connectionReset
  | connectionAborted
  | notConnected
  | addrInUse
  | brokenPipe
  | alreadyExists
  | wouldBlock
  | isADirectory
  | invalidInput
  | invalidData
  | timedOut
  | writeZero
  | interrupted
  | unsupported
  | unexpectedEof
  | outOfMemory
  | other
  deriving DecidableEq, Repr, Inhabited

structure IoError where
  kind : IoKind
  text : String
  deriving DecidableEq, Repr, Inhabited

inductive ExchangePhase
  | building
  | connecting
  | waiting
  | other
  deriving DecidableEq, Repr, Inhabited

structure ExchangeError where
  phase : ExchangePhase
  text : String
  deriving DecidableEq, Repr, Inhabited

inductive ExecutorError
  | creationFailed (reason : IoError)
  | alreadyInitialized
  deriving DecidableEq, Repr, Inhabited

def ExecutorError.message : ExecutorError → String
  | .creationFailed reason => "failed to create async runtime: " ++ reason.text
  | .alreadyInitialized => "global async runtime is already initialized"

inductive Failure
  | invalidHeaders
  | missingContentType
  | gzip
  | fileNotFound (uri : String)
  | invalidPartHeaders
  | missingPartContentType
  | unrecognizedPart
  | unrecognizedBody
  | invalidDescriptor (reason : String)
  | invalidMethod (method : String)
  | invalidUrl (reason : String)
  | alreadyInFlight (id : RequestId)
  | shuttingDown
  | timeout
  | connection (reason : String)
  | request (reason : String)
  | io (reason : String)
  | proxy (reason : String)
  | cancelled
  | executor (reason : String)
  deriving DecidableEq, Repr, Inhabited

namespace Failure

def message : Failure → String
  | .invalidHeaders => "Unrecognized headers format"
  | .missingContentType => "Payload is set but no content-type header specified"
  | .gzip => "Failed to gzip request body"
  | .fileNotFound uri => "Could not retrieve file for uri " ++ uri
  | .invalidPartHeaders => "Missing or invalid header format for FormData part."
  | .missingPartContentType => "Binary FormData part needs a content-type header."
  | .unrecognizedPart => "Unrecognized FormData part."
  | .unrecognizedBody => "Unrecognized request body format"
  | .invalidDescriptor reason => "Invalid request descriptor: " ++ reason
  | .invalidMethod method => "Invalid HTTP method: " ++ method
  | .invalidUrl reason => "Invalid URL: " ++ reason
  | .alreadyInFlight id => "Request " ++ id.text ++ " is already in flight"
  | .shuttingDown => "Networking is shutting down"
  | .timeout => "Request timed out"
  | .connection reason => "Connection error: " ++ reason
  | .request reason => reason
  | .io reason => "I/O error: " ++ reason
  | .proxy reason => "Proxy error: " ++ reason
  | .cancelled => "Request was cancelled"
  | .executor reason => "Async runtime unavailable: " ++ reason

def isTimeout : Failure → Bool
  | .timeout => true
  | _ => false

def isValidation : Failure → Bool
  | .timeout | .connection _ | .request _ | .io _ | .proxy _ | .cancelled | .executor _ => false
  | _ => true

def ofExchange (e : ExchangeError) : Failure :=
  match e.phase with
  | .waiting => .timeout
  | .connecting => .connection e.text
  | .building => .invalidUrl e.text
  | .other => .request e.text

def ofIo (e : IoError) : Failure := if e.kind = .timedOut then .timeout else .io e.text

def ofExecutor (e : ExecutorError) : Failure := .executor e.message

end Failure

/-- What ends an attempt: a failure, which somebody is told, or an overrun. Then a sum, which is
checked, comes to more than 64 bits hold, or a list to more fields than a map has room for; the
attempt breaks off, and nobody is told. -/
inductive Halt
  | failure (f : Failure)
  | overrun
  deriving DecidableEq, Repr, Inhabited

end Outbound
