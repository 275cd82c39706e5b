import Outbound.Dispatch.Submission
import Outbound.Event
import Outbound.Progress.Meter
import Outbound.Response

/-! What a request task tells while its exchange goes on. The head of the response comes first, then
the body: text that is wanted as it arrives is told piece by piece, any other body is gathered and
told as a whole. The exchange is over at its end, at an error, or when it is cancelled. -/

namespace Outbound

inductive Outcome
  | finished
  | failed (f : Failure)
  | cancelled
  deriving DecidableEq, Repr, Inhabited

def Outcome.event (id : RequestId) : Outcome → Event
  | .finished => .requestComplete id
  | .failed f => .ofFailure id f
  | .cancelled => .requestCancelled id

@[simp] theorem Outcome.id_event (id : RequestId) (o : Outcome) : (o.event id).id = id := by
  cases o <;> rfl

@[simp] theorem Outcome.isTerminal_event (id : RequestId) (o : Outcome) :
    (o.event id).isTerminal = true := by
  cases o <;> rfl

structure ResponseHead where
  status : Nat
  fields : FieldMap Bytes := {}
  url : Url
  length : Option Nat := none
  deriving DecidableEq, Repr, Inhabited

inductive Arrival
  | head (h : ResponseHead)
  | chunk (data : Bytes)
  | ended
  | broke (e : ExchangeError)
  | timedOut
  | cancelled
  deriving DecidableEq, Repr, Inhabited

/-- How a body is taken in: decoded as it arrives, or gathered, with a meter if its progress is
reported. -/
inductive Intake
  | text (decoder : Decoder) (read : Nat)
  | whole (body : Bytes) (meter : Option Meter)
  deriving DecidableEq, Repr, Inhabited

namespace Intake

def start (s : Submission) (now : Time) (total : Option Nat) : Intake :=
  if s.incremental && s.responseType.isText then .text {} 0
  else .whole [] (if s.effective.reportsDownload then some (.start now total) else none)

def tellText (id : RequestId) (total : Option Nat) (read : Nat) (decoded : List Char) :
    List Event :=
  if decoded.isEmpty then []
  else [.incrementalDataReceived id (String.ofList decoded) read total]

def readPieces (id : RequestId) (total : Option Nat) (decoder : Decoder) (read : Nat) :
    List Bytes → List Event × Decoder × Nat
  | [] => ([], decoder, read)
  | piece :: pieces =>
    let read := read + piece.length
    let (decoded, decoder) := decoder.push piece
    let (events, decoder, final) := readPieces id total decoder read pieces
    (tellText id total read decoded ++ events, decoder, final)

def tellProgress (id : RequestId) (report : Option Progress) : List Event :=
  report.toList.map fun p => .dataReceivedProgress id p.bytes p.total

def chunk (id : RequestId) (total : Option Nat) (now : Time) (data : Bytes) :
    Intake → List Event × Intake
  | .text decoder read =>
    let (events, decoder, read) := readPieces id total decoder read (Response.pieces data)
    (events, .text decoder read)
  | .whole body none => ([], .whole (body ++ data) none)
  | .whole body (some meter) =>
    let (report, meter) := meter.count now data.length
    (tellProgress id report, .whole (body ++ data) (some meter))

def finish (id : RequestId) (type : ResponseType) (total : Option Nat) : Intake → List Event
  | .text decoder read => tellText id total read decoder.finish.1
  | .whole body meter =>
    tellProgress id (meter.bind (·.close.1)) ++
      [.dataReceived id (Response.encodeBody type body)]

end Intake

inductive Exchange
  | waiting
  | receiving (total : Option Nat) (intake : Intake)
  | closed (outcome : Outcome)
  deriving DecidableEq, Repr, Inhabited

namespace Exchange

def step (s : Submission) (now : Time) : Exchange → Arrival → List Event × Exchange
  | .closed outcome, _ => ([], .closed outcome)
  | _, .broke e => ([], .closed (.failed (.ofExchange e)))
  | _, .timedOut => ([], .closed (.failed .timeout))
  | _, .cancelled => ([], .closed .cancelled)
  | .waiting, .head h =>
    ([.responseReceived s.id h.status (Response.headers h.fields) h.url.text],
      .receiving h.length (.start s now h.length))
  | .receiving total intake, .chunk data =>
    let (events, intake) := intake.chunk s.id total now data
    (events, .receiving total intake)
  | .receiving total intake, .ended =>
    (intake.finish s.id s.responseType total, .closed .finished)
  | x, _ => ([], x)

def run (s : Submission) (x : Exchange) : List (Time × Arrival) → List Event × Exchange
  | [] => ([], x)
  | (now, a) :: rest =>
    let (events, x) := x.step s now a
    let (more, x) := run s x rest
    (events ++ more, x)

def outcome? : Exchange → Option Outcome
  | .closed outcome => some outcome
  | _ => none

@[simp] theorem step_closed (s : Submission) (now : Time) (o : Outcome) (a : Arrival) :
    step s now (.closed o) a = ([], .closed o) := by
  cases a <;> rfl

theorem run_closed (s : Submission) (o : Outcome) (arrivals : List (Time × Arrival)) :
    run s (.closed o) arrivals = ([], .closed o) := by
  induction arrivals with
  | nil => rfl
  | cons a rest ih => simp [run, ih]

end Exchange
end Outbound
