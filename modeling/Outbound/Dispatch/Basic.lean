import Outbound.ActiveSet.Basic
import Outbound.Call.Table
import Outbound.Exchange.Basic
import Outbound.Request.Decode

/-! The dispatcher takes requests on, starts their tasks, and sees to it that each ends with one
closing event. An accepted request is in the active set, and its call is in the call table. Aborting
takes it out of both at once and queues a cancel signal, which reaches the task later; the task then
still tells its own end. -/

namespace Outbound

structure Task where
  tag : CallTag
  submission : Submission
  signalled : Bool := false
  deriving DecidableEq, Repr, Inhabited

structure Dispatcher where
  active : ActiveSet := {}
  calls : CallTable := {}
  tasks : List Task := []
  cancels : List CallTag := []
  jar : Jar := {}
  deriving DecidableEq, Repr, Inhabited

namespace Dispatcher

def ofClient (c : Client) : Dispatcher := { jar := c.jar }

/-- What is seen of a dispatcher from outside: that a request is asked for, requests as the hooks
leave them, and events, each with whether its request was active at that moment. That a request
overran is seen by whoever asked for it, and by no listener. -/
inductive Entry
  | asked (id : RequestId)
  | prepared (r : Request)
  | told (e : Event) (active : Bool)
  | overran (id : RequestId)
  deriving DecidableEq, Repr, Inhabited

namespace Entry

def event? : Entry → Option Event
  | .told e _ => some e
  | _ => none

def request? : Entry → Option Request
  | .prepared r => some r
  | _ => none

end Entry

def tell (s : Dispatcher) (e : Event) : Entry := .told e (s.active.contains e.id)

def refuse (s : Dispatcher) (id : RequestId) (f : Failure) : List Entry × Dispatcher :=
  ([s.tell (.ofFailure id f)], s)

/-- Takes out the live call of an identity and queues its signal. -/
def detach (s : Dispatcher) (id : RequestId) : Dispatcher :=
  { s with calls := (s.calls.detach id).2, cancels := s.cancels ++ (s.calls.detach id).1.toList }

def abort (s : Dispatcher) (id : RequestId) : Dispatcher :=
  if s.active.contains id then { s with active := (s.active.remove id).2 }.detach id else s

def shutdown (s : Dispatcher) : Dispatcher :=
  let (taken, active) := s.active.beginShutdown.takeAll
  taken.foldl detach { s with active }

/-- Registers a prepared request and starts its task. Of two requests with one identity the second
is refused. A shutdown may have begun while the request was prepared. -/
def start (s : Dispatcher) (sub : Submission) : List Entry × Dispatcher :=
  match s.calls.tag sub.id with
  | none => s.refuse sub.id (.alreadyInFlight sub.id)
  | some (tag, calls) =>
    let (added, active) := s.active.add sub.id
    if !added then
      { s with calls := (calls.untag tag).2 }.refuse sub.id (.alreadyInFlight sub.id)
    else if active.shuttingDown then
      { s with calls := (calls.untag tag).2, active := (active.remove sub.id).2 }.refuse sub.id
        .shuttingDown
    else ([], { s with calls, active, tasks := s.tasks ++ [{ tag, submission := sub }] })

def submit (env : Environment) (s : Dispatcher) (d : Descriptor) : List Entry × Dispatcher :=
  match (d.prepare env).outcome with
  | .error (.failure f) => s.refuse d.id f
  | .error .overrun => ([.overran d.id], s)
  | .ok sub =>
    let (entries, s) := s.start sub
    (.prepared sub.request :: entries, s)

def dispatch (env : Environment) (s : Dispatcher) (d : Descriptor) : List Entry × Dispatcher :=
  let (entries, s) :=
    if s.active.shuttingDown then s.refuse d.id .shuttingDown else s.submit env d
  (.asked d.id :: entries, s)

/-- Dispatches what a JSON value describes. A value that is no descriptor is refused under its
identity; without one nothing happens. -/
def dispatchJson (env : Environment) (s : Dispatcher) (v : Json) : List Entry × Dispatcher :=
  match Descriptor.ofJson v, Descriptor.readableId? v with
  | .ok d, _ => s.dispatch env d
  | .error f, some id => s.refuse id f
  | .error _, none => ([], s)

def deliver (s : Dispatcher) (tag : CallTag) : Dispatcher :=
  if tag ∈ s.cancels then
    { s with
      cancels := s.cancels.erase tag
      tasks := s.tasks.map fun t => if t.tag = tag then { t with signalled := true } else t }
  else s

def close (s : Dispatcher) (tag : CallTag) : Dispatcher :=
  let (released, calls) := s.calls.untag tag
  { s with
    calls
    active := if released then (s.active.remove tag.id).2 else s.active
    tasks := s.tasks.filter (·.tag ≠ tag) }

/-- Ends a task, and only then tells its closing event. -/
def complete (s : Dispatcher) (tag : CallTag) (o : Outcome) : List Entry × Dispatcher :=
  if s.tasks.any (·.tag = tag) then ([(s.close tag).tell (o.event tag.id)], s.close tag)
  else ([], s)

def requests (id : RequestId) (entries : List Entry) : Nat := entries.count (.asked id)

def closings (id : RequestId) (entries : List Entry) : Nat :=
  (entries.filterMap Entry.event?).countP fun e => e.isTerminal && e.id = id

def pending (s : Dispatcher) (id : RequestId) : Nat := s.tasks.countP (·.tag.id = id)

end Dispatcher
end Outbound
