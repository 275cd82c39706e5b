import Outbound.Dispatch.Basic
import Outbound.Exchange.Refusal

/-! A session is a dispatcher with a listener, in a place that no network reaches. The listener
notes what it is told, may abort the request of an event that it watches for, and may dispatch one
more request when the first request ends. Once it is disconnected it notes nothing and does nothing.
After each command the session settles: signals reach their tasks, and tasks come to their end. -/

namespace Outbound

structure Listener where
  connected : Bool := true
  aborts : Event → Bool := fun _ => false
  onFirstEnd : Option Json := none

structure Session where
  dispatcher : Dispatcher := {}
  listener : Listener := {}

namespace Session

open Dispatcher (Entry)

inductive Command
  | dispatchJson (v : Json)
  | dispatch (d : Descriptor)
  | abort (id : RequestId)
  | shutdown
  | register (id : RequestId)
  | clearCookies
  | setCookie (u : Url) (header : String)
  | cookies (u : Url)
  | disconnect
  deriving Inhabited

inductive Answer
  | done
  | flag (b : Bool)
  | cookies (text : Option String)
  | clock (e : Clock.Error)
  deriving DecidableEq, Repr, Inhabited

/-- How many requests the listener may still dispatch. -/
def intents (s : Session) : Nat := s.listener.onFirstEnd.toList.length

def abortOn (s : Session) (e : Event) : Session :=
  { s with dispatcher := if s.listener.aborts e then s.dispatcher.abort e.id else s.dispatcher }

/-- What the listener does about an event: it aborts, and then it dispatches. -/
def respond (env : Environment) (s : Session) (e : Event) : List Entry × Session :=
  match e.isTerminal, s.listener.onFirstEnd with
  | true, some v =>
    let (entries, dispatcher) := (s.abortOn e).dispatcher.dispatchJson env v
    (entries, { dispatcher, listener := { s.listener with onFirstEnd := none } })
  | _, _ => ([], s.abortOn e)

theorem respond_intents (env : Environment) (s : Session) (e : Event) :
    (s.respond env e).2.intents < s.intents ∨
      (s.respond env e).1 = [] ∧ (s.respond env e).2.intents = s.intents := by
  unfold respond
  split
  · rename_i h
    left
    simp [intents, h]
  · exact .inr ⟨rfl, rfl⟩

/-- Shows entries to the listener; those that it causes come right behind their cause. -/
def observe (env : Environment) (s : Session) : List Entry → List Entry × Session
  | [] => ([], s)
  | .told e active :: rest =>
    if s.listener.connected then
      let (seen, t) := observe env (s.respond env e).2 ((s.respond env e).1 ++ rest)
      (.told e active :: seen, t)
    else observe env s rest
  | entry :: rest =>
    let (seen, t) := observe env s rest
    (entry :: seen, t)
termination_by entries => (s.intents, entries.length)
decreasing_by
  · rcases s.respond_intents env e with h | ⟨h, h'⟩
    · exact Prod.Lex.left _ _ h
    · rw [h']
      exact Prod.Lex.right _ (by simp [h])
  · exact Prod.Lex.right _ (by simp)
  · exact Prod.Lex.right _ (by simp)

def after (env : Environment) (s : Session) (step : List Entry × Dispatcher) :
    List Entry × Session :=
  observe env { s with dispatcher := step.2 } step.1

def perform (env : Environment) (now : Time) (s : Session) :
    Command → Answer × List Entry × Session
  | .dispatchJson v => (.done, s.after env (s.dispatcher.dispatchJson env v))
  | .dispatch d => (.done, s.after env (s.dispatcher.dispatch env d))
  | .abort id => (.done, s.after env ([], s.dispatcher.abort id))
  | .shutdown => (.done, s.after env ([], s.dispatcher.shutdown))
  | .register id =>
    let (added, active) := s.dispatcher.active.add id
    (.flag added, s.after env ([], { s.dispatcher with active }))
  | .clearCookies =>
    let (had, jar) := s.dispatcher.jar.clear
    (.flag had, s.after env ([], { s.dispatcher with jar }))
  | .setCookie u header =>
    match s.dispatcher.jar.set now u header with
    | .ok (accepted, jar) => (.flag accepted, s.after env ([], { s.dispatcher with jar }))
    | .error e => (.clock e, [], s)
  | .cookies u => (.cookies (s.dispatcher.jar.get? now u), [], s)
  | .disconnect =>
    (if s.listener.connected then .flag true else .done, [],
      { s with listener := { s.listener with connected := false } })

def arrival (t : Task) : Arrival :=
  if t.signalled then .cancelled else .broke (Exchange.refusal t.submission.request)

def runTask (env : Environment) (s : Session) (t : Task) : List Entry × Session :=
  match (Exchange.waiting.step t.submission 0 (arrival t)).2.outcome? with
  | some o => s.after env (s.dispatcher.complete t.tag o)
  | none => ([], s)

def deliverAll (s : Session) : Session :=
  { s with dispatcher := s.dispatcher.cancels.foldl Dispatcher.deliver s.dispatcher }

def runTasks (env : Environment) : Nat → Session → List Entry × Session
  | 0, s => ([], s.deliverAll)
  | rounds + 1, s =>
    match s.deliverAll.dispatcher.tasks with
    | [] => ([], s.deliverAll)
    | t :: _ =>
      let (entries, s) := runTask env s.deliverAll t
      let (more, s) := runTasks env rounds s
      (entries ++ more, s)

/-- Lets everything happen that can happen. Beside the tasks that are there, the listener can cause
one more. -/
def settle (env : Environment) (s : Session) : List Entry × Session :=
  runTasks env (s.dispatcher.tasks.length + s.intents) s

end Session
end Outbound
