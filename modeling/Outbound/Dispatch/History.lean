import Outbound.Dispatch.Basic

/-! Histories of a dispatcher. While a request is prepared, resolver and hooks may act on the same
dispatcher; a history says what they do. Every request is prepared in an environment of its own: a
resolver may know more files the next time, and no boundary is used twice. What a listener does when
it is told an event comes right behind the step that tells it, since telling is the last thing that
any step does. A call that overruns ends there, and whoever made it goes on. -/

namespace Outbound.Dispatcher

inductive Action
  | dispatch (env : Environment) (d : Descriptor) (meanwhile : List Action)
  | abort (id : RequestId)
  | shutdown
  | deliver (tag : CallTag)
  | complete (tag : CallTag) (o : Outcome)
  | register (id : RequestId)

mutual

def perform (s : Dispatcher) : Action → List Entry × Dispatcher
  | .dispatch env d meanwhile =>
    if s.active.shuttingDown then s.dispatch env d
    else
      let (before, s) := performAll s meanwhile
      let (entries, s) := s.submit env d
      (.asked d.id :: before ++ entries, s)
  | .abort id => ([], s.abort id)
  | .shutdown => ([], s.shutdown)
  | .deliver tag => ([], s.deliver tag)
  | .complete tag o => s.complete tag o
  | .register id => ([], { s with active := (s.active.add id).2 })

def performAll (s : Dispatcher) : List Action → List Entry × Dispatcher
  | [] => ([], s)
  | a :: as =>
    let (entries, s) := perform s a
    let (more, s) := performAll s as
    (entries ++ more, s)

end

theorem perform_dispatch_nil (env : Environment) (s : Dispatcher) (d : Descriptor) :
    perform s (.dispatch env d []) = s.dispatch env d := by
  unfold perform
  split
  · rfl
  · simp_all [performAll, dispatch]

end Outbound.Dispatcher
