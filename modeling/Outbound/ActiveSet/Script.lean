import Outbound.ActiveSet.Basic

/-! Operations on a set of active requests whose callbacks act on the same set. An operation that
cancels removes first and calls back afterwards, so that a callback sees the set without what is
being cancelled, and may put it in again. -/

namespace Outbound.ActiveSet

/-- The order in which a set gives out what it holds, which may be another each time. -/
structure Enumeration where
  list : List RequestId → List RequestId := fun ids => ids
  perm : ∀ ids, (list ids).Perm ids := by exact fun _ => .rfl

/-- An operation. The callbacks are scripts of further operations. -/
inductive Action
  | add (id : RequestId)
  | remove (id : RequestId)
  | contains (id : RequestId)
  | cancel (id : RequestId) (callback : List Action)
  | cancelAll (callback : RequestId → List Action) (order : Enumeration := {})
  | beginShutdown

inductive Answer
  | flag (b : Bool)
  | taken (ids : List RequestId)
  | done
  deriving DecidableEq, Repr, Inhabited

/-- What is seen of a run: an operation returns, or a callback begins or ends, with the membership
of its identity at that moment. -/
inductive Event
  | returned (answer : Answer)
  | called (id : RequestId) (active : Bool)
  | finished (id : RequestId) (active : Bool)
  deriving DecidableEq, Repr, Inhabited

mutual

def perform (s : ActiveSet) : Action → List Event × ActiveSet
  | .add id => ([.returned (.flag (s.add id).1)], (s.add id).2)
  | .remove id => ([.returned (.flag (s.remove id).1)], (s.remove id).2)
  | .contains id => ([.returned (.flag (s.contains id))], s)
  | .beginShutdown => ([.returned .done], s.beginShutdown)
  | .cancel id callback =>
    let (was, s) := s.remove id
    if was then
      let (events, t) := performAll s callback
      (.called id (s.contains id) :: events ++
        [.finished id (t.contains id), .returned (.flag true)], t)
    else ([.returned (.flag false)], s)
  | .cancelAll callback order =>
    let (ids, s) := s.takeAll
    let taken := order.list ids
    let (events, t) := taken.foldl (fun (seen, s) id =>
      let (events, t) := performAll s (callback id)
      (seen ++ .called id (s.contains id) :: events ++ [.finished id (t.contains id)], t)) ([], s)
    (events ++ [.returned (.taken taken)], t)

def performAll (s : ActiveSet) : List Action → List Event × ActiveSet
  | [] => ([], s)
  | a :: as =>
    let (events, s) := perform s a
    let (more, s) := performAll s as
    (events ++ more, s)

end

end Outbound.ActiveSet
