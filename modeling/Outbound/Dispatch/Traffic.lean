import Outbound.ActiveSet.Basic
import Outbound.Call.Table

/-! Calls whose operations alternate. Each operation on the active set or on the call table is done
at once, but a call takes several of them, and those of other calls may come in between. A dispatch
tags its call, registers the identity, and takes the tag back if that identity was registered
already. A completion releases the tag and then unregisters the identity; an abort unregisters the
identity and then detaches its call. -/

namespace Outbound

/-- Where a call or an abort stands: what its next operation is. That of a running call is the first
of its completion. -/
inductive Phase
  | registering (tag : CallTag)
  | withdrawing (tag : CallTag)
  | running (tag : CallTag)
  | unregistering (tag : CallTag)
  | detaching (id : RequestId)
  deriving DecidableEq, Repr, Inhabited

structure Traffic where
  active : ActiveSet := {}
  calls : CallTable := {}
  phases : List Phase := []
  deriving DecidableEq, Repr, Inhabited

namespace Traffic

inductive Move
  | dispatch (id : RequestId)
  | abort (id : RequestId)
  | advance (p : Phase)
  deriving DecidableEq, Repr, Inhabited

def replace (s : Traffic) (p : Phase) (next : List Phase) : Traffic :=
  { s with phases := next ++ s.phases.erase p }

def advance (s : Traffic) : Phase → Bool × Traffic
  | .registering tag =>
    let (added, active) := s.active.add tag.id
    (added, { s with active }.replace (.registering tag)
      [if added then .running tag else .withdrawing tag])
  | .withdrawing tag =>
    let (released, calls) := s.calls.untag tag
    (released, { s with calls }.replace (.withdrawing tag) [])
  | .running tag =>
    let (released, calls) := s.calls.untag tag
    (released, { s with calls }.replace (.running tag)
      (if released then [.unregistering tag] else []))
  | .unregistering tag =>
    let (removed, active) := s.active.remove tag.id
    (removed, { s with active }.replace (.unregistering tag) [])
  | .detaching id =>
    let (sender, calls) := s.calls.detach id
    (sender.isSome, { s with calls }.replace (.detaching id) [])

/-- Makes a move. It is noted of a phase whether its operation took effect. -/
def perform (s : Traffic) : Move → List (Phase × Bool) × Traffic
  | .dispatch id =>
    match s.calls.tag id with
    | none => ([], s)
    | some (tag, calls) => ([], { s with calls, phases := .registering tag :: s.phases })
  | .abort id =>
    let (removed, active) := s.active.remove id
    ([], { s with active, phases := if removed then .detaching id :: s.phases else s.phases })
  | .advance p => if p ∈ s.phases then ([(p, (s.advance p).1)], (s.advance p).2) else ([], s)

def performAll (s : Traffic) : List Move → List (Phase × Bool) × Traffic
  | [] => ([], s)
  | m :: ms =>
    let (notes, s) := s.perform m
    let (more, s) := s.performAll ms
    (notes ++ more, s)

end Traffic
end Outbound
