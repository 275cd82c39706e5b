import Outbound.File.System
import Outbound.Clock

/-! Streams of bytes that are not read yet. A source is read when it is drained: a file is opened by
the first read, and after an error or the end there is nothing more. -/

namespace Outbound

inductive Delivery
  | data (bytes : Bytes)
  | failed (error : IoError)
  deriving DecidableEq, Repr, Inhabited

namespace Delivery

def bytes : Delivery → Bytes
  | .data bytes => bytes
  | .failed _ => []

def content (ds : List Delivery) : Bytes := ds.flatMap bytes

end Delivery

inductive RoomError
  | overflow
  deriving DecidableEq, Repr, Inhabited

namespace RoomError

def message : RoomError → String
  | .overflow => "capacity overflow"

end RoomError

/-- The most room that can be asked for. Room up to it is taken to be there: that memory runs out is
no part of this account. -/
def largestRoom : Nat := 0x7fffffffffffffff

/-- Where the reading of a file is: its path, until the first read opens it, and its handle from then
on. -/
inductive FileRead
  | unopened (path : String)
  | opened (handle : Handle)
  | done
  deriving DecidableEq, Repr, Inhabited

namespace FileRead

def afterRead : Except IoError Bytes × Handle → Option Delivery × FileRead
  | (.ok [], _) => (none, .done)
  | (.ok bytes, h) => (some (.data bytes), .opened h)
  | (.error e, _) => (some (.failed e), .done)

def fetch (room : Nat) (h : Handle) : Except RoomError (Option Delivery × FileRead) :=
  if largestRoom < room then .error .overflow else .ok (afterRead (h.read room))

theorem fetch_eq_ok_iff {room : Nat} {h : Handle} {step : Option Delivery × FileRead} :
    fetch room h = .ok step ↔ room ≤ largestRoom ∧ afterRead (h.read room) = step := by
  unfold fetch
  split
  · simp; omega
  · simp; omega

def next (opens : String → Except IoError Handle) (room : Nat) :
    FileRead → Except RoomError (Option Delivery × FileRead)
  | .unopened path =>
    match opens path with
    | .ok h => fetch room h
    | .error e => .ok (some (.failed e), .done)
  | .opened h => fetch room h
  | .done => .ok (none, .done)

/-- Goes down with every delivery: a read takes a turn, or bytes once no turn is left. -/
def ahead : FileRead → Nat × Nat × Nat
  | .unopened _ => (2, 0, 0)
  | .opened h => (1, h.turns.length, h.rest.length)
  | .done => (0, 0, 0)

abbrev Before : Nat × Nat × Nat → Nat × Nat × Nat → Prop :=
  Prod.Lex (· < ·) (Prod.Lex (· < ·) (· < ·))

variable {opens : String → Except IoError Handle} {room : Nat} {h : Handle}
  {state after : FileRead} {d : Delivery}

theorem ahead_afterRead (hread : afterRead (h.read room) = (some d, after)) :
    Before (ahead after) (ahead (.opened h)) := by
  match heq : h.read room with
  | (.ok [], _) => simp [heq, afterRead] at hread
  | (.ok (b :: bytes), later) =>
    obtain rfl : opened later = after := by simpa [heq, afterRead] using (Prod.mk.inj hread).2
    obtain hturns | ⟨hturns, hrest⟩ := Handle.read_shortens heq (List.cons_ne_nil b bytes)
    · exact .right _ (.left _ _ hturns)
    · exact .right _ (by simpa [ahead, hturns] using .right _ hrest)
  | (.error e, _) =>
    obtain rfl : done = after := by simpa [heq, afterRead] using (Prod.mk.inj hread).2
    exact .left _ _ Nat.one_pos

theorem ahead_next (hnext : next opens room state = .ok (some d, after)) :
    Before (ahead after) (ahead state) := by
  cases state with
  | unopened path =>
    simp only [next] at hnext
    split at hnext
    · have hread := ahead_afterRead (fetch_eq_ok_iff.1 hnext).2
      -- An open file is behind one that is not open yet, whatever is left of it.
      generalize ahead after = rank at hread ⊢
      cases hread with
      | left _ _ hlt => exact .left _ _ (Nat.lt_succ_of_lt hlt)
      | right _ _ => exact .left _ _ Nat.one_lt_two
    · obtain rfl : done = after := (Prod.mk.inj (Except.ok.inj hnext)).2
      exact .left _ _ Nat.two_pos
  | opened h => exact ahead_afterRead (fetch_eq_ok_iff.1 hnext).2
  | done => cases hnext

def drain (opens : String → Except IoError Handle) (room : Nat) (state : FileRead) :
    Except RoomError (List Delivery) :=
  match _hnext : next opens room state with
  | .error e => .error e
  | .ok (none, _) => .ok []
  | .ok (some d, after) => (drain opens room after).map (d :: ·)
termination_by state.ahead
decreasing_by exact ahead_next ‹_›

theorem drain_eq : state.drain opens room =
    match next opens room state with
    | .error e => .error e
    | .ok (none, _) => .ok []
    | .ok (some d, after) => (after.drain opens room).map (d :: ·) := by
  rw [drain]
  split <;> simp_all

end FileRead

inductive ByteSource
  | chunks (items : List (Time × Delivery))
  | file (path : String) (chunkSize : Nat)
  deriving DecidableEq, Repr, Inhabited

namespace ByteSource

def ofBytes (data : Bytes) : ByteSource := .chunks [(0, .data data)]

def drainWith (opens : String → Except IoError Handle) : ByteSource → Except RoomError (List Delivery)
  | .chunks items => .ok (items.map (·.2))
  | .file path chunkSize => (FileRead.unopened path).drain opens chunkSize

def drain (fs : FileSystem) : ByteSource → Except RoomError (List Delivery) := drainWith fs.openFile

end ByteSource
end Outbound
