import Outbound.Progress.Throttle
import Outbound.Text.Utf8

/-! A meter counts the bytes of a stream as they pass, and reports the count at a bounded rate. One
closing report follows: where the known total is reached, or else at the end. -/

namespace Outbound

structure Progress where
  bytes : Nat
  total : Option Nat
  deriving DecidableEq, Repr, Inhabited

namespace Progress

/-- The part that is done, between zero and one. Of an empty transfer all is done. -/
def fraction (p : Progress) : Option Float :=
  p.total.map fun total =>
    if total = 0 then 1.0 else p.bytes.toUInt64.toFloat / total.toUInt64.toFloat

def percent (p : Progress) : Option Nat :=
  p.fraction.map fun f => if f * 100.0 < 100.0 then (f * 100.0).toUInt8.toNat else 100

end Progress

inductive Polled (ε : Type)
  | chunk (data : Bytes)
  | failed (error : ε)
  | pending
  | ended
  deriving DecidableEq, Repr, Inhabited

structure Meter where
  transferred : Nat := 0
  total : Option Nat
  throttle : Throttle
  finished : Bool := false
  deriving DecidableEq, Repr, Inhabited

structure Reading (ε : Type) where
  item : Polled ε
  report : Option Progress
  meter : Meter
  deriving DecidableEq, Repr, Inhabited

namespace Meter

variable {ε : Type}

def start (now : Time) (total : Option Nat) : Meter := { total, throttle := ⟨now⟩ }

def progress (m : Meter) : Progress := ⟨m.transferred, m.total⟩

def reached (m : Meter) : Bool := m.total.any (· ≤ m.transferred)

def count (m : Meter) (now : Time) (size : Nat) : Option Progress × Meter :=
  let m := { m with transferred := m.transferred + size }
  if m.finished then (none, m)
  else
    let (emit, throttle) := m.throttle.ask now m.reached
    if emit then (some m.progress, { m with throttle, finished := m.reached }) else (none, m)

def close (m : Meter) : Option Progress × Meter :=
  if m.finished then (none, m) else (some m.progress, { m with finished := true })

def poll (m : Meter) (now : Time) (item : Polled ε) : Reading ε :=
  let (report, meter) := match item with
    | .chunk data => m.count now data.length
    | .ended => m.close
    | _ => (none, m)
  ⟨item, report, meter⟩

def run (m : Meter) : List (Time × Polled ε) → List (Reading ε)
  | [] => []
  | (now, item) :: rest =>
    let reading := m.poll now item
    reading :: reading.meter.run rest

end Meter
end Outbound
