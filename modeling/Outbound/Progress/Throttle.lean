import Outbound.Clock

/-! Reports are spaced: one that closes a transfer always goes out, any other only when more than
the interval has passed since the last one. -/

namespace Outbound

structure Throttle where
  last : Time
  deriving DecidableEq, Repr, Inhabited

namespace Throttle

def interval : Time := 100 * Clock.millisecond

def due (now last : Time) (done : Bool) : Bool := done || interval < now - last

def ask (t : Throttle) (now : Time) (done : Bool) : Bool × Throttle :=
  if due now t.last done then (true, ⟨now⟩) else (false, t)

def run (t : Throttle) : List (Time × Bool) → List Bool
  | [] => []
  | (now, done) :: rest => (t.ask now done).1 :: (t.ask now done).2.run rest

@[simp] theorem due_done (now last : Time) : due now last true = true := rfl

theorem due_iff {now last : Time} : due now last false = true ↔ interval < now - last := by
  simp [due]

end Throttle
end Outbound
