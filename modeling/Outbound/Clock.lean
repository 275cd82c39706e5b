/-! Times are nanoseconds on a clock that never goes back. The clock counts whole seconds in 63
bits, so that a time too far ahead cannot be told. -/

namespace Outbound

abbrev Time := Nat

namespace Clock

def second : Time := 1000000000

def millisecond : Time := 1000000

inductive Error
  | overflow
  deriving DecidableEq, Repr, Inhabited

def Error.message : Error → String
  | .overflow => "overflow when adding duration to instant"

def lastSecond : Nat := 0x7fffffffffffffff

def ahead (now : Time) (seconds : Nat) : Except Error Time :=
  if lastSecond < now / second + seconds then .error .overflow else .ok (now + seconds * second)

end Clock
end Outbound
