import Outbound.Text.Ascii
import Outbound.Text.Blank

/-! Tables that tell some characters from the others, or give them numbers. A table is a list of
runs of code points in ascending order. It is written as text, in hexadecimal digits: `300-314:e6`
gives the number `e6` to each of the code points from `300` to `314`, `100-12e/2:101` has every
second code point of its run, and a run of a mere set has no numbers. -/

namespace Outbound.Text

structure Run where
  first : Nat
  last : Nat
  step : Nat := 1
  value : List Nat := []
  deriving DecidableEq, Repr, Inhabited

namespace Run

def holds (r : Run) (code : Nat) : Bool :=
  r.first ≤ code && code ≤ r.last && (code - r.first) % r.step = 0

def read (cs : List Char) : Run :=
  let number := Ascii.value 16
  let (span, value) := (splitOnce ':' cs).getD (cs, [])
  let (span, step) := (splitOnce '/' span).getD (span, ['1'])
  let (first, last) := (splitOnce '-' span).getD (span, span)
  { first := number first, last := number last, step := number step
    value := if value.isEmpty then [] else (split ',' value).map number }

end Run

structure Table where
  runs : Array Run
  deriving DecidableEq, Repr, Inhabited

namespace Table

def ofText (text : String) : Table :=
  let words := (split '\n' text.toList).flatMap (split ' ')
  ⟨((words.filter (!·.isEmpty)).map Run.read).toArray⟩

def search (runs : Array Run) (code low high : Nat) : Option Run :=
  if low < high then
    let middle := (low + high) / 2
    match runs[middle]? with
    | none => none
    | some r =>
      if code < r.first then search runs code low middle
      else if r.last < code then search runs code (middle + 1) high
      else if r.holds code then some r
      else none
  else none
termination_by high - low

def run? (t : Table) (c : Char) : Option Run := search t.runs c.toNat 0 t.runs.size

def contains (t : Table) (c : Char) : Bool := (t.run? c).isSome

theorem holds_of_search {runs : Array Run} {code low high : Nat} {r : Run}
    (h : search runs code low high = some r) : r.holds code = true := by
  fun_induction search runs code low high with
  | case1 => simp at h
  | case2 _ _ _ _ _ _ _ ih => exact ih h
  | case3 _ _ _ _ _ _ _ _ ih => exact ih h
  | case4 => simp_all
  | case5 => simp at h
  | case6 => simp at h

theorem holds_of_run? {t : Table} {c : Char} {r : Run} (h : t.run? c = some r) :
    r.holds c.toNat = true := holds_of_search h

end Table
end Outbound.Text
