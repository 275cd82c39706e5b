import Outbound.Clock
import Outbound.Json.Decode

/-! Lengths of time in nanoseconds. On the outside a length is a number of whole seconds, in 64
bits, and the nanoseconds over. -/

namespace Outbound

abbrev Duration := Nat

namespace Duration

def ofMs (ms : Nat) : Duration := ms * Clock.millisecond

def ms (d : Duration) : Nat := d / Clock.millisecond

def secs (d : Duration) : Nat := d / Clock.second

def nanos (d : Duration) : Nat := d % Clock.second

def inUnit (d unit : Nat) (name : String) : String :=
  let width := (Ascii.decimal unit).length - 1
  let digits := Ascii.decimal (d % unit)
  let padded := List.replicate (width - digits.length) '0' ++ digits
  let fraction := (padded.reverse.dropWhile (· = '0')).reverse
  let point := if d % unit = 0 then [] else '.' :: fraction
  String.ofList (Ascii.decimal (d / unit) ++ point) ++ name

def debug (d : Duration) : String :=
  if Clock.second ≤ d then inUnit d Clock.second "s"
  else if Clock.millisecond ≤ d then inUnit d Clock.millisecond "ms"
  else if 1000 ≤ d then inUnit d 1000 "µs"
  else inUnit d 1 "ns"

open Json (DecodeError Reader)

structure Draft where
  secs : Option Nat := none
  nanos : Option Nat := none

def names : List String := ["secs", "nanos"]

def expected : String := "struct Duration"

def Draft.put (d : Draft) (name : String) (v : Json) : Except DecodeError Draft :=
  match name with
  | "secs" => (Reader.nat64 v).map fun n => { d with secs := some n }
  | "nanos" => (Reader.nat32 v).map fun n => { d with nanos := some n }
  | _ => .error (.unknownField name names)

def Draft.finish (d : Draft) : Except DecodeError Duration := do
  let some secs := d.secs | throw (.missingField "secs")
  let some nanos := d.nanos | throw (.missingField "nanos")
  let total := secs * Clock.second + nanos
  if Word.count64 * Clock.second ≤ total then throw (.refused "overflow deserializing Duration")
  return total

def read : Reader Duration
  | .object members => Reader.fields {} Draft.put members >>= Draft.finish
  | .array items => Reader.positional names names.length expected {} Draft.put Draft.finish items
  | v => .error (.invalidType v expected)

end Duration
end Outbound
