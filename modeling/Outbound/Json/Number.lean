import Outbound.Json.Basic

/-! The numbers of JSON text. A number with neither point nor exponent that fits 64 bits is a whole
number. Any other is read by scaling: the digits that fit 64 bits become a binary64, which is
multiplied or divided by a power of ten, so that the last bit can differ from the nearest number. -/

namespace Outbound.Json

structure Numeral where
  negative : Bool
  whole : List Char
  fraction : Option (List Char)
  exponent : Option (Bool × List Char)
  deriving DecidableEq, Repr

namespace Numeral

def limit : Nat := Word.count64

def gather (value : Nat) : List Char → Nat × List Char
  | [] => (value, [])
  | c :: cs =>
    let next := value * 10 + Ascii.hexValue c
    if next < limit then gather next cs else (value, c :: cs)

def significand (n : Numeral) : Nat × Int :=
  let (value, left) := gather 0 n.whole
  let digits := n.fraction.getD []
  let (value, unread) := gather value digits
  (value, (left.length : Int) + unread.length - digits.length)

def signed (negative : Bool) (f : Float) : UInt64 := (if negative then -f else f).toBits

def divide (f : Float) : Nat → Nat → Float
  | 0, _ => f
  | fuel + 1, k =>
    if k ≤ 308 then f / Float.ofScientific 1 false k
    else if f == 0.0 then f
    else divide (f / Float.ofScientific 1 false 308) fuel (k - 308)

def scale (value : Nat) (power : Int) : Option Float :=
  let f := value.toUInt64.toFloat
  if power < 0 then
    let k := (-power).toNat
    some (divide f (k / 308 + 1) k)
  else if f == 0.0 then some f
  else if 308 < power then none
  else
    let g := f * Float.ofScientific 1 false power.toNat
    if g.isInf then none else some g

/-- An exponent of this size or more is not added up but taken as out of range at once. -/
def exponentLimit : Nat := 0x80000000

def toFloat? (n : Numeral) : Option UInt64 :=
  let (value, power) := n.significand
  match n.exponent with
  | none => (scale value power).map (signed n.negative)
  | some (negative, digits) =>
    let e := Ascii.value 10 digits
    if exponentLimit ≤ e then
      if value ≠ 0 && !negative then none else some (signed n.negative 0.0)
    else (scale value (power + if negative then -(e : Int) else e)).map (signed n.negative)

def spanDigits (cs : List Char) : List Char × List Char :=
  (cs.takeWhile Char.isDigit, cs.dropWhile Char.isDigit)

def exponent? : List Char → Option (Option (Bool × List Char))
  | [] => some none
  | c :: cs =>
    if c = 'e' || c = 'E' then
      let (negative, cs) := match cs with
        | '-' :: cs => (true, cs)
        | '+' :: cs => (false, cs)
        | _ => (false, cs)
      let (digits, rest) := spanDigits cs
      if digits.isEmpty || !rest.isEmpty then none else some (some (negative, digits))
    else none

def ofChars? (cs : List Char) : Option Numeral :=
  let (negative, cs) := match cs with
    | '-' :: cs => (true, cs)
    | _ => (false, cs)
  let (whole, rest) := spanDigits cs
  if whole.isEmpty || (whole.length ≠ 1 && whole.head? = some '0') then none
  else match rest with
    | '.' :: rest =>
      let (digits, rest) := spanDigits rest
      if digits.isEmpty then none
      else (exponent? rest).map (⟨negative, whole, some digits, ·⟩)
    | _ => (exponent? rest).map (⟨negative, whole, none, ·⟩)

/-- The value of a numeral; none when it is out of range. Minus zero is no whole number. -/
def toNumber? (n : Numeral) : Option Number :=
  if n.fraction.isNone && n.exponent.isNone then
    let value := Ascii.value 10 n.whole
    if !n.negative && value < Word.count64 then some (.int value)
    else if n.negative && 0 < value && Word.fits64 (-value) then some (.int (-value))
    else n.toFloat?.map .float
  else n.toFloat?.map .float

end Numeral
end Outbound.Json
