/-! Punycode writes a label with any characters in ASCII: the ASCII characters first, then one
number for each further character, which tells code point and place together. The numbers have
digits in base 36 and thresholds that adapt to what was written so far. -/

namespace Outbound.Url.Punycode

def base : Nat := 36
def tMin : Nat := 1
def tMax : Nat := 26
def skew : Nat := 38
def damp : Nat := 700
def initialBias : Nat := 72
def initialCode : Nat := 128

def limit : Nat := 0x100000000

def digitValue? (c : Char) : Option Nat :=
  if c.isDigit then some (c.toNat - 48 + 26)
  else if 'a' ≤ c && c ≤ 'z' then some (c.toNat - 97)
  else if 'A' ≤ c && c ≤ 'Z' then some (c.toNat - 65)
  else none

def digit (n : Nat) : Char := Char.ofNat (if n < 26 then n + 97 else n + 22)

def threshold (k bias : Nat) : Nat := min tMax (max tMin (k - bias))

def scaleDown : Nat → Nat → Nat → Nat
  | 0, delta, k => k + (base - tMin + 1) * delta / (delta + skew)
  | fuel + 1, delta, k =>
    if (base - tMin) * tMax / 2 < delta then scaleDown fuel (delta / (base - tMin)) (k + base)
    else k + (base - tMin + 1) * delta / (delta + skew)

def adapt (delta count : Nat) (first : Bool) : Nat :=
  let delta := if first then delta / damp else delta / 2
  let delta := delta + delta / count
  scaleDown delta delta 0

def readNumber (bias : Nat) : Nat → Nat → Nat → List Char → Option (Nat × List Char)
  | _, _, _, [] => none
  | k, weight, value, c :: rest => do
    let d ← digitValue? c
    let value := value + d * weight
    let t := threshold k bias
    if limit ≤ value then none
    else if d < t then some (value, rest)
    else if limit ≤ weight * (base - t) then none
    else readNumber bias (k + base) (weight * (base - t)) value rest

structure State where
  code : Nat := initialCode
  place : Nat := 0
  bias : Nat := initialBias
  first : Bool := true
  label : List Char

def insertAll : Nat → State → List Char → Option (List Char)
  | _, s, [] => some s.label
  | 0, _, _ => none
  | fuel + 1, s, digits => do
    let (value, rest) ← readNumber s.bias base 1 0 digits
    let count := s.label.length + 1
    let place := s.place + value
    let code := s.code + place / count
    if !code.isValidChar then none
    let at' := place % count
    insertAll fuel
      { code, place := at' + 1, bias := adapt value count s.first, first := false
        label := s.label.take at' ++ Char.ofNat code :: s.label.drop at' } rest

/-- The ASCII characters in front of the last hyphen, and the digits behind it. A hyphen with nothing
in front of it divides nothing. -/
def splitBasic (cs : List Char) : List Char × List Char :=
  let tail := (cs.reverse.takeWhile (· ≠ '-')).reverse
  if cs.length ≤ tail.length + 1 then ([], cs)
  else (cs.take (cs.length - tail.length - 1), tail)

def decode? (cs : List Char) : Option (List Char) :=
  let (basic, digits) := splitBasic cs
  if basic.all (·.toNat < initialCode) then insertAll digits.length { label := basic } digits
  else none

def writeNumber (bias : Nat) : Nat → Nat → Nat → List Char
  | 0, _, _ => []
  | fuel + 1, k, value =>
    let t := threshold k bias
    if value < t then [digit value]
    else digit (t + (value - t) % (base - t)) ::
      writeNumber bias fuel (k + base) ((value - t) / (base - t))

structure Writer where
  bias : Nat := initialBias
  delta : Nat := 0
  handled : Nat
  first : Bool
  output : List Char

/-- Goes once over the label: every character below the code point moves the count on, and the code
point itself is written. -/
def pass (code : Nat) (w : Writer) (label : List Char) : Writer :=
  label.foldl (fun w c =>
    if c.toNat < code then { w with delta := w.delta + 1 }
    else if c.toNat = code then
      { bias := adapt w.delta (w.handled + 1) w.first, delta := 0, handled := w.handled + 1,
        first := false, output := w.output ++ writeNumber w.bias (w.delta + 1) base w.delta }
    else w) w

def writeAll : Nat → Nat → Writer → List Char → Writer
  | 0, _, w, _ => w
  | fuel + 1, code, w, label =>
    match (label.map Char.toNat).filter (code ≤ ·) |>.min? with
    | none => w
    | some next =>
      let w := { w with delta := w.delta + (next - code) * (w.handled + 1) }
      let w := pass next w label
      writeAll fuel (next + 1) { w with delta := w.delta + 1 } label

def encode (label : List Char) : List Char :=
  let basic := label.filter (·.toNat < initialCode)
  let start := if basic.isEmpty then [] else basic ++ ['-']
  (writeAll label.length initialCode
    { handled := basic.length, first := true, output := start } label).output

end Outbound.Url.Punycode
