import Outbound.Text.Ascii
import Outbound.Text.Blank

/-! Numeric hosts. An IPv4 address is one to four numbers, decimal, octal or hexadecimal, of which
the last fills the bytes that remain. An IPv6 address is eight groups, of which one run may be left
out and the last two may be an IPv4 address. -/

namespace Outbound.Url

namespace Ipv4

/-- How many values are left for the last number behind some front numbers of one byte each. -/
def room : Nat → Nat
  | 0 => 0x100000000
  | 1 => 0x1000000
  | 2 => 0x10000
  | _ => 0x100

def base : List Char → Nat × List Char
  | '0' :: 'x' :: digits => (16, digits)
  | '0' :: 'X' :: digits => (16, digits)
  | '0' :: c :: digits => (8, c :: digits)
  | digits => (10, digits)

def isDigitOf (base : Nat) (c : Char) : Bool := Ascii.isHexDigit c && Ascii.hexValue c < base

/-- Reads one number. A bare base mark is zero. -/
def number? (part : List Char) : Option Nat :=
  let (b, digits) := base part
  if part.isEmpty || !digits.all (isDigitOf b) then none else some (Ascii.value b digits)

/-- The parts between points; a last empty part does not count. -/
def parts (cs : List Char) : List (List Char) :=
  let ps := Text.split '.' cs
  if ps.getLast? = some [] then ps.dropLast else ps

def endsInNumber (cs : List Char) : Bool :=
  match (parts cs).getLast? with
  | none => false
  | some last => (!last.isEmpty && last.all Char.isDigit) || (number? last).isSome

def parse? (cs : List Char) : Option Nat := do
  let ps := parts cs
  if 4 < ps.length then none
  let numbers ← ps.mapM number?
  let last ← numbers.getLast?
  let front := numbers.dropLast
  let space := room front.length
  if space ≤ last || front.any (255 < ·) then none
  some (front.foldl (fun value n => value * 256 + n) 0 * space + last)

def text (n : Nat) : List Char :=
  Ascii.decimal (n / room 1) ++ '.' :: Ascii.decimal (n / room 2 % 256) ++
    '.' :: Ascii.decimal (n / room 3 % 256) ++ '.' :: Ascii.decimal (n % 256)

end Ipv4

namespace Ipv6

def group? (cs : List Char) : Option Nat :=
  if cs.isEmpty || 4 < cs.length || !cs.all Ascii.isHexDigit then none
  else some (Ascii.value 16 cs)

def byte? (cs : List Char) : Option Nat :=
  let n := Ascii.value 10 cs
  if cs.isEmpty || 3 < cs.length || !cs.all Char.isDigit || 255 < n ||
    (cs.length ≠ 1 && cs.head? = some '0') then none
  else some n

def embedded? (cs : List Char) : Option (List Nat) := do
  match ← (Text.split '.' cs).mapM byte? with
  | [a, b, c, d] => some [a * 256 + b, c * 256 + d]
  | _ => none

/-- Groups between colons; an embedded address may stand last. -/
def groups? (mayEmbed : Bool) (cs : List Char) : Option (List Nat) :=
  if cs.isEmpty then some []
  else
    let parts := Text.split ':' cs
    let last := parts.getLastD []
    if mayEmbed && last.contains '.' then do
      some ((← parts.dropLast.mapM group?) ++ (← embedded? last))
    else parts.mapM group?

def splitRun : List Char → Option (List Char × List Char)
  | ':' :: ':' :: rest => some ([], rest)
  | c :: rest => (splitRun rest).map fun (before, after) => (c :: before, after)
  | [] => none

def parse? (cs : List Char) : Option (List Nat) :=
  match splitRun cs with
  | none => (groups? true cs).filter (·.length == 8)
  | some (before, after) => do
    let front ← groups? false before
    let back ← groups? true after
    let count := front.length + back.length
    if 7 < count then none else some (front ++ List.replicate (8 - count) 0 ++ back)

def zeros (groups : List Nat) : Nat := (groups.takeWhile (· == 0)).length

def longestRun (groups : List Nat) : Nat × Nat :=
  (List.range groups.length).foldl (fun best start =>
    let length := zeros (groups.drop start)
    if best.2 < length then (start, length) else best) (0, 1)

def joined (groups : List Nat) : List Char := List.intercalate [':'] (groups.map Ascii.hex)

def text (groups : List Nat) : List Char :=
  let (start, length) := longestRun groups
  if length < 2 then joined groups
  else joined (groups.take start) ++ ':' :: ':' :: joined (groups.drop (start + length))

end Ipv6
end Outbound.Url
