import Outbound.Url.Punycode
import Outbound.Text.Direction
import Outbound.Text.Folded
import Outbound.Text.Joining
import Outbound.Text.Utf8

/-! Domain names in the form that goes on the wire: ASCII labels in lower case between points. A
name is folded first. A label with other characters than ASCII is then written in Punycode behind
`xn--`, and a label that comes written so has to be what folding would have left. -/

namespace Outbound.Url.Domain

def forbidden : List Char := " %#/:<>?@[\\]^|".toList

def isForbidden (c : Char) : Bool := c.toNat < 0x20 || c.toNat == 0x7f || forbidden.contains c

def isAscii (c : Char) : Bool := c.toNat < 0x80

def mark : List Char := "xn--".toList

/-- The most characters of a label that is written in Punycode, and the most that it is written
in. -/
def mostCharacters : Nat := 1000

def mostDigits : Nat := 2000

def isFit (label : List Char) : Bool :=
  label.all isAscii ||
    (!label.head?.any Text.isMark && Text.joinersFit [] label && label.length ≤ mostCharacters)

def decode? (digits : List Char) : Option (List Char) := do
  if digits.isEmpty || digits.getLast? = some '-' || mostDigits < digits.length then none
  let label ← Punycode.decode? digits
  if Text.foldAll? label ≠ some label then none
  if label.any (fun c => isForbidden c || c = '.') || !isFit label then none
  some label

def label? (label : List Char) : Option (List Char) :=
  if mark.isPrefixOf label then decode? (label.drop mark.length)
  else if isFit label then some label
  else none

/-- Whether a label reads in one direction. It begins with a letter, and apart from marks it ends in
a letter of the same direction or in a digit. A label to the left has no digits of the other
direction; a label to the right has digits of one kind only. -/
def readsOneWay (label : List Char) : Bool :=
  let directions := label.map Text.direction
  let last := directions.reverse.find? (· ≠ .mark)
  match directions with
  | [] => true
  | .left :: _ =>
    !directions.contains .right && !directions.contains .rightNumber &&
      (last = some .left || last = some .number)
  | .right :: _ =>
    !directions.contains .left && !(directions.contains .number && directions.contains .rightNumber)
      && last ≠ some .neutral
  | _ => false

/-- Where a label has anything that is written to the left, every label reads in one direction. -/
def readsClearly (labels : List (List Char)) : Bool :=
  let turns (c : Char) : Bool := Text.direction c = .right || Text.direction c = .rightNumber
  !labels.any (·.any fun c => !isAscii c && turns c) || labels.all readsOneWay

def encode (label : List Char) : List Char :=
  if label.all isAscii then label else mark ++ Punycode.encode label

def ofBytes? (bytes : Bytes) : Option (List Char) := do
  let name ← Text.foldAll? (← Utf8.decode? bytes)
  if name.any isForbidden then none
  let labels ← (Text.split '.' name).mapM label?
  if !readsClearly labels then none
  some (List.intercalate ['.'] (labels.map encode))

end Outbound.Url.Domain
