import Outbound.Text.Utf8
import Outbound.Text.Ascii

/-! Percent encoding writes a byte as `%` and two hexadecimal digits. What is encoded differs by the
place in a URL; characters that are not ASCII always are. -/

namespace Outbound.Percent

def encodeByte (b : UInt8) : List Char :=
  ['%', Ascii.hexDigitUpper (b.toNat / 16), Ascii.hexDigitUpper (b.toNat % 16)]

def encode (set : List Char) (cs : List Char) : List Char :=
  cs.flatMap fun c =>
    if c.toNat < 0x20 || 0x7f ≤ c.toNat || set.contains c then
      (String.utf8EncodeChar c).flatMap encodeByte
    else [c]

/-- Reads `%` and two digits as one byte; any other `%` stands for itself. -/
def decode : List Char → Bytes
  | [] => []
  | '%' :: a :: b :: rest =>
    if Ascii.isHexDigit a && Ascii.isHexDigit b then
      UInt8.ofNat (Ascii.hexValue a * 16 + Ascii.hexValue b) :: decode rest
    else Utf8.encode ['%'] ++ decode (a :: b :: rest)
  | c :: rest => String.utf8EncodeChar c ++ decode rest

def fragmentSet : List Char := " \"<>`".toList

def querySet : List Char := " \"#<>".toList

def specialQuerySet : List Char := querySet ++ ['\'']

def pathSet : List Char := fragmentSet ++ ['#', '?', '\x7b', '\x7d']

def userinfoSet : List Char := pathSet ++ "/:;=@[\\]^|".toList

end Outbound.Percent
