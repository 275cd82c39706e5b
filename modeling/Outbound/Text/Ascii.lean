/-! Letters are compared here without regard to their ASCII case. Everything is defined on lists of
characters, and the string forms are the list forms between `toList` and `ofList`. -/

namespace Outbound.Ascii

def lower (s : String) : String := String.ofList (s.toList.map Char.toLower)

@[simp] theorem toList_lower (s : String) : (lower s).toList = s.toList.map Char.toLower := by
  simp [lower]

def same (a b : String) : Bool := lower a == lower b

@[simp] theorem same_iff {a b : String} : same a b = true ↔ lower a = lower b := by
  simp [same]

theorem same_comm (a b : String) : same a b = same b a := by
  rw [Bool.eq_iff_iff, same_iff, same_iff, eq_comm]

def isHexDigit (c : Char) : Bool :=
  c.isDigit || ('a' ≤ c && c ≤ 'f') || ('A' ≤ c && c ≤ 'F')

def hexValue (c : Char) : Nat :=
  if c.isDigit then c.toNat - 48
  else if 'a' ≤ c && c ≤ 'f' then c.toNat - 87
  else c.toNat - 55

def hexDigit (n : Nat) : Char := "0123456789abcdef".toList.getD n '0'

def hexDigitUpper (n : Nat) : Char := "0123456789ABCDEF".toList.getD n '0'

def decimal (n : Nat) : List Char := Nat.toDigits 10 n

def hex (n : Nat) : List Char := Nat.toDigits 16 n

def value (base : Nat) (digits : List Char) : Nat :=
  digits.foldl (fun n c => n * base + hexValue c) 0

end Outbound.Ascii
