/-! How many numbers a fixed number of bits holds, and the ends of the signed range. -/

namespace Outbound.Word

def count32 : Nat := 0x100000000

def count64 : Nat := 0x10000000000000000

def least64 : Int := -0x8000000000000000

def most64 : Int := 0x7fffffffffffffff

def fits64 (n : Int) : Bool := least64 ≤ n && n ≤ most64

theorem fits64_iff {n : Int} : fits64 n = true ↔ least64 ≤ n ∧ n ≤ most64 := by
  simp [fits64]

end Outbound.Word
