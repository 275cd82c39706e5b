import Outbound.Text.Ascii

/-! A binary64 number is written with the fewest decimal digits that read back as the same number,
and among those with the digits nearest to it. Everything is exact arithmetic on natural numbers:
the number is a multiple of a power of two, and it owns the reals that round to it. -/

namespace Outbound.Decimal

/-- A finite positive number `mantissa * 2 ^ (exponent - 1076)`, where the shift keeps the exponent
natural. The neighbour below is half as far away when `narrow` holds. -/
structure Binary where
  mantissa : Nat
  exponent : Nat
  narrow : Bool
  deriving DecidableEq, Repr

structure Digits where
  digits : Nat
  exponent : Int
  deriving DecidableEq, Repr

namespace Binary

def leadingBit : Nat := 0x10000000000000

def ofBits (bits : UInt64) : Binary :=
  let fraction := bits.toNat % leadingBit
  let exponent := bits.toNat / leadingBit % 0x800
  if exponent = 0 then ⟨fraction, 2, false⟩
  else ⟨fraction + leadingBit, exponent + 1, fraction = 0 && exponent ≠ 1⟩

/-- Four times the number is `numerator / 2 ^ 1076`; so are the ends of the reals that round to
it. -/
def numerator (b : Binary) : Nat := 4 * b.mantissa * Nat.pow 2 b.exponent

def below (b : Binary) : Nat := (4 * b.mantissa - if b.narrow then 1 else 2) * Nat.pow 2 b.exponent

def above (b : Binary) : Nat := (4 * b.mantissa + 2) * Nat.pow 2 b.exponent

def denominator : Nat := 4 * Nat.pow 2 1076

def inUnits (n : Nat) (k : Int) : Nat × Nat :=
  (n * Nat.pow 10 (-k).toNat, denominator * Nat.pow 10 k.toNat)

/-- The reals that round to the number include the ends when the mantissa is even. -/
def owns (b : Binary) (digits : Nat) (k : Int) : Bool :=
  let (low, unit) := inUnits b.below k
  let (high, _) := inUnits b.above k
  if b.mantissa % 2 = 0 then low ≤ digits * unit && digits * unit ≤ high
  else low < digits * unit && digits * unit < high

/-- The two neighbours on the grid of `10 ^ k`, the nearer first, and of two that are equally near
the even one. -/
def candidates (b : Binary) (k : Int) : List Nat :=
  let (n, unit) := inUnits b.numerator k
  let floor := n / unit
  let twice := 2 * (n % unit)
  if twice < unit || (twice = unit && floor % 2 = 0) then [floor, floor + 1] else [floor + 1, floor]

/-- The largest power of ten that is not above the number, found by descent from `10 ^ 308`. -/
def magnitude (b : Binary) : Nat → Int → Int
  | 0, k => k
  | fuel + 1, k =>
    let (n, unit) := inUnits b.numerator k
    if unit ≤ n then k else magnitude b fuel (k - 1)

def search (b : Binary) : Nat → Int → Digits
  | 0, k => ⟨(b.candidates k).headD 0, k⟩
  | fuel + 1, k =>
    match (b.candidates k).find? (b.owns · k) with
    | some digits => ⟨digits, k⟩
    | none => search b fuel (k - 1)

/-- The coarsest grid is one above the leading digit, for a number just below a power of ten. -/
def shortest (b : Binary) : Digits := b.search 18 (b.magnitude 640 308 + 1)

end Binary

def Digits.positional (d : Digits) : List Char :=
  let text := Ascii.decimal d.digits
  if 0 ≤ d.exponent then text ++ List.replicate d.exponent.toNat '0' ++ ['.', '0']
  else
    let places := (-d.exponent).toNat
    let padded := List.replicate (places + 1 - text.length) '0' ++ text
    padded.take (padded.length - places) ++ '.' :: padded.drop (padded.length - places)

def Digits.scientific (d : Digits) : List Char :=
  let text := Ascii.decimal d.digits
  let power : Int := text.length - 1 + d.exponent
  let sign := if power < 0 then '-' else '+'
  let fraction := if text.length = 1 then [] else '.' :: text.drop 1
  text.take 1 ++ fraction ++ 'e' :: sign :: Ascii.decimal power.natAbs

/-- Numbers from `10 ^ -5` up to below `10 ^ 16` are written positionally. -/
def Digits.text (d : Digits) : List Char :=
  let power : Int := (Ascii.decimal d.digits).length - 1 + d.exponent
  if -5 ≤ power && power < 16 then d.positional else d.scientific

def signBit : Nat := 0x8000000000000000

def ofBits (bits : UInt64) : List Char :=
  let sign := if bits.toNat < signBit then [] else ['-']
  let magnitude := bits.toNat % signBit
  sign ++ if magnitude = 0 then ['0', '.', '0'] else (Binary.ofBits bits).shortest.text

end Outbound.Decimal
