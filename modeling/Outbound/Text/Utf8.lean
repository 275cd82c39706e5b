/-! Bytes are read as UTF-8 in two ways. `decode` reads a whole text byte by byte with a small
machine. `Decoder` reads chunks and holds back a sequence that the end of a chunk cuts off. Both
put U+FFFD for each longest run of bytes that begins no sequence or breaks one off. -/

namespace Outbound

abbrev Bytes := List UInt8

namespace Utf8

def encode (cs : List Char) : Bytes := cs.flatMap String.utf8EncodeChar

@[simp] theorem encode_nil : encode [] = [] := rfl

@[simp] theorem encode_append (a b : List Char) : encode (a ++ b) = encode a ++ encode b := by
  simp [encode]

def replacement : Char := '\uFFFD'

/-- What the first byte of a longer sequence fixes: how many bytes follow, the range of the first
of them, and the bits that the first byte carries. -/
structure Lead where
  more : Nat
  low : UInt8
  high : UInt8
  bits : Nat
  deriving DecidableEq, Repr

def lead (b : UInt8) : Option Lead :=
  if 0xc2 ≤ b && b ≤ 0xdf then some ⟨1, 0x80, 0xbf, b.toNat % 32⟩
  else if b == 0xe0 then some ⟨2, 0xa0, 0xbf, 0⟩
  else if b == 0xed then some ⟨2, 0x80, 0x9f, 13⟩
  else if 0xe1 ≤ b && b ≤ 0xef then some ⟨2, 0x80, 0xbf, b.toNat % 16⟩
  else if b == 0xf0 then some ⟨3, 0x90, 0xbf, 0⟩
  else if 0xf1 ≤ b && b ≤ 0xf3 then some ⟨3, 0x80, 0xbf, b.toNat % 8⟩
  else if b == 0xf4 then some ⟨3, 0x80, 0x8f, 4⟩
  else none

/-- A sequence under way asks for a byte in a range, and carries the bits read so far. The state
`none` is between sequences. -/
abbrev State := Option Lead

def start (b : UInt8) : List Char × State :=
  if b < 0x80 then ([Char.ofNat b.toNat], none)
  else match lead b with
    | some l => ([], some l)
    | none => ([replacement], none)

def step : State → UInt8 → List Char × State
  | none, b => start b
  | some l, b =>
    if l.low ≤ b && b ≤ l.high then
      let bits := l.bits * 64 + b.toNat % 64
      if l.more = 1 then ([Char.ofNat bits], none)
      else ([], some ⟨l.more - 1, 0x80, 0xbf, bits⟩)
    else
      let (cs, s) := start b
      (replacement :: cs, s)

def run : State → Bytes → List Char
  | none, [] => []
  | some _, [] => [replacement]
  | s, b :: bs => (step s b).1 ++ run (step s b).2 bs

def decode (bs : Bytes) : List Char := run none bs

/-- What stands at the front of some bytes: nothing, a character, bytes that form none, or the
beginning of a sequence that the end cuts off. -/
inductive Piece
  | done
  | scalar (c : Char) (rest : Bytes)
  | broken (rest : Bytes)
  | cut
  deriving DecidableEq, Repr

def follow : Nat → UInt8 → UInt8 → Nat → Bytes → Piece
  | 0, _, _, bits, bs => .scalar (Char.ofNat bits) bs
  | _ + 1, _, _, _, [] => .cut
  | more + 1, low, high, bits, b :: bs =>
    if low ≤ b && b ≤ high then follow more 0x80 0xbf (bits * 64 + b.toNat % 64) bs
    else .broken (b :: bs)

def take : Bytes → Piece
  | [] => .done
  | b :: bs =>
    if b < 0x80 then .scalar (Char.ofNat b.toNat) bs
    else match lead b with
      | some l => follow l.more l.low l.high l.bits bs
      | none => .broken bs

def Piece.rest : Piece → Bytes
  | .scalar _ rest => rest
  | .broken rest => rest
  | _ => []

theorem follow_rest_length (more : Nat) (low high : UInt8) (bits : Nat) (bs : Bytes) :
    (follow more low high bits bs).rest.length ≤ bs.length := by
  fun_induction follow more low high bits bs with
  | case1 => simp [Piece.rest]
  | case2 => simp [Piece.rest]
  | case3 low high bits b bs more _ ih => simp; omega
  | case4 => simp [Piece.rest]

theorem take_rest_length (b : UInt8) (bs : Bytes) : (take (b :: bs)).rest.length ≤ bs.length := by
  simp only [take]
  split
  · simp [Piece.rest]
  · cases lead b with
    | some l => exact follow_rest_length ..
    | none => simp [Piece.rest]

theorem take_scalar_lt {bs rest : Bytes} {c : Char} (h : take bs = .scalar c rest) :
    rest.length < bs.length := by
  cases bs with
  | nil => simp [take] at h
  | cons b bs =>
    have := take_rest_length b bs
    rw [h] at this
    simp [Piece.rest] at this ⊢
    omega

theorem take_broken_lt {bs rest : Bytes} (h : take bs = .broken rest) :
    rest.length < bs.length := by
  cases bs with
  | nil => simp [take] at h
  | cons b bs =>
    have := take_rest_length b bs
    rw [h] at this
    simp [Piece.rest] at this ⊢
    omega

def scan (bs : Bytes) : List Char × Bytes :=
  match h : take bs with
  | .done => ([], [])
  | .cut => ([], bs)
  | .scalar c rest =>
    have := take_scalar_lt h
    let (text, held) := scan rest
    (c :: text, held)
  | .broken rest =>
    have := take_broken_lt h
    let (text, held) := scan rest
    (replacement :: text, held)
termination_by bs.length

def decode? (bs : Bytes) : Option (List Char) :=
  match h : take bs with
  | .done => some []
  | .scalar c rest =>
    have := take_scalar_lt h
    (decode? rest).map (c :: ·)
  | _ => none
termination_by bs.length

end Utf8

structure Decoder where
  pending : Bytes := []
  deriving DecidableEq, Repr, Inhabited

namespace Decoder

def push (d : Decoder) (chunk : Bytes) : List Char × Decoder :=
  let (text, held) := Utf8.scan (d.pending ++ chunk)
  (text, ⟨held⟩)

/-- The text of what is still pending; a sequence that nothing completes is not text. -/
def finish (d : Decoder) : List Char × Decoder := (Utf8.decode d.pending, {})

def decodeAll (d : Decoder) : List Bytes → List Char
  | [] => d.finish.1
  | chunk :: chunks => (d.push chunk).1 ++ (d.push chunk).2.decodeAll chunks

end Decoder
end Outbound
