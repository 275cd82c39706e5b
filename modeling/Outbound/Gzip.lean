import Outbound.Text.Utf8

/-! The gzip container. Packing stores the bytes in plain blocks of at most 65535 bytes between a
fixed header and a trailer with checksum and length. Unpacking reads what packing writes, and
refuses a container whose checksum or length does not fit. -/

namespace Outbound.Gzip

namespace Crc

def shiftBit (c : UInt32) : UInt32 :=
  if c &&& 1 == 1 then (c >>> 1) ^^^ 0xedb88320 else c >>> 1

def update (c : UInt32) (b : UInt8) : UInt32 :=
  Nat.repeat shiftBit 8 (c ^^^ b.toUInt32)

end Crc

def crc32 (data : Bytes) : UInt32 := (data.foldl Crc.update 0xffffffff) ^^^ 0xffffffff

def littleEndian : Nat → Nat → Bytes
  | 0, _ => []
  | count + 1, n => UInt8.ofNat n :: littleEndian count (n / 256)

def ofLittleEndian : Bytes → Nat
  | [] => 0
  | b :: bs => b.toNat + 256 * ofLittleEndian bs

def header : Bytes := [0x1f, 0x8b, 0x08, 0, 0, 0, 0, 0, 0, 0xff]

def blockLimit : Nat := 65535

/-- A stored block: whether it is the last, its length, the complement of the length, its bytes. -/
def block (last : Bool) (data : Bytes) : Bytes :=
  (if last then 1 else 0) :: littleEndian 2 data.length ++
    littleEndian 2 (blockLimit - data.length) ++ data

def blocks (data : Bytes) : Bytes :=
  if data.length ≤ blockLimit then block true data
  else block false (data.take blockLimit) ++ blocks (data.drop blockLimit)
termination_by data.length
decreasing_by simp [blockLimit] at *; omega

def trailer (data : Bytes) : Bytes :=
  littleEndian 4 (crc32 data).toNat ++ littleEndian 4 data.length

def pack (data : Bytes) : Bytes := header ++ blocks data ++ trailer data

def readBlocks? : Nat → Bytes → Option (Bytes × Bytes)
  | 0, _ => none
  | fuel + 1, kind :: a :: b :: c :: d :: rest => do
    let length := ofLittleEndian [a, b]
    if 1 < kind || ofLittleEndian [c, d] ≠ blockLimit - length || rest.length < length then none
    else if kind = 1 then some (rest.take length, rest.drop length)
    else
      let (data, rest') ← readBlocks? fuel (rest.drop length)
      some (rest.take length ++ data, rest')
  | _, _ => none

def unpack? (bytes : Bytes) : Option Bytes := do
  if bytes.take header.length ≠ header then none
  let (data, rest) ← readBlocks? bytes.length (bytes.drop header.length)
  if rest = trailer data then some data else none

end Outbound.Gzip
