import Outbound.Gzip

/-! What is packed is unpacked to the same bytes. A stored block is read back by its length, which
fits in two bytes, and the blocks of some bytes are read back whatever stands behind them. -/

namespace Outbound.Gzip

variable {data rest : Bytes} {fuel n : Nat}

theorem ofLittleEndian_two (h : n ≤ blockLimit) :
    ofLittleEndian [UInt8.ofNat n, UInt8.ofNat (n / 256)] = n := by
  have hlow : (UInt8.ofNat n).toNat = n % 256 := UInt8.toNat_ofNat'
  have hhigh : (UInt8.ofNat (n / 256)).toNat = n / 256 % 256 := UInt8.toNat_ofNat'
  rw [blockLimit] at h
  simp only [ofLittleEndian, hlow, hhigh]
  omega

theorem block_eq (last : Bool) (data : Bytes) : block last data =
    (if last then 1 else 0) :: UInt8.ofNat data.length :: UInt8.ofNat (data.length / 256) ::
      UInt8.ofNat (blockLimit - data.length) :: UInt8.ofNat ((blockLimit - data.length) / 256) ::
        data := rfl

theorem length_block (last : Bool) (data : Bytes) : (block last data).length = data.length + 5 := by
  simp [block_eq]

theorem readBlocks?_last (h : data.length ≤ blockLimit) (rest : Bytes) (fuel : Nat) :
    readBlocks? (fuel + 1) (block true data ++ rest) = some (data, rest) := by
  have hlength := ofLittleEndian_two h
  have hcheck := ofLittleEndian_two (Nat.sub_le blockLimit data.length)
  simp [block_eq, readBlocks?, hlength, hcheck]

theorem readBlocks?_more (h : data.length ≤ blockLimit) {more rest' : Bytes}
    (hrest : readBlocks? fuel rest = some (more, rest')) :
    readBlocks? (fuel + 1) (block false data ++ rest) = some (data ++ more, rest') := by
  have hlength := ofLittleEndian_two h
  have hcheck := ofLittleEndian_two (Nat.sub_le blockLimit data.length)
  have hroom : ¬ data.length + rest.length < data.length := by omega
  simp [block_eq, readBlocks?, hlength, hcheck, hroom, hrest]

/-- Every block has bytes of its own, so the length of all of them is fuel enough. -/
theorem readBlocks?_blocks (data rest : Bytes) (h : (blocks data).length ≤ fuel) :
    readBlocks? fuel (blocks data ++ rest) = some (data, rest) := by
  fun_induction blocks data generalizing fuel with
  | case1 data hfits =>
    rw [length_block] at h
    obtain ⟨fuel, rfl⟩ : ∃ n, fuel = n + 1 := ⟨fuel - 1, by omega⟩
    exact readBlocks?_last hfits rest fuel
  | case2 data hlong ih =>
    rw [List.length_append, length_block] at h
    obtain ⟨fuel, rfl⟩ : ∃ n, fuel = n + 1 := ⟨fuel - 1, by omega⟩
    have hrest : readBlocks? fuel (blocks (data.drop blockLimit) ++ rest) =
        some (data.drop blockLimit, rest) := ih (by omega)
    rw [List.append_assoc, readBlocks?_more (List.length_take_le ..) hrest,
      List.take_append_drop]

theorem unpack?_pack (data : Bytes) : unpack? (pack data) = some data := by
  have hhead : (pack data).take header.length = header := by
    rw [pack, List.append_assoc, List.take_left]
  have htail : (pack data).drop header.length = blocks data ++ trailer data := by
    rw [pack, List.append_assoc, List.drop_left]
  have hfuel : (blocks data).length ≤ (pack data).length := by
    simp only [pack, List.length_append]
    omega
  rw [unpack?, hhead, htail, readBlocks?_blocks data _ hfuel]
  simp

end Outbound.Gzip
