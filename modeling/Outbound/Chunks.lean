import Outbound.Text.Utf8

/-! Cutting bytes into chunks of a size. Only the last chunk may be smaller, and none is empty. -/

namespace Outbound

/-- A size of zero counts as one. -/
def chunksOf (size : Nat) (bytes : Bytes) : List Bytes :=
  if bytes = [] then []
  else bytes.take (max 1 size) :: chunksOf size (bytes.drop (max 1 size))
termination_by bytes.length
decreasing_by
  have : 0 < bytes.length := List.length_pos_iff.2 ‹_›
  simp only [List.length_drop]
  omega

theorem chunksOf_nil (size : Nat) : chunksOf size [] = [] := by simp [chunksOf]

theorem flatten_chunksOf (size : Nat) (bytes : Bytes) : (chunksOf size bytes).flatten = bytes := by
  fun_induction chunksOf size bytes with
  | case1 => rfl
  | case2 bytes h ih => simp [ih]

theorem ne_nil_of_mem_chunksOf {size : Nat} {bytes chunk : Bytes}
    (h : chunk ∈ chunksOf size bytes) : chunk ≠ [] := by
  fun_induction chunksOf size bytes with
  | case1 => simp at h
  | case2 bytes hne ih =>
    rcases List.mem_cons.1 h with rfl | h
    · simp only [ne_eq, List.take_eq_nil_iff, hne, or_false]
      omega
    · exact ih h

theorem length_le_of_mem_chunksOf {size : Nat} {bytes chunk : Bytes}
    (h : chunk ∈ chunksOf size bytes) : chunk.length ≤ max 1 size := by
  fun_induction chunksOf size bytes with
  | case1 => simp at h
  | case2 bytes _ ih =>
    rcases List.mem_cons.1 h with rfl | h
    · exact List.length_take_le ..
    · exact ih h

end Outbound
