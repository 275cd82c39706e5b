/-! The identity that a caller gives to a request: any whole number but zero. -/

namespace Outbound

structure RequestId where
  raw : Int
  ne_zero : raw ≠ 0
  deriving DecidableEq

namespace RequestId

instance : Inhabited RequestId := ⟨⟨1, by decide⟩⟩

instance : Repr RequestId := ⟨fun id => reprPrec id.raw⟩

def ofInt? (raw : Int) : Option RequestId := if h : raw = 0 then none else some ⟨raw, h⟩

def text (id : RequestId) : String := toString id.raw

def zeroMessage : String := "requestId must be non-zero"

@[simp] theorem ofInt?_raw (id : RequestId) : ofInt? id.raw = some id := by
  simp [ofInt?, id.ne_zero]

theorem ofInt?_eq_none_iff {raw : Int} : ofInt? raw = none ↔ raw = 0 := by
  unfold ofInt?
  split <;> simp_all

end RequestId
end Outbound
