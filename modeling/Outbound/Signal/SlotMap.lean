/-! A map that chooses its own keys. Values lie at positions; a position that was freed is filled
again, the one freed last first, and each filling has a version of its own. A key names position and
version, so that it finds the value that it was made for and no later one. -/

namespace Outbound

structure SlotKey where
  index : Nat
  version : Nat
  deriving DecidableEq, Repr, Inhabited

structure SlotMap (α : Type) where
  /-- Version and content of each position. -/
  cells : List (Nat × Option α) := []
  /-- The positions without content, the one freed last first. -/
  free : List Nat := []
  deriving DecidableEq, Repr

namespace SlotMap

variable {α : Type}

instance : Inhabited (SlotMap α) := ⟨{}⟩

def version (m : SlotMap α) (index : Nat) : Nat := ((m.cells[index]?).map (·.1)).getD 0

def get? (m : SlotMap α) (key : SlotKey) : Option α := do
  let (version, content) ← m.cells[key.index]?
  if version = key.version then content else none

/-- Puts a value at the position that was freed last, or at a new one. -/
def insert (m : SlotMap α) (a : α) : SlotKey × SlotMap α :=
  match m.free with
  | index :: free =>
    let version := m.version index + 1
    (⟨index, version⟩, ⟨m.cells.set index (version, some a), free⟩)
  | [] => (⟨m.cells.length, 0⟩, ⟨m.cells ++ [(0, some a)], []⟩)

def erase (m : SlotMap α) (key : SlotKey) : Option α × SlotMap α :=
  match m.get? key with
  | some a => (some a, ⟨m.cells.set key.index (key.version, none), key.index :: m.free⟩)
  | none => (none, m)

def entries (m : SlotMap α) : List (SlotKey × α) :=
  m.cells.zipIdx.filterMap fun ((version, content), index) =>
    content.map fun a => (⟨index, version⟩, a)

def size (m : SlotMap α) : Nat := m.cells.countP (·.2.isSome)

end SlotMap
end Outbound
