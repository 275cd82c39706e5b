import Outbound.Header.Token

/-! Fields grouped by name, as they go on the wire: each lower-case name stands once, in the order
in which names were first seen, with its values in the order in which they were appended. -/

namespace Outbound

structure FieldMap (α : Type) where
  entries : List (String × List α) := []
  deriving DecidableEq, Repr, Inhabited

namespace FieldMap

/-- The most fields for which an empty map can be made: three quarters of `2 ^ 15` places. -/
def mostFields : Nat := 24576

variable {α : Type}

def names (m : FieldMap α) : List String := m.entries.map (·.1)

def values (m : FieldMap α) (name : String) : List α :=
  ((m.entries.find? (·.1 = name)).map (·.2)).getD []

def get? (m : FieldMap α) (name : String) : Option α := (m.values name).head?

def contains (m : FieldMap α) (name : String) : Bool := m.entries.any (·.1 = name)

def append (m : FieldMap α) (name : String) (value : α) : FieldMap α :=
  if m.contains name then
    ⟨m.entries.map fun (n, vs) => (n, if n = name then vs ++ [value] else vs)⟩
  else ⟨m.entries ++ [(name, [value])]⟩

def insert (m : FieldMap α) (name : String) (value : α) : FieldMap α :=
  if m.contains name then
    ⟨m.entries.map fun (n, vs) => (n, if n = name then [value] else vs)⟩
  else ⟨m.entries ++ [(name, [value])]⟩

/-- Takes a name out. The last name moves into the gap. -/
def remove (m : FieldMap α) (name : String) : FieldMap α :=
  if m.contains name then
    let before := m.entries.takeWhile (·.1 ≠ name)
    let after := (m.entries.dropWhile (·.1 ≠ name)).drop 1
    ⟨before ++ after.getLast?.toList ++ after.dropLast⟩
  else m

def toList (m : FieldMap α) : List (String × α) :=
  m.entries.flatMap fun (n, vs) => vs.map (n, ·)

/-- Fields given twice or more replace, the first time, what the map has under their names. -/
def replaceWith (m other : FieldMap α) : FieldMap α :=
  other.entries.foldl (fun m (n, vs) =>
    match vs with
    | [] => m
    | v :: vs => vs.foldl (fun m v => m.append n v) (m.insert n v)) m

end FieldMap
end Outbound
