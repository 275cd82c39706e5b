/-! Values that are held under names. -/

namespace Outbound

abbrev Named (α : Type) := List (String × α)

namespace Named

variable {α : Type}

def find? (l : Named α) (name : String) : Option α := (List.find? (·.1 = name) l).map (·.2)

def erase (l : Named α) (name : String) : Named α := l.filter (·.1 ≠ name)

def put (l : Named α) (name : String) (a : α) : Named α := (name, a) :: l.erase name

end Named

end Outbound
