import Outbound.Signal.SlotMap

/-! A signal hands a value to every slot that is connected to it. The slots stand in the order of
their positions in the table of connections. -/

namespace Outbound

abbrev Signal (α : Type) := SlotMap α

namespace Signal

variable {α : Type}

def connect (s : Signal α) (slot : α) : SlotKey × Signal α := s.insert slot

def disconnect (s : Signal α) (key : SlotKey) : Bool × Signal α :=
  ((s.erase key).1.isSome, (s.erase key).2)

def count (s : Signal α) : Nat := s.size

def snapshot (s : Signal α) : List (SlotKey × α) := s.entries

def debug (s : Signal α) : String := "Signal \x7b connections: " ++ toString s.count ++ " \x7d"

end Signal
end Outbound
