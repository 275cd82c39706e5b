import Outbound.Failure

/-! What requests run on. One executor serves the whole program; it is made once, with the settings
of whoever makes it first, and a caller that already runs on another one stays there. -/

namespace Outbound

namespace Executor

structure Settings where
  workerThreads : Option Nat := none
  threadName : String := "tether-net"
  deriving DecidableEq, Repr, Inhabited

end Executor

structure Executor where
  settings : Executor.Settings
  deriving DecidableEq, Repr, Inhabited

namespace Executor

abbrev Global := Option Executor

def init (g : Global) (s : Settings) : Except ExecutorError Executor × Global :=
  match g with
  | some _ => (.error .alreadyInitialized, g)
  | none => (.ok ⟨s⟩, some ⟨s⟩)

/-- The executor of the program, made with default settings if need be. -/
def global (g : Global) : Executor × Global :=
  match g with
  | some e => (e, g)
  | none => (⟨{}⟩, some ⟨{}⟩)

def handle (ambient : Option Executor) (g : Global) : Executor × Global :=
  match ambient with
  | some e => (e, g)
  | none => global g

end Executor
end Outbound
