import Outbound.Call.Table
import Outbound.Named

/-! A desk where calls are held by name. Every call has a line that can carry one signal, "cancel",
from the end in the table to the end that was handed out with the tag. The table's end is dropped
when the call is released, or handed out when the call is detached; an end that is held under a name
is dropped when another takes the name. -/

namespace Outbound

/-- A line is open until its sending end sends or is dropped. A signal is read once. -/
inductive LineState
  | waiting
  | signalled
  | closed
  deriving DecidableEq, Repr, Inhabited

structure Line where
  state : LineState := .waiting
  heard : Bool := true
  deriving DecidableEq, Repr, Inhabited

namespace Line

def send (l : Line) : Bool × Line :=
  if l.heard then (true, { l with state := .signalled }) else (false, { l with state := .closed })

def dropSender (l : Line) : Line :=
  { l with state := if l.state = .waiting then .closed else l.state }

def dropReceiver (l : Line) : Line := { l with heard := false }

def read (l : Line) : LineState × Line :=
  (l.state, { l with state := if l.state = .waiting then .waiting else .closed })

end Line

structure Desk where
  table : CallTable := {}
  lines : List (CallTag × Line) := []
  tags : Named CallTag := []
  receivers : Named CallTag := []
  senders : Named CallTag := []
  deriving DecidableEq, Repr, Inhabited

namespace Desk

inductive Command
  | tag (name : String) (id : RequestId)
  | untag (name : String)
  | same (name other : String)
  | detach (name : String) (id : RequestId)
  | send (name : String)
  | dropSender (name : String)
  | dropReceiver (name : String)
  | check (name : String)
  deriving DecidableEq, Repr, Inhabited

/-- A name that is not in use is unknown; its tag is the same as none. -/
inductive Answer
  | unknown
  | refused
  | tagged (id : RequestId)
  | flag (b : Bool)
  | line (state : LineState)
  deriving DecidableEq, Repr, Inhabited

def line (d : Desk) (tag : CallTag) : Line :=
  ((d.lines.find? (·.1 = tag)).map (·.2)).getD { state := .closed, heard := false }

def setLine (d : Desk) (tag : CallTag) (l : Line) : Desk :=
  { d with lines := d.lines.map fun (t, old) => (t, if t = tag then l else old) }

def dropSenderOf (d : Desk) (tag : CallTag) : Desk := d.setLine tag (d.line tag).dropSender

def dropReceiverOf (d : Desk) (tag : CallTag) : Desk := d.setLine tag (d.line tag).dropReceiver

def freeReceiver (d : Desk) (name : String) : Desk :=
  match d.receivers.find? name with
  | some tag => { d.dropReceiverOf tag with receivers := d.receivers.erase name }
  | none => d

def freeSender (d : Desk) (name : String) : Desk :=
  match d.senders.find? name with
  | some tag => { d.dropSenderOf tag with senders := d.senders.erase name }
  | none => d

def perform (d : Desk) : Command → Answer × Desk
  | .tag name id =>
    match d.table.tag id with
    | none => (.refused, d)
    | some (tag, table) =>
      let d := d.freeReceiver name
      (.tagged id, { d with
        table, lines := (tag, {}) :: d.lines
        tags := d.tags.put name tag, receivers := d.receivers.put name tag })
  | .untag name =>
    match d.tags.find? name with
    | none => (.unknown, d)
    | some tag =>
      let (released, table) := d.table.untag tag
      let d := { d with table }
      (.flag released, if released then d.dropSenderOf tag else d)
  | .same name other =>
    let tag := d.tags.find? name
    (.flag (tag.isSome && tag = d.tags.find? other), d)
  | .detach name id =>
    let (sender, table) := d.table.detach id
    match sender with
    | none => (.flag false, d)
    | some tag =>
      let d := { d with table }.freeSender name
      (.flag true, { d with senders := d.senders.put name tag })
  | .send name =>
    match d.senders.find? name with
    | none => (.unknown, d)
    | some tag =>
      let (delivered, l) := (d.line tag).send
      (.flag delivered, { d.setLine tag l with senders := d.senders.erase name })
  | .dropSender name => (.flag (d.senders.find? name).isSome, d.freeSender name)
  | .dropReceiver name => (.flag (d.receivers.find? name).isSome, d.freeReceiver name)
  | .check name =>
    match d.receivers.find? name with
    | none => (.unknown, d)
    | some tag =>
      let (state, l) := (d.line tag).read
      (.line state, d.setLine tag l)

def run (d : Desk) : List Command → List Answer
  | [] => []
  | c :: cs => (d.perform c).1 :: (d.perform c).2.run cs

end Desk
end Outbound
