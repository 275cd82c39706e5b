import Outbound.Signal.Basic
import Outbound.Named

/-! Slots that act on the signal which calls them. Every slot has a name and may have a script,
which is performed the first time that a slot of this name runs, and encores, which are performed in
turn when it runs again. An emission calls the slots that are connected when it starts; an emission
inside a script comes to its end before the script goes on. -/

namespace Outbound

namespace Stage

/-- What a caller or a script does. A slot is engaged with a script for its first run and with encores
for the runs after it. A guarded connection is held by a guard under the slot's name, and ends when
the guard is dropped. -/
inductive Action
  | engage (slot : String) (guarded : Bool) (script : List Action) (encores : List (List Action))
  | disconnect (slot : String)
  | dropGuard (slot : String)
  | emit (value : Int)
  | dropSignal
  deriving Repr, Inhabited

def Action.connect (slot : String) (guarded : Bool) (script : List Action) : Action :=
  .engage slot guarded script []

inductive Answer
  | done
  | noSignal
  | unknown
  | flag (b : Bool)
  deriving DecidableEq, Repr, Inhabited

/-- What is seen: a slot runs, or an action of its script has been performed. -/
inductive Entry
  | ran (slot : String) (value : Int)
  | did (slot : String) (answer : Answer)
  deriving DecidableEq, Repr, Inhabited

inductive Task
  | call (key : SlotKey) (slot : String) (value : Int)
  | act (slot : String) (action : Action)
  | answer (slot : String) (answer : Answer)
  deriving Repr, Inhabited

mutual

def Action.weight : Action → Nat
  | .engage _ _ script encores => weights script + weightsAll encores + 1
  | _ => 1

def weights : List Action → Nat
  | [] => 0
  | a :: as => a.weight + weights as

def weightsAll : List (List Action) → Nat
  | [] => 0
  | script :: scripts => weights script + weightsAll scripts

end

end Stage

open Stage

structure Stage where
  signal : Option (Signal String) := some {}
  /-- The latest connection of each name. -/
  latest : Named SlotKey := []
  guards : Named SlotKey := []
  /-- The scripts of connections that have not run. -/
  scripts : List (SlotKey × List Action) := []
  /-- What connections perform when they run again, the next encore of each first. -/
  encores : List (SlotKey × List Action) := []
  /-- The names of slots that have run. -/
  ran : List String := []
  deriving Repr, Inhabited

namespace Stage

def disconnectKey (s : Stage) (key : SlotKey) : Bool × Stage :=
  match s.signal with
  | none => (false, s)
  | some signal =>
    let (was, signal) := signal.disconnect key
    (was, { s with signal := some signal })

def dropGuard (s : Stage) (slot : String) : Bool × Stage :=
  match s.guards.find? slot with
  | none => (false, s)
  | some key => (true, { (s.disconnectKey key).2 with guards := s.guards.erase slot })

/-- Connects a slot. A new guard takes the place of an older one of its name, which is dropped. -/
def connect (s : Stage) (signal : Signal String) (slot : String) (guarded : Bool)
    (script : List Action) (encores : List (List Action)) : Stage :=
  let (key, signal) := signal.connect slot
  let s := { s with
    signal := some signal, latest := s.latest.put slot key
    scripts := (key, script) :: s.scripts
    encores := encores.map (key, ·) ++ s.encores }
  if guarded then
    let s := (s.dropGuard slot).2
    { s with guards := s.guards.put slot key }
  else s

/-- Begins an action: what it will answer, and the slots that have to run before it answers. -/
def begin (s : Stage) (a : Action) : Answer × List (SlotKey × String × Int) × Stage :=
  match a, s.signal with
  | .dropSignal, signal => (.flag signal.isSome, [], { s with signal := none })
  | .dropGuard slot, _ =>
    let (had, s) := s.dropGuard slot
    (.flag had, [], s)
  | _, none => (.noSignal, [], s)
  | .engage slot guarded script encores, some signal =>
    (.done, [], s.connect signal slot guarded script encores)
  | .disconnect slot, some _ =>
    match s.latest.find? slot with
    | none => (.unknown, [], s)
    | some key =>
      let (was, s) := s.disconnectKey key
      (.flag was, [], s)
  | .emit value, some signal =>
    (.done, signal.snapshot.map fun (key, slot) => (key, slot, value), s)

def takeScript (key : SlotKey) :
    List (SlotKey × List Action) → List Action × List (SlotKey × List Action)
  | [] => ([], [])
  | (k, script) :: rest =>
    if k = key then (script, rest)
    else
      let (found, rest) := takeScript key rest
      (found, (k, script) :: rest)

/-- Runs a slot: its script is performed unless its name has run before, and then its next encore. -/
def enter (s : Stage) (key : SlotKey) (slot : String) : List Action × Stage :=
  if s.ran.contains slot then
    let (script, encores) := takeScript key s.encores
    (script, { s with encores })
  else
    let (script, scripts) := takeScript key s.scripts
    (script, { s with scripts, ran := slot :: s.ran })

def scriptWeight : List (SlotKey × List Action) → Nat
  | [] => 0
  | (_, script) :: rest => weights script + scriptWeight rest

def Task.weight : Task → Nat
  | .act _ a => a.weight
  | _ => 0

def agendaWeight : List Task → Nat
  | [] => 0
  | t :: ts => t.weight + agendaWeight ts

def load (s : Stage) (agenda : List Task) : Nat :=
  scriptWeight s.scripts + scriptWeight s.encores + agendaWeight agenda

def idle : Task → Bool
  | .act _ _ => false
  | _ => true

theorem scriptWeight_takeScript (key : SlotKey) (scripts : List (SlotKey × List Action)) :
    weights (takeScript key scripts).1 + scriptWeight (takeScript key scripts).2 =
      scriptWeight scripts := by
  induction scripts with
  | nil => simp [takeScript, weights, scriptWeight]
  | cons p rest ih =>
    obtain ⟨k, script⟩ := p
    simp only [takeScript]
    split
    · simp [scriptWeight]
    · simp only [scriptWeight] at ih ⊢
      omega

theorem scriptWeight_encores (key : SlotKey) (encores : List (List Action))
    (rest : List (SlotKey × List Action)) :
    scriptWeight (encores.map (key, ·) ++ rest) = weightsAll encores + scriptWeight rest := by
  induction encores with
  | nil => simp [weightsAll]
  | cons script encores ih => simp [scriptWeight, weightsAll, ih, Nat.add_assoc]

theorem weights_enter (s : Stage) (key : SlotKey) (slot : String) :
    weights (s.enter key slot).1 +
      (scriptWeight (s.enter key slot).2.scripts + scriptWeight (s.enter key slot).2.encores) =
        scriptWeight s.scripts + scriptWeight s.encores := by
  unfold enter
  split
  · have := scriptWeight_takeScript key s.encores
    simp only
    omega
  · have := scriptWeight_takeScript key s.scripts
    simp only
    omega

@[simp] theorem scripts_disconnectKey (s : Stage) (key : SlotKey) :
    (s.disconnectKey key).2.scripts = s.scripts := by
  unfold disconnectKey
  split <;> rfl

@[simp] theorem encores_disconnectKey (s : Stage) (key : SlotKey) :
    (s.disconnectKey key).2.encores = s.encores := by
  unfold disconnectKey
  split <;> rfl

@[simp] theorem scripts_dropGuard (s : Stage) (slot : String) :
    (s.dropGuard slot).2.scripts = s.scripts := by
  unfold dropGuard
  split <;> simp

@[simp] theorem encores_dropGuard (s : Stage) (slot : String) :
    (s.dropGuard slot).2.encores = s.encores := by
  unfold dropGuard
  split <;> simp

theorem Action.weight_pos (a : Action) : 0 < a.weight := by
  cases a <;> simp [Action.weight]

theorem agendaWeight_append (first second : List Task) :
    agendaWeight (first ++ second) = agendaWeight first + agendaWeight second := by
  induction first with
  | nil => simp [agendaWeight]
  | cons t ts ih => simp [agendaWeight, ih, Nat.add_assoc]

theorem agendaWeight_calls (calls : List (SlotKey × String × Int)) :
    agendaWeight (calls.map fun (key, name, value) => Task.call key name value) = 0 := by
  induction calls with
  | nil => rfl
  | cons c cs ih => simpa [agendaWeight, Task.weight] using ih

theorem agendaWeight_script (slot : String) (script : List Action) :
    agendaWeight (script.map (Task.act slot)) = weights script := by
  induction script with
  | nil => rfl
  | cons a as ih => simp [agendaWeight, Task.weight, weights, ih]

theorem scriptWeight_begin (s : Stage) (a : Action) :
    scriptWeight (s.begin a).2.2.scripts + scriptWeight (s.begin a).2.2.encores <
      a.weight + (scriptWeight s.scripts + scriptWeight s.encores) := by
  unfold begin
  split
  · simp [Action.weight]
  · simp [Action.weight]
  · exact Nat.lt_add_of_pos_left (Action.weight_pos _)
  · simp only [connect]
    split <;> simp [Action.weight, scriptWeight, scriptWeight_encores] <;> omega
  · split <;> simp [Action.weight]
  · simp [Action.weight]

theorem load_call {s t : Stage} {key : SlotKey} {slot : String} {script : List Action}
    (h : s.enter key slot = (script, t)) (value : Int) (agenda : List Task) :
    t.load (script.map (.act slot) ++ agenda) = s.load (.call key slot value :: agenda) := by
  have := weights_enter s key slot
  rw [h] at this
  simp only [load, agendaWeight_append, agendaWeight, Task.weight, agendaWeight_script]
  simp only at this
  omega

theorem load_act {s t : Stage} {a : Action} {answer : Answer}
    {calls : List (SlotKey × String × Int)} (h : s.begin a = (answer, calls, t)) (slot : String)
    (agenda : List Task) :
    t.load (calls.map (fun (key, name, value) => .call key name value) ++
      .answer slot answer :: agenda) < s.load (.act slot a :: agenda) := by
  have := scriptWeight_begin s a
  rw [h] at this
  simp only [load, agendaWeight_append, agendaWeight, Task.weight, agendaWeight_calls]
  simp only at this
  omega

theorem countP_idle_script (slot : String) (script : List Action) (agenda : List Task) :
    (script.map (Task.act slot) ++ agenda).countP idle = agenda.countP idle := by
  induction script with
  | nil => rfl
  | cons a as ih => simp [idle]

theorem countP_idle_cons {t : Task} (h : idle t = true) (agenda : List Task) :
    agenda.countP idle < (t :: agenda).countP idle := by
  simp [h]

/-- Works the agenda off. What a task brings about is done before the next task. -/
def work (s : Stage) : List Task → List Entry × Stage
  | [] => ([], s)
  | .answer slot answer :: agenda =>
    let (log, t) := work s agenda
    (.did slot answer :: log, t)
  | .call key slot value :: agenda =>
    let entered := s.enter key slot
    let (log, t) := work entered.2 (entered.1.map (.act slot) ++ agenda)
    (.ran slot value :: log, t)
  | .act slot a :: agenda =>
    let begun := s.begin a
    work begun.2.2 (begun.2.1.map (fun (key, name, value) => .call key name value) ++
      .answer slot begun.1 :: agenda)
termination_by agenda => (s.load agenda, agenda.countP idle)
decreasing_by
  · exact Prod.Lex.right' _ (by simp [load, agendaWeight, Task.weight])
      (countP_idle_cons rfl agenda)
  · refine Prod.Lex.right' _ (Nat.le_of_eq (load_call rfl value agenda)) ?_
    rw [countP_idle_script]
    exact countP_idle_cons rfl agenda
  · exact Prod.Lex.left _ _ (load_act rfl slot agenda)

def perform (s : Stage) (a : Action) : Answer × List Entry × Stage :=
  let (answer, calls, s) := s.begin a
  let (log, s) := s.work (calls.map fun (key, slot, value) => .call key slot value)
  (answer, log, s)

end Stage
end Outbound
