import Outbound.Proofs.Signal.Roster
import Outbound.Signal.Stage

/-! Emissions whose slots act on the signal that calls them. The agenda can be split at any place,
so an emission is a number of calls done one after another, each with the whole of its script; an
emission in a script is of the same kind. Whatever the calls do, they continue the history of the
signal, and the calls of the emission are fixed before the first of them. -/

namespace Outbound.Stage

open Signal

variable {s t u : Stage} {m : Signal String} {value : Int}

def called (m : Signal String) (value : Int) : List (SlotKey × String × Int) :=
  m.snapshot.map fun (key, slot) => (key, slot, value)

def task (c : SlotKey × String × Int) : Task := .call c.1 c.2.1 c.2.2

def performAll (s : Stage) (slot : String) : List Action → List Entry × Stage
  | [] => ([], s)
  | a :: as =>
    let (answer, log, s) := s.perform a
    let (more, s) := s.performAll slot as
    (log ++ .did slot answer :: more, s)

def call (s : Stage) (c : SlotKey × String × Int) : List Entry × Stage :=
  let (script, s) := s.enter c.1 c.2.1
  let (log, s) := s.performAll c.2.1 script
  (.ran c.2.1 c.2.2 :: log, s)

def callAll (s : Stage) : List (SlotKey × String × Int) → List Entry × Stage
  | [] => ([], s)
  | c :: cs =>
    let (log, s) := s.call c
    let (more, s) := s.callAll cs
    (log ++ more, s)

theorem work_append (s : Stage) (first second : List Task) :
    s.work (first ++ second) =
      ((s.work first).1 ++ ((s.work first).2.work second).1,
        ((s.work first).2.work second).2) := by
  fun_induction s.work first with
  | case1 s => simp
  | case2 s slot answer agenda log t hwork ih =>
    rw [List.cons_append, work, ih, hwork]
    rfl
  | case3 s key slot value agenda entered log t hwork ih =>
    rw [List.cons_append, work, ← List.append_assoc, ih, hwork]
    rfl
  | case4 s slot a agenda begun ih =>
    rw [List.cons_append, work, ← List.cons_append, ← List.append_assoc, ih]

theorem perform_eq (s : Stage) (a : Action) :
    s.perform a = ((s.begin a).1, (s.begin a).2.2.work ((s.begin a).2.1.map task)) := rfl

theorem work_act (s : Stage) (slot : String) (a : Action) :
    s.work [.act slot a] =
      ((s.perform a).2.1 ++ [.did slot (s.perform a).1], (s.perform a).2.2) := by
  rw [work, work_append, perform_eq]
  simp only [work]
  rfl

theorem work_script (s : Stage) (slot : String) (script : List Action) :
    s.work (script.map (.act slot)) = s.performAll slot script := by
  induction script generalizing s with
  | nil => simp [work, performAll]
  | cons a as ih =>
    rw [List.map_cons, ← List.singleton_append, work_append, work_act, ih]
    simp [performAll]

theorem work_call (s : Stage) (c : SlotKey × String × Int) : s.work [task c] = s.call c := by
  rw [task, work, List.append_nil, work_script]
  rfl

theorem work_calls (s : Stage) (calls : List (SlotKey × String × Int)) :
    s.work (calls.map task) = s.callAll calls := by
  induction calls generalizing s with
  | nil => simp [work, callAll]
  | cons c cs ih =>
    rw [List.map_cons, ← List.singleton_append, work_append, work_call, ih]
    rfl

theorem begin_emit (hs : s.signal = some m) (value : Int) :
    s.begin (.emit value) = (.done, called m value, s) := by
  simp [begin, hs, called]

theorem perform_emit (hs : s.signal = some m) (value : Int) :
    s.perform (.emit value) = (.done, s.callAll (called m value)) := by
  rw [perform_eq, begin_emit hs, work_calls]

/-- The signal of one stage is that of another after some changes, unless it is gone. -/
def Continues (s t : Stage) : Prop :=
  (s.signal = none → t.signal = none) ∧
    ∀ h : History String, s.signal = some h.signal →
      t.signal = none ∨ ∃ more, t.signal = some (h.run more).signal

namespace Continues

theorem of_eq (h : t.signal = s.signal) : Continues s t :=
  ⟨fun hs => h.trans hs, fun _ hs => .inr ⟨[], h.trans hs⟩⟩

theorem trans (h : Continues s t) (h' : Continues t u) : Continues s u := by
  refine ⟨fun hs => h'.1 (h.1 hs), fun history hs => ?_⟩
  rcases h.2 history hs with hnone | ⟨more, hsome⟩
  · exact .inl (h'.1 hnone)
  · rcases h'.2 _ hsome with hnone | ⟨rest, hrest⟩
    · exact .inl hnone
    · exact .inr ⟨more ++ rest, by rw [hrest, History.run_append]⟩

theorem disconnectKey (s : Stage) (key : SlotKey) : Continues s (s.disconnectKey key).2 := by
  unfold Stage.disconnectKey
  split
  · exact of_eq rfl
  · rename_i m hm
    refine ⟨fun hs => by simp [hs] at hm, fun h hs => .inr ⟨[.disconnect key], ?_⟩⟩
    obtain rfl : m = h.signal := Option.some.inj (hm.symm.trans hs)
    rfl

theorem dropGuard (s : Stage) (slot : String) : Continues s (s.dropGuard slot).2 := by
  unfold Stage.dropGuard
  split
  · exact of_eq rfl
  · exact (disconnectKey s _).trans (of_eq rfl)

theorem of_connect (hs : s.signal = some m) (slot : String)
    (ht : t.signal = some (m.connect slot).2) : Continues s t := by
  refine ⟨fun hnone => by simp [hs] at hnone, fun h hsome => .inr ⟨[.connect slot], ?_⟩⟩
  obtain rfl : m = h.signal := Option.some.inj (hs.symm.trans hsome)
  exact ht

theorem connect (hs : s.signal = some m) (slot : String) (guarded : Bool) (script : List Action)
    (encores : List (List Action)) :
    Continues s (s.connect m slot guarded script encores) := by
  cases guarded with
  | true =>
    -- the older guard of the name is dropped when the new connection is there
    exact ((of_connect hs slot rfl).trans (dropGuard _ slot)).trans (of_eq rfl)
  | false => exact of_connect hs slot rfl

theorem begin (s : Stage) (a : Action) : Continues s (s.begin a).2.2 := by
  unfold Stage.begin
  split
  case h_1 => exact ⟨fun _ => rfl, fun _ _ => .inl rfl⟩
  case h_2 => exact dropGuard s _
  case h_3 => exact of_eq rfl
  case h_4 hm => exact connect hm _ _ _ _
  case h_5 =>
    split
    · exact of_eq rfl
    · exact disconnectKey s _
  case h_6 => exact of_eq rfl

theorem enter (s : Stage) (key : SlotKey) (slot : String) :
    Continues s (s.enter key slot).2 := by
  unfold Stage.enter
  split <;> exact of_eq rfl

theorem work (s : Stage) (agenda : List Task) : Continues s (s.work agenda).2 := by
  fun_induction s.work agenda with
  | case1 s => exact of_eq rfl
  | case2 s slot answer agenda log t hwork ih => rwa [hwork] at ih
  | case3 s key slot value agenda entered log t hwork ih =>
    rw [hwork] at ih
    exact (enter s key slot).trans ih
  | case4 s slot a agenda begun ih => exact (begin s a).trans ih

end Continues

theorem signal_work (agenda : List Task) :
    (work {} agenda).2.signal = none ∨
      ∃ changes, (work {} agenda).2.signal = some (History.ofChanges changes).signal :=
  (Continues.work {} agenda).2 {} rfl

/-- The stages at which emissions start while an agenda is worked off, however deep in scripts. -/
inductive Starts : Stage → List Task → Stage → Int → Prop
  | emit (s : Stage) (slot : String) (value : Int) (agenda : List Task) :
      Starts s (.act slot (.emit value) :: agenda) s value
  | answer {s t : Stage} {slot : String} {answer : Answer} {agenda : List Task} {value : Int}
      (later : Starts s agenda t value) : Starts s (.answer slot answer :: agenda) t value
  | call {s t : Stage} {key : SlotKey} {slot : String} {outer value : Int} {agenda : List Task}
      (later : Starts (s.enter key slot).2 ((s.enter key slot).1.map (.act slot) ++ agenda) t value) :
      Starts s (.call key slot outer :: agenda) t value
  | act {s t : Stage} {slot : String} {a : Action} {agenda : List Task} {value : Int}
      (later : Starts (s.begin a).2.2
        ((s.begin a).2.1.map task ++ .answer slot (s.begin a).1 :: agenda) t value) :
      Starts s (.act slot a :: agenda) t value

theorem Starts.continues {agenda : List Task} (h : Starts s agenda t value) : Continues s t := by
  induction h with
  | emit => exact .of_eq rfl
  | answer _ ih => exact ih
  | call _ ih => exact (Continues.enter _ _ _).trans ih
  | act _ ih => exact (Continues.begin _ _).trans ih

/-- An emission by a signal with a history calls the slots that are connected, each once and with
its value, one after another. What is connected later has a key that it does not call. -/
structure OverSnapshot (s : Stage) (changes : List (Change String)) (value : Int) : Prop where
  connected : (called (History.ofChanges changes).signal value).Perm
    ((History.ofChanges changes).roster.map fun (key, slot) => (key, slot, value))
  once : ((called (History.ofChanges changes).signal value).map (·.1)).Nodup
  in_turn : s.perform (.emit value) =
    (.done, s.callAll (called (History.ofChanges changes).signal value))
  later : ∀ more slot, ((History.ofChanges (changes ++ more)).signal.connect slot).1 ∉
    (called (History.ofChanges changes).signal value).map (·.1)

theorem map_called (m : Signal String) (value : Int) :
    (called m value).map (·.1) = m.snapshot.map (·.1) := by
  simp [called]

theorem OverSnapshot.of_signal {changes : List (Change String)}
    (hs : s.signal = some (History.ofChanges changes).signal) (value : Int) :
    OverSnapshot s changes value where
  connected := (History.Kept.ofChanges changes).snapshot_perm.map _
  once := by
    have hk := History.Kept.ofChanges changes
    rw [map_called]
    exact (hk.snapshot_perm.map _).nodup_iff.2 hk.nodup
  in_turn := perform_emit hs value
  later more slot hmem := by
    have hk := History.Kept.ofChanges changes
    rw [map_called] at hmem
    have hissued := hk.issued ((hk.snapshot_perm.map _).mem_iff.1 hmem)
    have hlater := History.issued_run hissued more
    rw [← History.ofChanges_append] at hlater
    exact SlotMap.not_issued_insert _ slot hlater

/-- Every emission works on the connections of the moment at which it starts. Those that start while
its slots run do the same, with a signal that has changed further or is gone. -/
theorem emission_over_snapshot (s : Stage) (changes : List (Change String))
    (hs : s.signal = some (History.ofChanges changes).signal) (value : Int) :
    OverSnapshot s changes value ∧
      ∀ t inner, Starts s ((called (History.ofChanges changes).signal value).map task) t inner →
        t.signal = none ∨ ∃ more,
          t.signal = some (History.ofChanges (changes ++ more)).signal ∧
            OverSnapshot t (changes ++ more) inner := by
  refine ⟨.of_signal hs value, fun t inner hstarts => ?_⟩
  rcases hstarts.continues.2 _ hs with hnone | ⟨more, hsome⟩
  · exact .inl hnone
  · rw [← History.ofChanges_append] at hsome
    exact .inr ⟨more, hsome, .of_signal hsome inner⟩

def reentrant : Stage :=
  let s := (begin {} (.connect "a" false
    [.disconnect "a", .disconnect "b", .connect "c" false [], .emit 2])).2.2
  (s.begin (.connect "b" false [])).2.2

theorem emission_over_snapshot_of_reentrant :
    reentrant.perform (.emit 1) =
        (.done, reentrant.callAll [(⟨0, 0⟩, "a", 1), (⟨1, 0⟩, "b", 1)]) ∧
      ∃ t changes, OverSnapshot t changes 2 ∧
        t.perform (.emit 2) = (.done, t.callAll [(⟨1, 1⟩, "c", 2)]) := by
  have h := emission_over_snapshot reentrant [.connect "a", .connect "b"] rfl 1
  refine ⟨h.1.in_turn, ?_⟩
  rcases h.2 _ 2 (.call (.act (.answer (.act (.answer (.act (.answer (.emit _ _ _ _)))))))) with
    hnone | ⟨more, hsome, hover⟩
  · cases hnone
  · refine ⟨_, _, hover, ?_⟩
    rw [hover.in_turn, ← Option.some.inj hsome]
    rfl

end Outbound.Stage
