import Outbound.Proofs.Signal.Tenure
import Outbound.Proofs.Signal.Order

/-! Ids and guards in the course of a run. Whatever callers and slots do, also inside an emission and
when the signal is gone, an id or a guard belongs to the one connection that it was given out for: it
ends this connection if it still stands, and otherwise nothing. -/

namespace Outbound.Stage

open Signal Signal.History

variable {s : Stage} {m : Signal String} {changes : List (Change String)} {key : SlotKey}
  {slot : String} {a : Action} {agenda : List Task}

def changesOf (s : Stage) (a : Action) : List (Change String) :=
  match s.signal, a with
  | none, _ => []
  | some _, .engage slot guarded _ _ =>
    -- the older guard of the name is dropped when the new connection is there
    .connect slot :: if guarded then (s.guards.find? slot).toList.map .disconnect else []
  | some _, .disconnect slot => (s.latest.find? slot).toList.map .disconnect
  | some _, .dropGuard slot => (s.guards.find? slot).toList.map .disconnect
  | some _, .emit _ => []
  | some _, .dropSignal => []

/-- The moments of a run, with what has happened to the connections so far and the agenda that is
left. Between two tasks anyone may begin an action or use any id at hand. -/
inductive Reached : List (Change String) → Stage → List Task → Prop
  | start (agenda : List Task) : Reached [] {} agenda
  | answer {changes : List (Change String)} {s : Stage} {slot : String} {answer : Answer}
      {agenda : List Task} (before : Reached changes s (.answer slot answer :: agenda)) :
      Reached changes s agenda
  | call {changes : List (Change String)} {s : Stage} {key : SlotKey} {slot : String} {value : Int}
      {agenda : List Task} (before : Reached changes s (.call key slot value :: agenda)) :
      Reached changes (s.enter key slot).2 ((s.enter key slot).1.map (.act slot) ++ agenda)
  | act {changes : List (Change String)} {s : Stage} {slot : String} {a : Action}
      {agenda : List Task} (before : Reached changes s (.act slot a :: agenda)) :
      Reached (changes ++ s.changesOf a) (s.begin a).2.2
        ((s.begin a).2.1.map task ++ .answer slot (s.begin a).1 :: agenda)
  | join {changes : List (Change String)} {s : Stage} {agenda : List Task}
      (before : Reached changes s agenda) (slot : String) (a : Action) :
      Reached changes s (.act slot a :: agenda)
  | revoke {changes : List (Change String)} {s : Stage} {agenda : List Task}
      (before : Reached changes s agenda) (hs : s.signal ≠ none) (key : SlotKey) :
      Reached (changes ++ [.disconnect key]) (s.disconnectKey key).2 agenda

theorem Reached.work (h : Reached changes s agenda) :
    ∃ more, Reached (changes ++ more) (s.work agenda).2 [] := by
  fun_induction s.work agenda generalizing changes
  case case1 => exact ⟨[], by simpa using h⟩
  case case2 hwork ih =>
    rw [hwork] at ih
    exact ih h.answer
  case case3 hwork ih =>
    rw [hwork] at ih
    exact ih h.call
  case case4 s slot a agenda begun ih =>
    obtain ⟨more, hmore⟩ := ih h.act
    exact ⟨s.changesOf a ++ more, by simpa using hmore⟩

/-- The signal has gone through the changes, unless it is gone, and every id and guard is that of a
connection of its name. -/
structure Tied (changes : List (Change String)) (s : Stage) : Prop where
  signal : ∀ m, s.signal = some m → m = (ofChanges changes).signal
  latest : ∀ p ∈ s.latest, Made changes p.2 p.1
  guards : ∀ p ∈ s.guards, Made changes p.2 p.1

theorem Made.of_find? {l : Named SlotKey} (hl : ∀ p ∈ l, Made changes p.2 p.1)
    (hf : l.find? slot = some key) : Made changes key slot := by
  obtain ⟨p, hp, rfl⟩ := Option.map_eq_some_iff.1 hf
  have hname : p.1 = slot := by simpa using List.find?_some hp
  exact hname ▸ hl p (List.mem_of_find?_eq_some hp)

theorem Made.erase {l : Named SlotKey} (hl : ∀ p ∈ l, Made changes p.2 p.1) (slot : String) :
    ∀ p ∈ l.erase slot, Made changes p.2 p.1 := fun p hp => hl p (List.mem_of_mem_filter hp)

theorem Made.put {l : Named SlotKey} (hl : ∀ p ∈ l, Made changes p.2 p.1)
    (hm : Made changes key slot) : ∀ p ∈ l.put slot key, Made changes p.2 p.1 :=
  List.forall_mem_cons.2 ⟨hm, Made.erase hl slot⟩

theorem disconnectKey_of_signal (hs : s.signal = some m) (key : SlotKey) :
    s.disconnectKey key =
      ((m.disconnect key).1, { s with signal := some (m.disconnect key).2 }) := by
  simp only [disconnectKey, hs]

theorem disconnectKey_of_gone (hs : s.signal = none) (key : SlotKey) :
    s.disconnectKey key = (false, s) := by
  simp only [disconnectKey, hs]

theorem dropGuard_of_find? (hf : s.guards.find? slot = some key) :
    s.dropGuard slot =
      (true, { (s.disconnectKey key).2 with guards := s.guards.erase slot }) := by
  simp only [dropGuard, hf]

theorem dropGuard_of_none (hf : s.guards.find? slot = none) : s.dropGuard slot = (false, s) := by
  simp only [dropGuard, hf]

theorem begin_dropGuard (s : Stage) (slot : String) :
    s.begin (.dropGuard slot) = (.flag (s.dropGuard slot).1, [], (s.dropGuard slot).2) := by
  simp [begin]

namespace Tied

theorem new : Tied [] {} := ⟨fun _ hm => (Option.some.inj hm).symm, by simp, by simp⟩

theorem of_signal {t : Stage} (ht : Tied changes s) (hsignal : t.signal = s.signal)
    (hlatest : t.latest = s.latest) (hguards : t.guards = s.guards) : Tied changes t :=
  ⟨hsignal ▸ ht.signal, hlatest ▸ ht.latest, hguards ▸ ht.guards⟩

theorem revoke (ht : Tied changes s) (hs : s.signal = some m) (key : SlotKey) :
    Tied (changes ++ [.disconnect key]) (s.disconnectKey key).2 := by
  rw [disconnectKey_of_signal hs]
  refine ⟨fun n hn => ?_, fun p hp => (ht.latest p hp).append _, fun p hp => (ht.guards p hp).append _⟩
  obtain rfl := ht.signal m hs
  obtain rfl := Option.some.inj hn
  rw [ofChanges_append]
  rfl

theorem dropGuard (ht : Tied changes s) (slot : String) :
    Tied (changes ++ s.changesOf (.dropGuard slot)) (s.dropGuard slot).2 := by
  cases hf : s.guards.find? slot with
  | none =>
    have hnone : s.changesOf (.dropGuard slot) = [] := by
      unfold changesOf
      split <;> simp_all
    rw [hnone, List.append_nil, dropGuard_of_none hf]
    exact ht
  | some key =>
    rw [dropGuard_of_find? hf]
    cases hs : s.signal with
    | none =>
      have hnone : s.changesOf (.dropGuard slot) = [] := by simp [changesOf, hs]
      rw [hnone, List.append_nil, disconnectKey_of_gone hs]
      exact ⟨ht.signal, ht.latest, Made.erase ht.guards slot⟩
    | some m =>
      have hone : s.changesOf (.dropGuard slot) = [.disconnect key] := by simp [changesOf, hs, hf]
      have hrevoked := ht.revoke hs key
      rw [disconnectKey_of_signal hs] at hrevoked ⊢
      rw [hone]
      exact ⟨hrevoked.signal, hrevoked.latest, Made.erase hrevoked.guards slot⟩

theorem connect (ht : Tied changes s) (hs : s.signal = some m) (slot : String) (guarded : Bool)
    (script : List Action) (encores : List (List Action)) :
    Tied (changes ++ s.changesOf (.engage slot guarded script encores))
      (s.connect m slot guarded script encores) := by
  obtain rfl := ht.signal m hs
  have hmade : Made (changes ++ [.connect slot]) ((ofChanges changes).signal.connect slot).1 slot :=
    made_concat.2 (.inl ⟨rfl, rfl⟩)
  have hconnected : Tied (changes ++ [.connect slot])
      (s.connect (ofChanges changes).signal slot false script encores) := by
    refine ⟨fun n hn => ?_, Made.put (fun p hp => (ht.latest p hp).append _) hmade,
      fun p hp => (ht.guards p hp).append _⟩
    obtain rfl := Option.some.inj hn
    rw [ofChanges_append]
    rfl
  cases guarded with
  | false =>
    have hone : s.changesOf (.engage slot false script encores) = [.connect slot] := by
      simp [changesOf, hs]
    rw [hone]
    exact hconnected
  | true =>
    have hdropped := hconnected.dropGuard slot
    have hmore : changes ++ s.changesOf (.engage slot true script encores) =
        changes ++ [.connect slot] ++
          (s.connect (ofChanges changes).signal slot false script encores).changesOf
            (.dropGuard slot) := by
      simp [changesOf, hs, Stage.connect]
    rw [hmore]
    exact ⟨hdropped.signal, hdropped.latest, Made.put hdropped.guards (hmade.append _)⟩

theorem begin (ht : Tied changes s) (a : Action) :
    Tied (changes ++ s.changesOf a) (s.begin a).2.2 := by
  cases a with
  | dropSignal =>
    have hnone : s.changesOf .dropSignal = [] := by
      unfold changesOf
      split <;> simp_all
    rw [hnone, List.append_nil]
    exact ⟨by simp [Stage.begin], ht.latest, ht.guards⟩
  | dropGuard slot =>
    rw [begin_dropGuard]
    exact ht.dropGuard slot
  | engage slot guarded script encores =>
    cases hs : s.signal with
    | none => simpa [changesOf, Stage.begin, hs] using ht
    | some m => simpa [Stage.begin, hs] using ht.connect hs slot guarded script encores
  | disconnect slot =>
    cases hs : s.signal with
    | none => simpa [changesOf, Stage.begin, hs] using ht
    | some m =>
      cases hf : s.latest.find? slot with
      | none => simpa [changesOf, Stage.begin, hs, hf] using ht
      | some key => simpa [changesOf, Stage.begin, hs, hf] using ht.revoke hs key
  | emit value => cases hs : s.signal <;> simpa [changesOf, Stage.begin, hs] using ht

theorem enter (ht : Tied changes s) (key : SlotKey) (slot : String) :
    Tied changes (s.enter key slot).2 := by
  unfold Stage.enter
  split <;> exact ht.of_signal rfl rfl rfl

end Tied

theorem Reached.tied (h : Reached changes s agenda) : Tied changes s := by
  induction h with
  | start => exact .new
  | answer _ ih => exact ih
  | call _ ih => exact ih.enter _ _
  | act _ ih => exact ih.begin _
  | join _ _ _ ih => exact ih
  | revoke _ hs key ih =>
    obtain ⟨m, hm⟩ := Option.ne_none_iff_exists'.1 hs
    exact ih.revoke hm key

/-- At every moment of every run: a disconnection by an id succeeds exactly if a connection was made
under this id and has not been ended yet, and takes away this connection alone; no new connection gets
an id that was given out before; connections and endings add up. A name stands for a connection that
was made under it. A guard is the only one of its connection and ends this connection alone; if the
connection or the signal is gone, nothing but the guard itself is. The rest of the agenda leads to such
moments again. -/
theorem ends_own_connection_only (h : Reached changes s agenda) :
    (∀ m, s.signal = some m →
      (∀ key, (m.disconnect key).1 = true ↔ (∃ slot, Made changes key slot) ∧ ¬ Ended changes key) ∧
      (∀ key, (m.disconnect key).2.snapshot = m.snapshot.filter (·.1 ≠ key)) ∧
      (∀ slot old, ¬ Made changes (m.connect slot).1 old) ∧
      m.count + endings {} changes = changes.countP Change.connects) ∧
    (∀ slot key, s.latest.find? slot = some key → Made changes key slot ∧
      ∀ m, s.signal = some m → s.begin (.disconnect slot) =
        (.flag (m.disconnect key).1, [], { s with signal := some (m.disconnect key).2 })) ∧
    (∀ slot key, s.guards.find? slot = some key → Made changes key slot ∧
      (∀ other, s.guards.find? other = some key → other = slot) ∧
      (∀ m, s.signal = some m → s.begin (.dropGuard slot) = (.flag true, [],
        { s with signal := some (m.disconnect key).2, guards := s.guards.erase slot })) ∧
      (s.signal = none ∨ Ended changes key → s.begin (.dropGuard slot) =
        (.flag true, [], { s with guards := s.guards.erase slot }))) ∧
    ∃ more, Reached (changes ++ more) (s.work agenda).2 [] := by
  have ht := h.tied
  refine ⟨fun m hm => ?_, fun slot key hf => ⟨Made.of_find? ht.latest hf, fun m hm => ?_⟩,
    fun slot key hf => ?_, h.work⟩
  · obtain rfl := ht.signal m hm
    refine ⟨disconnect_iff_standing changes, snapshot_disconnect _, not_made_connect changes, ?_⟩
    exact (count_run Kept.new changes).trans (Nat.zero_add _)
  · simp only [begin, hm, hf, disconnectKey_of_signal hm]
  · have hmade := Made.of_find? ht.guards hf
    have hfound : ∀ m, s.signal = some m → s.begin (.dropGuard slot) = (.flag true, [],
        { s with signal := some (m.disconnect key).2, guards := s.guards.erase slot }) := by
      intro m hm
      rw [begin_dropGuard, dropGuard_of_find? hf, disconnectKey_of_signal hm]
    refine ⟨hmade, fun other ho => (Made.of_find? ht.guards ho).unique hmade, hfound, fun hgone => ?_⟩
    rcases Option.eq_none_or_eq_some s.signal with hs | ⟨m, hs⟩
    · rw [begin_dropGuard, dropGuard_of_find? hf, disconnectKey_of_gone hs]
    · have hended : Ended changes key := hgone.resolve_left (by simp [hs])
      obtain rfl := ht.signal m hs
      have hstale : ((ofChanges changes).signal.disconnect key).1 = false := by
        rw [← Bool.not_eq_true, disconnect_iff_standing]
        exact fun hstands => hstands.2 hended
      rw [hfound _ hs, disconnect_of_not_found hstale, ← hs]

/-- A guarded connection is ended by its id, and its position is taken by a second one, whose slot has
the older guard at hand. -/
def handedOver : Stage :=
  let s := (begin {} (.connect "a" true [])).2.2
  let s := (s.begin (.disconnect "a")).2.2
  let s := (s.begin (.connect "b" false [.dropGuard "a"])).2.2
  (s.enter ⟨0, 1⟩ "b").2

theorem reached_handedOver : Reached [.connect "a", .disconnect ⟨0, 0⟩, .connect "b"] handedOver
    [.act "b" (.dropGuard "a"), .answer "main" .done] :=
  (Reached.start [.act "main" (.connect "a" true []), .act "main" (.disconnect "a"),
    .act "main" (.connect "b" false [.dropGuard "a"]), .act "main" (.emit 1)]
    ).act.answer.act.answer.act.answer.act.call

theorem ends_own_connection_only_of_handedOver :
    handedOver.guards.find? "a" = some ⟨0, 0⟩ ∧
      handedOver.begin (.dropGuard "a") = (.flag true, [], { handedOver with guards := [] }) ∧
      ∃ m, handedOver.signal = some m ∧ (m.disconnect ⟨0, 0⟩).1 = false ∧
        (m.disconnect ⟨0, 1⟩).1 = true ∧ (m.disconnect ⟨0, 0⟩).2.snapshot = [(⟨0, 1⟩, "b")] := by
  have h := ends_own_connection_only reached_handedOver
  have hended : Ended [Change.connect "a", .disconnect ⟨0, 0⟩, .connect "b"] ⟨0, 0⟩ :=
    ⟨[.connect "a"], ⟨[.connect "b"], rfl⟩, "a", [], ⟨[], rfl⟩, rfl⟩
  obtain ⟨hfound, htaken, -, -⟩ := h.1 _ rfl
  refine ⟨rfl, (h.2.2.1 "a" ⟨0, 0⟩ rfl).2.2.2 (.inr hended), _, rfl, ?_, rfl, htaken ⟨0, 0⟩⟩
  exact Bool.eq_false_iff.2 fun h => ((hfound ⟨0, 0⟩).1 h).2 hended

end Outbound.Stage
