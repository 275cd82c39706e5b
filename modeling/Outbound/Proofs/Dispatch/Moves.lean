import Outbound.Proofs.Dispatch.Agreement

/-! Histories told move by move. Nothing comes between the parts of a move: a request is asked for,
and refused at once where a shutdown has begun; or a step is taken. What resolver and hooks do while
a request is prepared comes between the two moves of its dispatch. So every history is a list of
moves, and lists of moves are more: the moves of two dispatches may follow each other in any order,
as they do where requests are dispatched from several sides at once. -/

namespace Outbound.Dispatcher

inductive Move
  | ask (id : RequestId)
  | take (x : Step)

/-- The identity that a step is about. A shutdown is about none in particular. -/
def Step.subject? : Step → Option RequestId
  | .submit _ d => some d.id
  | .abort id => some id
  | .shutdown => none
  | .deliver tag => some tag.id
  | .complete tag _ => some tag.id
  | .register id => some id

namespace Move

def subject? : Move → Option RequestId
  | .ask id => some id
  | .take x => x.subject?

def registers : Move → Bool
  | .ask _ => false
  | .take x => x.registers

end Move

def tells (s : Dispatcher) : Step → List Entry
  | .submit env d => (s.submit env d).1
  | .complete tag o => (s.complete tag o).1
  | _ => []

def move (s : Dispatcher) : Move → List Entry × Dispatcher
  | .ask id =>
    (.asked id :: if s.active.shuttingDown then (s.refuse id .shuttingDown).1 else [], s)
  | .take x => (s.tells x, s.step x)

def moveAll (s : Dispatcher) : List Move → List Entry × Dispatcher
  | [] => ([], s)
  | m :: ms => ((s.move m).1 ++ (moveAll (s.move m).2 ms).1, (moveAll (s.move m).2 ms).2)

variable {s : Dispatcher}

theorem moveAll_append (s : Dispatcher) (ms ns : List Move) :
    s.moveAll (ms ++ ns) =
      ((s.moveAll ms).1 ++ ((s.moveAll ms).2.moveAll ns).1, ((s.moveAll ms).2.moveAll ns).2) := by
  induction ms generalizing s with
  | nil => rfl
  | cons m ms ih => simp only [List.cons_append, moveAll, ih, List.append_assoc]

mutual

def moves (s : Dispatcher) : Action → List Move
  | .dispatch env d meanwhile =>
    if s.active.shuttingDown then [.ask d.id]
    else .ask d.id :: movesAll s meanwhile ++ [.take (.submit env d)]
  | .abort id => [.take (.abort id)]
  | .shutdown => [.take .shutdown]
  | .deliver tag => [.take (.deliver tag)]
  | .complete tag o => [.take (.complete tag o)]
  | .register id => [.take (.register id)]

def movesAll (s : Dispatcher) : List Action → List Move
  | [] => []
  | a :: as => moves s a ++ movesAll (perform s a).2 as

end

mutual

theorem moveAll_moves : ∀ (a : Action) (s : Dispatcher), s.moveAll (moves s a) = perform s a
  | .dispatch env d meanwhile, s => by
    cases hdown : s.active.shuttingDown with
    | true => simp [moves, hdown, perform_dispatch_of_closed hdown, moveAll, move, refuse]
    | false =>
      have hmeanwhile := moveAll_movesAll meanwhile s
      simp only [moves, hdown, Bool.false_eq_true, if_false, List.cons_append, moveAll, move,
        moveAll_append, hmeanwhile, perform_dispatch_of_open hdown]
      simp [tells, step]
  | .abort id, s => rfl
  | .shutdown, s => rfl
  | .deliver tag, s => rfl
  | .complete tag o, s => by simp [moves, moveAll, move, tells, step, perform]
  | .register id, s => rfl

theorem moveAll_movesAll :
    ∀ (as : List Action) (s : Dispatcher), s.moveAll (movesAll s as) = performAll s as
  | [], s => rfl
  | a :: as, s => by
    rw [movesAll, moveAll_append, moveAll_moves a s, moveAll_movesAll as, performAll_cons]

end

mutual

theorem registers_moves : ∀ (a : Action) (s : Dispatcher), (∀ x ∈ a.steps, x.registers = false) →
    ∀ m ∈ moves s a, m.registers = false
  | .dispatch env d meanwhile, s, ha, m, hm => by
    have hmeanwhile : ∀ x ∈ Action.stepsAll meanwhile, x.registers = false := fun x hx =>
      ha x (List.mem_append_left _ hx)
    unfold moves at hm
    split at hm
    · rw [List.mem_singleton.1 hm]
      rfl
    · simp only [List.cons_append, List.mem_cons, List.mem_append, List.not_mem_nil, or_false] at hm
      obtain rfl | hm | rfl := hm
      · rfl
      · exact registers_movesAll meanwhile s hmeanwhile m hm
      · rfl
  | .abort id, s, ha, m, hm => by rw [List.mem_singleton.1 hm]; rfl
  | .shutdown, s, ha, m, hm => by rw [List.mem_singleton.1 hm]; rfl
  | .deliver tag, s, ha, m, hm => by rw [List.mem_singleton.1 hm]; rfl
  | .complete tag o, s, ha, m, hm => by rw [List.mem_singleton.1 hm]; rfl
  | .register id, s, ha, m, hm => nomatch ha (.register id) (List.mem_singleton.2 rfl)

theorem registers_movesAll : ∀ (as : List Action) (s : Dispatcher), Orderly as →
    ∀ m ∈ movesAll s as, m.registers = false
  | [], _, _, m, hm => nomatch hm
  | a :: as, s, has, m, hm => by
    rcases List.mem_append.1 hm with hm | hm
    · exact registers_moves a s (fun x hx => has x (List.mem_append_left _ hx)) m hm
    · exact registers_movesAll as _ (fun x hx => has x (List.mem_append_right _ hx)) m hm

end

structure Sound (s : Dispatcher) : Prop where
  linked : Linked s
  agrees : Agrees s

theorem Sound.ofClient (c : Client) : Sound (.ofClient c) := ⟨.ofClient c, .ofClient c⟩

theorem Sound.move (h : Sound s) {m : Move} (hm : m.registers = false) : Sound (s.move m).2 := by
  cases m with
  | ask id => exact h
  | take x => exact ⟨h.linked.step x, h.agrees.step hm⟩

theorem id_of_told {e : Event} {m : Move} (he : e ∈ (s.move m).1.filterMap Entry.event?) :
    m.subject? = some e.id := by
  cases m with
  | ask id =>
    cases hdown : s.active.shuttingDown with
    | false => simp [move, hdown, Entry.event?] at he
    | true =>
      have htold : e = .ofFailure id .shuttingDown := by
        simpa [move, refuse, tell, Entry.event?, hdown, eq_comm] using he
      rw [htold]
      rfl
  | take x =>
    cases x with
    | submit env d =>
      change e ∈ (s.submit env d).1.filterMap Entry.event? at he
      rcases submit_cases s env d with ⟨sub, -, -, -, heq⟩ | ⟨shown, f, t, -, -, hshown, heq⟩ |
        ⟨-, heq⟩
      · simp [heq, Entry.event?] at he
      · have hnone : shown.filterMap Entry.event? = [] := by
          rcases hshown with rfl | ⟨r, rfl⟩ <;> rfl
        have htold : e = .ofFailure d.id f := by
          simpa [heq, hnone, tell, Entry.event?, eq_comm] using he
        rw [htold]
        rfl
      · simp [heq, Entry.event?] at he
    | complete tag o =>
      change e ∈ (s.complete tag o).1.filterMap Entry.event? at he
      by_cases hmem : tag ∈ s.tags
      · rw [complete_of_mem hmem] at he
        have htold : e = o.event tag.id := by
          simpa [tell, Entry.event?, eq_comm] using he
        rw [htold, Outcome.id_event]
        rfl
      · rw [complete_of_not_mem hmem] at he
        cases he
    | _ => cases he

def started (s : Dispatcher) (m : Move) : List CallTag := (s.move m).2.tags.filter (· ∉ s.tags)

theorem started_eq_nil {m : Move} (h : ∀ tag ∈ (s.move m).2.tags, tag ∈ s.tags) :
    s.started m = [] := List.filter_eq_nil_iff.2 (by simpa using h)

theorem mem_started {m : Move} {tag : CallTag} :
    tag ∈ s.started m ↔ tag ∈ (s.move m).2.tags ∧ tag ∉ s.tags := by
  simp [started]

theorem started_accept (h : Linked s) {m : Move} {sub : Submission}
    (hm : (s.move m).2 = s.accept sub) : s.started m = [s.calls.fresh sub.id] := by
  have hnew : s.calls.fresh sub.id ∉ s.tags := fun hin => Nat.lt_irrefl _ (h.tags_issued _ hin)
  have htags : (s.accept sub).tags = s.tags ++ [s.calls.fresh sub.id] := List.map_append
  have hold : s.tags.filter (· ∉ s.tags) = [] := List.filter_eq_nil_iff.2 (by simp)
  rw [started, hm, htags, List.filter_append, hold]
  simp [hnew]

theorem started_cases (h : Sound s) {m : Move} (hm : m.registers = false) :
    (s.started m = [] ∧
      (s.active.shuttingDown = false → (s.move m).2.calls.next = s.calls.next)) ∨
    s.active.shuttingDown = false ∧ ∃ id, m.subject? = some id ∧
      s.started m = [s.calls.fresh id] ∧ (s.move m).2.calls.next = s.calls.next + 1 := by
  cases m with
  | ask id => exact .inl ⟨started_eq_nil fun _ ht => ht, fun _ => rfl⟩
  | take x =>
    cases x with
    | submit env d =>
      cases hp : (d.prepare env).outcome with
      | error f =>
        have hsame : (s.move (.take (.submit env d))).2 = s := submit_of_error hp
        exact .inl ⟨started_eq_nil (by simp [hsame]), fun _ => by rw [hsame]⟩
      | ok sub =>
        have hsub : sub.id = d.id := id_of_prepare hp
        have hmove : (s.move (.take (.submit env d))).2 = (s.start sub).2 := by
          rw [move, step, submit_of_ok hp]
        rcases start_cases s sub with ⟨hfree, hstart⟩ | ⟨hbusy, f, t, ht, hstart⟩
        · have haccept := hmove.trans (congrArg Prod.snd hstart)
          refine .inr ⟨hfree.accepting, sub.id, congrArg some hsub.symm,
            started_accept h.linked haccept, ?_⟩
          rw [haccept]
          rfl
        · have hrefused : (s.move (.take (.submit env d))).2 = t :=
            hmove.trans (congrArg Prod.snd hstart)
          have htags : t.tags = s.tags := by rcases ht with rfl | rfl <;> rfl
          refine .inl ⟨started_eq_nil (by simp [hrefused, htags]), fun hopen => ?_⟩
          -- a request that is refused while others are taken on has a live call
          have hcalled : s.calls.contains sub.id = true := by
            by_contra hcalled
            have hout : sub.id ∉ s.active := mt (h.agrees sub.id).1 hcalled
            exact hbusy ⟨⟨Bool.eq_false_iff.2 hcalled, hout⟩, hopen⟩
          rw [hmove, start_of_contains hcalled]
          rfl
    | abort id =>
      refine .inl ⟨started_eq_nil fun _ ht => ?_, fun _ => next_abort s id⟩
      simpa [move, step, tags] using ht
    | shutdown =>
      refine .inl ⟨started_eq_nil fun _ ht => ?_, fun _ => next_shutdown s⟩
      simpa [move, step, tags] using ht
    | deliver tag =>
      refine .inl ⟨started_eq_nil fun _ ht => ?_, fun _ => next_deliver s tag⟩
      simpa [move, step] using ht
    | complete tag o =>
      refine .inl ⟨started_eq_nil fun other ht => ?_, fun _ => ?_⟩
      · refine complete_preserves (P := fun t => other ∈ t.tags → other ∈ s.tags) ?_ ?_ id ht
        · exact fun _ hin => (List.filter_sublist.map _).subset hin
        · exact fun _ hin => (List.filter_sublist.map _).subset hin
      · exact complete_preserves (P := fun t => t.calls.next = s.calls.next) (fun _ => rfl)
          (fun _ => rfl) rfl
    | register id => cases hm

theorem id_of_started (h : Sound s) {m : Move} (hm : m.registers = false)
    {tag : CallTag} (ht : tag ∈ s.started m) : m.subject? = some tag.id := by
  rcases started_cases h hm with ⟨hnone, -⟩ | ⟨-, id, hid, hone, -⟩
  · rw [hnone] at ht
    cases ht
  · rw [hone] at ht
    rw [hid, List.mem_singleton.1 ht]
    rfl

theorem next_move (h : Sound s) {m : Move} (hm : m.registers = false)
    (hopen : s.active.shuttingDown = false) :
    (s.move m).2.calls.next = s.calls.next + (s.started m).length := by
  rcases started_cases h hm with ⟨hnone, hnext⟩ | ⟨-, id, -, hone, hnext⟩
  · rw [hnone, hnext hopen]
    rfl
  · rw [hone, hnext]
    rfl

theorem next_le_move (s : Dispatcher) (m : Move) : s.calls.next ≤ (s.move m).2.calls.next := by
  cases m with
  | ask id => exact Nat.le_refl _
  | take x => exact next_le_step s x

theorem open_of_move {m : Move} (h : (s.move m).2.active.shuttingDown = false) :
    s.active.shuttingDown = false := by
  cases m with
  | ask id => exact h
  | take x =>
    have hstep : (s.active.shuttingDown || x.stops) = false := (shuttingDown_step s x).symm.trans h
    exact (Bool.or_eq_false_iff.1 hstep).1

theorem mem_cancels_detachAll (s : Dispatcher) (ids : List RequestId) {tag : CallTag}
    (ht : tag ∈ (ids.foldl detach s).cancels) : tag ∈ s.cancels ∨ tag ∈ s.calls.live := by
  induction ids generalizing s with
  | nil => exact .inl ht
  | cons id ids ih =>
    rcases ih (s.detach id) ht with ht | ht
    · rcases List.mem_append.1 ht with ht | ht
      · exact .inl ht
      · exact .inr (List.mem_of_find?_eq_some (Option.mem_toList.1 ht))
    · exact .inr (CallTable.mem_without.1 ht).1

theorem mem_cancels_step {x : Step} {tag : CallTag} (ht : tag ∈ (s.step x).cancels) :
    tag ∈ s.cancels ∨ tag ∈ s.calls.live := by
  cases x with
  | submit env d =>
    refine .inl (submit_preserves (P := fun t => tag ∈ t.cancels → tag ∈ s.cancels) ?_ ?_ id ht)
    · exact fun _ h => h
    · exact fun _ _ _ _ h => h
  | abort id =>
    change tag ∈ (s.abort id).cancels at ht
    unfold abort at ht
    split at ht
    · exact mem_cancels_detachAll { s with active := (s.active.remove id).2 } [id] ht
    · exact .inl ht
  | shutdown =>
    exact mem_cancels_detachAll { s with active := s.active.beginShutdown.takeAll.2 }
      s.active.ids ht
  | deliver other =>
    change tag ∈ (s.deliver other).cancels at ht
    unfold deliver at ht
    split at ht
    · exact .inl (List.mem_of_mem_erase ht)
    · exact .inl ht
  | complete other o =>
    refine .inl (complete_preserves (P := fun t => tag ∈ t.cancels → tag ∈ s.cancels) ?_ ?_ id ht)
    · exact fun _ h => h
    · exact fun _ h => h
  | register id => exact .inl ht

theorem mem_cancels_move {m : Move} {tag : CallTag} (ht : tag ∈ (s.move m).2.cancels) :
    tag ∈ s.cancels ∨ tag ∈ s.calls.live := by
  cases m with
  | ask id => exact .inl ht
  | take x => exact mem_cancels_step ht

end Outbound.Dispatcher
