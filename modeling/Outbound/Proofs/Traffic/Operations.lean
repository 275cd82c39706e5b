import Outbound.Dispatch.Traffic
import Outbound.Proofs.Dispatch.Step

/-! What the operations come to. Those of one call that are done without a break are what the
dispatcher does at once. -/

namespace Outbound

namespace Traffic

variable {s : Traffic} {p : Phase} {id : RequestId} {tag : CallTag}

theorem advance_registering_of_free (h : s.active.contains tag.id = false) :
    s.advance (.registering tag) = (true,
      ⟨s.active.insert tag.id, s.calls, [.running tag] ++ s.phases.erase (.registering tag)⟩) := by
  simp [advance, ActiveSet.add, h, replace]

theorem advance_registering_of_taken (h : s.active.contains tag.id = true) :
    s.advance (.registering tag) = (false,
      ⟨s.active, s.calls, [.withdrawing tag] ++ s.phases.erase (.registering tag)⟩) := by
  have hin : tag.id ∈ s.active.ids := ActiveSet.contains_iff.1 h
  simp [advance, ActiveSet.add, h, replace, ActiveSet.insert, hin]

theorem advance_withdrawing_of_find? (h : s.calls.find? tag.id = some tag) :
    s.advance (.withdrawing tag) = (true,
      ⟨s.active, s.calls.without tag.id, [] ++ s.phases.erase (.withdrawing tag)⟩) := by
  simp [advance, CallTable.untag_of_find? h, replace]

theorem advance_withdrawing_of_find?_ne (h : s.calls.find? tag.id ≠ some tag) :
    s.advance (.withdrawing tag) = (false,
      ⟨s.active, s.calls, [] ++ s.phases.erase (.withdrawing tag)⟩) := by
  simp [advance, CallTable.untag_of_find?_ne h, replace]

theorem advance_running_of_find? (h : s.calls.find? tag.id = some tag) :
    s.advance (.running tag) = (true,
      ⟨s.active, s.calls.without tag.id,
        [.unregistering tag] ++ s.phases.erase (.running tag)⟩) := by
  simp [advance, CallTable.untag_of_find? h, replace]

theorem advance_running_of_find?_ne (h : s.calls.find? tag.id ≠ some tag) :
    s.advance (.running tag) = (false,
      ⟨s.active, s.calls, [] ++ s.phases.erase (.running tag)⟩) := by
  simp [advance, CallTable.untag_of_find?_ne h, replace]

theorem advance_unregistering (s : Traffic) (tag : CallTag) :
    s.advance (.unregistering tag) = (s.active.contains tag.id,
      ⟨s.active.erase tag.id, s.calls, [] ++ s.phases.erase (.unregistering tag)⟩) := rfl

theorem advance_detaching (s : Traffic) (id : RequestId) :
    s.advance (.detaching id) = (s.calls.contains id,
      ⟨s.active, s.calls.without id, [] ++ s.phases.erase (.detaching id)⟩) := rfl

theorem perform_dispatch_of_contains (h : s.calls.contains id = true) :
    s.perform (.dispatch id) = ([], s) := by
  simp [perform, CallTable.tag_of_contains h]

theorem perform_dispatch_of_free (h : s.calls.contains id = false) :
    s.perform (.dispatch id) =
      ([], ⟨s.active, s.calls.push id, .registering (s.calls.fresh id) :: s.phases⟩) := by
  simp [perform, CallTable.tag_of_not_contains h]

theorem perform_abort_of_contains (h : s.active.contains id = true) :
    s.perform (.abort id) = ([], ⟨s.active.erase id, s.calls, .detaching id :: s.phases⟩) := by
  simp [perform, ActiveSet.remove, h]

theorem perform_abort_of_not_contains (h : s.active.contains id = false) :
    s.perform (.abort id) = ([], s) := by
  have hout : id ∉ s.active := fun hin => by simp [ActiveSet.contains_iff.2 hin] at h
  simp only [perform, ActiveSet.remove, h, ActiveSet.erase_of_not_mem hout]
  rfl

theorem perform_advance_of_mem (h : p ∈ s.phases) :
    s.perform (.advance p) = ([(p, (s.advance p).1)], (s.advance p).2) := if_pos h

theorem perform_advance_of_not_mem (h : p ∉ s.phases) : s.perform (.advance p) = ([], s) :=
  if_neg h

theorem performAll_cons (s : Traffic) (m : Move) (ms : List Move) :
    s.performAll (m :: ms) =
      ((s.perform m).1 ++ ((s.perform m).2.performAll ms).1, ((s.perform m).2.performAll ms).2) :=
  rfl

end Traffic

namespace Dispatcher

open Traffic

variable {s : Dispatcher}

/-- The traffic of a dispatcher: none of its calls is between two operations. -/
def traffic (s : Dispatcher) : Traffic := ⟨s.active, s.calls, s.tasks.map (.running ·.tag)⟩

theorem traffic_start (sub : Submission) (h : s.active.shuttingDown = false) :
    let tag := s.calls.fresh sub.id
    let t := (s.traffic.performAll
      [.dispatch sub.id, .advance (.registering tag), .advance (.withdrawing tag)]).2
    t.active = (s.start sub).2.active ∧ t.calls = (s.start sub).2.calls := by
  intro tag
  rw [Traffic.performAll_cons, Traffic.performAll_cons, Traffic.performAll_cons]
  cases hcalled : s.calls.contains sub.id with
  | true =>
    have hregistering : .registering tag ∉ s.traffic.phases := by simp [traffic]
    have hwithdrawing : .withdrawing tag ∉ s.traffic.phases := by simp [traffic]
    rw [perform_dispatch_of_contains hcalled, perform_advance_of_not_mem hregistering,
      perform_advance_of_not_mem hwithdrawing, start_of_contains hcalled]
    exact ⟨rfl, rfl⟩
  | false =>
    rw [perform_dispatch_of_free hcalled, perform_advance_of_mem (List.mem_cons_self ..)]
    by_cases hin : sub.id ∈ s.active
    · rw [advance_registering_of_taken (ActiveSet.contains_iff.2 hin),
        perform_advance_of_mem (List.mem_cons_self ..),
        advance_withdrawing_of_find? (CallTable.find?_push_self hcalled), start_of_mem hcalled hin]
      exact ⟨rfl, CallTable.without_push hcalled⟩
    · have hout : s.active.contains sub.id = false := by simp [ActiveSet.contains, hin]
      rw [advance_registering_of_free hout, perform_advance_of_not_mem (by simp [traffic, tag]),
        start_of_free ⟨⟨hcalled, hin⟩, h⟩]
      exact ⟨rfl, rfl⟩

theorem traffic_complete (s : Dispatcher) (tag : CallTag) (o : Outcome) :
    let t := (s.traffic.performAll [.advance (.running tag), .advance (.unregistering tag)]).2
    t.active = (s.complete tag o).2.active ∧ t.calls = (s.complete tag o).2.calls := by
  have hunregistering : .unregistering tag ∉ s.traffic.phases := by simp [traffic]
  rw [Traffic.performAll_cons, Traffic.performAll_cons]
  by_cases hmem : tag ∈ s.tasks.map (·.tag)
  · have hrunning : .running tag ∈ s.traffic.phases := by simpa [traffic] using hmem
    rw [perform_advance_of_mem hrunning]
    by_cases hlive : s.calls.find? tag.id = some tag
    · rw [advance_running_of_find? hlive, complete_of_live hmem hlive,
        perform_advance_of_mem (List.mem_cons_self ..), advance_unregistering]
      exact ⟨rfl, rfl⟩
    · rw [advance_running_of_find?_ne hlive, complete_of_detached hmem hlive,
        perform_advance_of_not_mem fun h => hunregistering (List.mem_of_mem_erase h)]
      exact ⟨rfl, rfl⟩
  · have hrunning : .running tag ∉ s.traffic.phases := by simpa [traffic] using hmem
    rw [perform_advance_of_not_mem hrunning, perform_advance_of_not_mem hunregistering,
      complete_of_not_mem hmem]
    exact ⟨rfl, rfl⟩

theorem traffic_abort (s : Dispatcher) (id : RequestId) :
    (s.traffic.performAll [.abort id, .advance (.detaching id)]).2 = (s.abort id).traffic := by
  rw [Traffic.performAll_cons, Traffic.performAll_cons]
  cases hin : s.active.contains id with
  | true =>
    rw [perform_abort_of_contains hin, perform_advance_of_mem (List.mem_cons_self ..),
      advance_detaching]
    simp [Traffic.performAll, traffic, abort, hin, detach, ActiveSet.remove, CallTable.detach]
  | false =>
    have hdetaching : .detaching id ∉ s.traffic.phases := by simp [traffic]
    rw [perform_abort_of_not_contains hin, perform_advance_of_not_mem hdetaching]
    simp [Traffic.performAll, abort, hin]

end Dispatcher
end Outbound
