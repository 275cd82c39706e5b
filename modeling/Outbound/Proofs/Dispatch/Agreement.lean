import Outbound.Proofs.Dispatch.Ownership

/-! The active set and the call table agree. Each live call is that of an active identity, whoever
else writes to the active set; and if nobody does, each active identity has a live call. The call
belongs to the one task of its identity that nobody has detached, and the end of a detached task
touches neither table. -/

namespace Outbound.Dispatcher

variable {s : Dispatcher} {id other : RequestId}

def Covered (s : Dispatcher) : Prop := ∀ id, s.calls.contains id = true → id ∈ s.active

def Agrees (s : Dispatcher) : Prop := ∀ id, id ∈ s.active ↔ s.calls.contains id = true

theorem Agrees.covered (h : Agrees s) : Covered s := fun id => (h id).2

theorem abort_eq (h : Covered s) (id : RequestId) :
    s.abort id = { s with
      active := s.active.erase id
      calls := s.calls.without id
      cancels := s.cancels ++ (s.calls.find? id).toList } := by
  by_cases hid : id ∈ s.active
  · simp [abort, ActiveSet.contains_iff.2 hid, ActiveSet.remove, detach, CallTable.detach]
  · have hout : s.active.contains id = false := by simp [ActiveSet.contains, hid]
    have huncalled : s.calls.contains id = false := by
      rw [Bool.eq_false_iff]
      exact mt (h id) hid
    simp [abort, hout, ActiveSet.erase_of_not_mem hid,
      CallTable.without_of_not_contains huncalled,
      CallTable.find?_eq_none_iff.2 huncalled]

theorem mem_active_abort (h : Covered s) :
    other ∈ (s.abort id).active ↔ other ∈ s.active ∧ other ≠ id := by
  rw [abort_eq h, ActiveSet.mem_erase]

theorem contains_abort (h : Covered s) :
    (s.abort id).calls.contains other = true ↔ s.calls.contains other = true ∧ other ≠ id := by
  rw [abort_eq h, CallTable.contains_without]

theorem contains_detachAll (s : Dispatcher) (ids : List RequestId) :
    (ids.foldl detach s).calls.contains other = true ↔
      s.calls.contains other = true ∧ other ∉ ids := by
  induction ids generalizing s with
  | nil => simp
  | cons id ids ih =>
    rw [List.foldl_cons, ih (s.detach id)]
    simp [detach, CallTable.detach, and_assoc]

theorem active_detachAll (s : Dispatcher) (ids : List RequestId) :
    (ids.foldl detach s).active = s.active := by
  induction ids generalizing s with
  | nil => rfl
  | cons id ids ih => exact ih (s.detach id)

theorem active_shutdown (s : Dispatcher) : s.shutdown.active = s.active.beginShutdown.takeAll.2 :=
  active_detachAll _ _

theorem contains_shutdown (h : Covered s) : s.shutdown.calls.contains other = false := by
  have hall : ¬ (s.calls.contains other = true ∧ other ∉ s.active.ids) := fun ⟨hin, hout⟩ =>
    hout (h other hin)
  rw [Bool.eq_false_iff]
  exact mt (contains_detachAll _ _).1 hall

theorem active_deliver (s : Dispatcher) (tag : CallTag) : (s.deliver tag).active = s.active := by
  unfold deliver
  split <;> rfl

theorem calls_deliver (s : Dispatcher) (tag : CallTag) : (s.deliver tag).calls = s.calls := by
  unfold deliver
  split <;> rfl

theorem shuttingDown_step (s : Dispatcher) (x : Step) :
    (s.step x).active.shuttingDown = (s.active.shuttingDown || x.stops) := by
  cases x with
  | submit env d =>
    refine submit_preserves (P := (·.active.shuttingDown = (s.active.shuttingDown || false)))
      (fun _ h => h) ?_ (Bool.or_false _).symm
    intro t sub _ _ ht
    rwa [accept, ActiveSet.shuttingDown_insert]
  | abort id =>
    rw [step, abort]
    split <;> exact (Bool.or_false _).symm
  | shutdown =>
    rw [step, active_shutdown]
    exact (Bool.or_true _).symm
  | deliver tag =>
    rw [step, active_deliver]
    exact (Bool.or_false _).symm
  | complete tag o =>
    have hsame := (Bool.or_false s.active.shuttingDown).symm
    exact complete_preserves (P := (·.active.shuttingDown = (s.active.shuttingDown || false)))
      (fun _ => hsame) (fun _ => hsame) hsame
  | register id =>
    rw [step, ActiveSet.shuttingDown_insert]
    exact (Bool.or_false _).symm

theorem shuttingDown_performAll (h : s.active.shuttingDown = true) (as : List Action) :
    (performAll s as).2.active.shuttingDown = true := by
  have hstep : ∀ (t : Dispatcher) (x : Step), True → t.active.shuttingDown = true →
      (t.step x).active.shuttingDown = true := fun t x _ ht => by simp [shuttingDown_step, ht]
  exact performAll_preserves hstep as s (fun _ _ => trivial) h

namespace Covered

theorem ofClient (c : Client) : Covered (.ofClient c) := fun id h => by
  simp [Dispatcher.ofClient, CallTable.contains_iff] at h

theorem step (h : Covered s) (x : Step) : Covered (s.step x) := by
  cases x with
  | submit env d =>
    refine submit_preserves (fun _ h => h) (fun s sub _ _ h id hin => ?_) h
    rcases CallTable.contains_push.1 hin with hin | rfl
    · exact ActiveSet.mem_insert.2 (.inl (h id hin))
    · exact ActiveSet.mem_insert.2 (.inr rfl)
  | abort id =>
    intro other hin
    obtain ⟨hin, hne⟩ := (contains_abort h).1 hin
    exact (mem_active_abort h).2 ⟨h other hin, hne⟩
  | shutdown =>
    intro other hin
    rw [Dispatcher.step, contains_shutdown h] at hin
    cases hin
  | deliver tag => rwa [Covered, Dispatcher.step, calls_deliver, active_deliver]
  | complete tag o =>
    refine complete_preserves (fun _ other hin => ?_) (fun _ => h) h
    obtain ⟨hin, hne⟩ := CallTable.contains_without.1 hin
    exact ActiveSet.mem_erase.2 ⟨h other hin, hne⟩
  | register id => exact fun other hin => ActiveSet.mem_insert.2 (.inl (h other hin))

theorem performAll (h : Covered s) (as : List Action) : Covered (performAll s as).2 :=
  performAll_preserves (Q := fun _ => True) (fun _ x _ h => h.step x) as s (fun _ _ => trivial) h

end Covered

namespace Agrees

theorem ofClient (c : Client) : Agrees (.ofClient c) := fun id => by
  simp [Dispatcher.ofClient, CallTable.contains_iff, ActiveSet.mem_def]

theorem step (h : Agrees s) {x : Step} (hx : x.registers = false) : Agrees (s.step x) := by
  cases x with
  | submit env d =>
    refine submit_preserves (fun _ h => h) (fun s sub _ _ h id => ?_) h
    rw [accept, ActiveSet.mem_insert, CallTable.contains_push, h id]
  | abort id =>
    intro other
    rw [Dispatcher.step, mem_active_abort h.covered, contains_abort h.covered, h other]
  | shutdown =>
    intro other
    rw [Dispatcher.step, contains_shutdown h.covered, active_shutdown]
    simp
  | deliver tag => rwa [Agrees, Dispatcher.step, calls_deliver, active_deliver]
  | complete tag o =>
    refine complete_preserves (fun _ other => ?_) (fun _ => h) h
    rw [dismiss, release, ActiveSet.mem_erase, CallTable.contains_without, h other]
  | register id => cases hx

theorem performAll (h : Agrees s) {as : List Action} (has : Orderly as) :
    Agrees (performAll s as).2 :=
  performAll_preserves (fun _ _ hx h => h.step hx) as s has h

end Agrees

namespace Linked

theorem live_self_nodup (h : Linked s) : s.calls.live.Nodup := .of_map _ h.live_nodup

theorem attached_of_id (h : Linked s) (id : RequestId) :
    s.attached.filter (·.id = id) = (s.calls.find? id).toList := by
  rw [h.live_eq]
  cases hf : s.calls.find? id with
  | none => simpa [CallTable.find?] using hf
  | some tag =>
    obtain ⟨hlive, rfl⟩ := h.find?_eq_some_iff.1 hf
    have hsame : s.calls.live.filter (·.id = tag.id) = s.calls.live.filter (· = tag) := by
      apply List.filter_congr
      intro other ho
      have hiff : other.id = tag.id ↔ other = tag := ⟨h.eq_of_id ho hlive, fun he => he ▸ rfl⟩
      simp [hiff]
    rw [hsame, List.filter_eq, List.count_eq_one_of_mem h.live_self_nodup hlive]
    rfl

theorem detached_iff (h : Linked s) {t : Task} (ht : t ∈ s.tasks) :
    s.detached t = true ↔ s.calls.find? t.tag.id ≠ some t.tag := by
  rw [Ne, h.find?_eq_some_iff, h.tag_mem_live_iff ht]
  simp

theorem complete_of_detached (h : Linked s) {t : Task} (ht : t ∈ s.tasks)
    (hdet : s.detached t = true) (o : Outcome) : (s.complete t.tag o).2 = s.dismiss t.tag := by
  have hmem : t.tag ∈ s.tags := List.mem_map_of_mem ht
  rw [Dispatcher.complete_of_detached hmem ((h.detached_iff ht).1 hdet)]

end Linked

/-- Whatever has happened: the active set and the call table name the same identities, or the call
table names fewer if others write to the active set; a live call is that of the one task of its
identity that nobody has detached; and a detached task ends without touching either table. -/
theorem active_iff_live (c : Client) (as : List Action) :
    let s := (performAll (.ofClient c) as).2
    (∀ id, s.calls.contains id = true → id ∈ s.active) ∧
    (Orderly as → ∀ id, id ∈ s.active ↔ s.calls.contains id = true) ∧
    s.tags.Nodup ∧
    (∀ id, s.attached.filter (·.id = id) = (s.calls.find? id).toList) ∧
    ∀ t ∈ s.tasks, (s.detached t = true ↔ s.calls.find? t.tag.id ≠ some t.tag) ∧
      (s.detached t = true → ∀ o, (s.complete t.tag o).2.active = s.active ∧
        (s.complete t.tag o).2.calls = s.calls) := by
  intro s
  have hlinked : Linked s := (Linked.ofClient c).performAll as
  have hcovered : Covered s := (Covered.ofClient c).performAll as
  refine ⟨hcovered, fun has => ?_, hlinked.tags_nodup, hlinked.attached_of_id, fun t ht => ?_⟩
  · exact (Agrees.ofClient c).performAll has
  · refine ⟨hlinked.detached_iff ht, fun hdet o => ?_⟩
    rw [hlinked.complete_of_detached ht hdet o]
    exact ⟨rfl, rfl⟩

end Outbound.Dispatcher
