import Mathlib.Data.List.Nodup
import Outbound.Proofs.Dispatch.Step

/-! Which task a call and a signal belong to. No two tasks carry one tag; the live calls are those
of the tasks that nobody has detached; a task is sent one signal at most. Nothing here depends on
the active set, so it holds also where others write to that. -/

namespace Outbound.Dispatcher

variable {s : Dispatcher}

/-- Whether a signal for the task has been queued, be it delivered or not. -/
def detached (s : Dispatcher) (t : Task) : Bool := t.signalled || decide (t.tag ∈ s.cancels)

def tags (s : Dispatcher) : List CallTag := s.tasks.map (·.tag)

def attached (s : Dispatcher) : List CallTag := (s.tasks.filter (!s.detached ·)).map (·.tag)

structure Linked (s : Dispatcher) : Prop where
  tags_nodup : s.tags.Nodup
  live_nodup : (s.calls.live.map (·.id)).Nodup
  cancels_nodup : s.cancels.Nodup
  tags_issued : ∀ tag ∈ s.tags, tag.generation < s.calls.next
  cancels_issued : ∀ tag ∈ s.cancels, tag.generation < s.calls.next
  signalled : ∀ t ∈ s.tasks, t.signalled = true → t.tag ∉ s.cancels
  live_eq : s.attached = s.calls.live

namespace Linked

theorem ofClient (c : Client) : Linked (.ofClient c) := by
  constructor <;> simp [Dispatcher.ofClient, tags, attached]

theorem eq_of_tag (h : Linked s) {t u : Task} (ht : t ∈ s.tasks) (hu : u ∈ s.tasks)
    (htag : t.tag = u.tag) : t = u :=
  List.inj_on_of_nodup_map h.tags_nodup ht hu htag

theorem mem_live_iff (h : Linked s) {tag : CallTag} :
    tag ∈ s.calls.live ↔ ∃ t ∈ s.tasks, t.tag = tag ∧ s.detached t = false := by
  simp [← h.live_eq, attached, and_left_comm, and_comm]

theorem tag_mem_live_iff (h : Linked s) {t : Task} (ht : t ∈ s.tasks) :
    t.tag ∈ s.calls.live ↔ s.detached t = false := by
  rw [h.mem_live_iff]
  constructor
  · rintro ⟨u, hu, htag, hdet⟩
    rwa [← h.eq_of_tag hu ht htag]
  · exact fun hdet => ⟨t, ht, rfl, hdet⟩

theorem eq_of_id (h : Linked s) {tag other : CallTag} (ht : tag ∈ s.calls.live)
    (ho : other ∈ s.calls.live) (hid : tag.id = other.id) : tag = other :=
  List.inj_on_of_nodup_map h.live_nodup ht ho hid

theorem find?_eq_some_iff (h : Linked s) {id : RequestId} {tag : CallTag} :
    s.calls.find? id = some tag ↔ tag ∈ s.calls.live ∧ tag.id = id := by
  constructor
  · exact fun hf => ⟨List.mem_of_find?_eq_some hf, CallTable.find?_id hf⟩
  · rintro ⟨hmem, hid⟩
    have hsome : (s.calls.find? id).isSome := CallTable.contains_iff.2 ⟨tag, hmem, hid⟩
    obtain ⟨other, ho⟩ := Option.isSome_iff_exists.1 hsome
    have hoid : other.id = tag.id := (CallTable.find?_id ho).trans hid.symm
    rw [ho, h.eq_of_id (List.mem_of_find?_eq_some ho) hmem hoid]

theorem not_mem_cancels (h : Linked s) {tag : CallTag} (ht : tag ∈ s.calls.live) :
    tag ∉ s.cancels := by
  obtain ⟨t, -, rfl, hdet⟩ := h.mem_live_iff.1 ht
  simp_all [detached]

theorem live_issued (h : Linked s) {tag : CallTag} (ht : tag ∈ s.calls.live) :
    tag.generation < s.calls.next := by
  obtain ⟨t, htask, rfl, -⟩ := h.mem_live_iff.1 ht
  exact h.tags_issued _ (List.mem_map_of_mem htask)

theorem live_without (h : Linked s) {tag : CallTag} (ht : tag ∈ s.calls.live) :
    (s.calls.without tag.id).live = s.calls.live.filter (· ≠ tag) := by
  apply List.filter_congr
  intro other ho
  by_cases he : other = tag
  · simp [he]
  · have hid : other.id ≠ tag.id := fun hid => he (h.eq_of_id ho ht hid)
    simp [he, hid]

theorem of_active (h : Linked s) (active : ActiveSet) : Linked { s with active } :=
  ⟨h.1, h.2, h.3, h.4, h.5, h.6, h.7⟩

theorem skip (h : Linked s) : Linked s.skip where
  tags_nodup := h.tags_nodup
  live_nodup := h.live_nodup
  cancels_nodup := h.cancels_nodup
  tags_issued tag ht := Nat.lt_succ_of_lt (h.tags_issued tag ht)
  cancels_issued tag ht := Nat.lt_succ_of_lt (h.cancels_issued tag ht)
  signalled := h.signalled
  live_eq := h.live_eq

theorem accept (h : Linked s) {sub : Submission} (hfree : s.calls.contains sub.id = false) :
    Linked (s.accept sub) where
  tags_nodup := by
    have hnew : s.calls.fresh sub.id ∉ s.tags := fun hmem =>
      Nat.lt_irrefl _ (h.tags_issued _ hmem)
    have htags : (s.accept sub).tags = s.tags ++ [s.calls.fresh sub.id] := List.map_append
    rw [htags]
    exact h.tags_nodup.append (List.nodup_singleton _) (by simpa using hnew)
  live_nodup := by
    have hnew : sub.id ∉ s.calls.live.map (·.id) := by
      rintro hmem
      obtain ⟨tag, ht, hid⟩ := List.mem_map.1 hmem
      simp [CallTable.contains_iff.2 ⟨tag, ht, hid⟩] at hfree
    have hlive : (s.accept sub).calls.live.map (·.id) = s.calls.live.map (·.id) ++ [sub.id] :=
      List.map_append
    rw [hlive]
    exact h.live_nodup.append (List.nodup_singleton _) (by simpa using hnew)
  cancels_nodup := h.cancels_nodup
  tags_issued tag ht := by
    obtain ht | rfl : tag ∈ s.tags ∨ tag = s.calls.fresh sub.id := by
      simpa [tags, Dispatcher.accept] using ht
    · exact Nat.lt_succ_of_lt (h.tags_issued tag ht)
    · exact Nat.lt_succ_self _
  cancels_issued tag ht := Nat.lt_succ_of_lt (h.cancels_issued tag ht)
  signalled t ht hsig := by
    obtain ht | rfl : t ∈ s.tasks ∨ t = { tag := s.calls.fresh sub.id, submission := sub } := by
      simpa [Dispatcher.accept] using ht
    · exact h.signalled t ht hsig
    · simp at hsig
  live_eq := by
    have hnew : s.calls.fresh sub.id ∉ s.cancels := fun hmem =>
      Nat.lt_irrefl _ (h.cancels_issued _ hmem)
    have hdet : s.detached { tag := s.calls.fresh sub.id, submission := sub } = false := by
      simp [detached, hnew]
    have hattached : (s.accept sub).attached = s.attached ++ [s.calls.fresh sub.id] := by
      have htasks : (s.accept sub).tasks.filter (!s.detached ·) =
          s.tasks.filter (!s.detached ·) ++
            [{ tag := s.calls.fresh sub.id, submission := sub }] := by
        simp [Dispatcher.accept, hdet]
      exact (congrArg (List.map Task.tag) htasks).trans List.map_append
    rw [hattached, h.live_eq]
    rfl

end Linked

theorem detach_of_not_contains {id : RequestId} (h : s.calls.contains id = false) :
    s.detach id = s := by
  have hnone : s.calls.find? id = none := CallTable.find?_eq_none_iff.2 h
  simp [detach, CallTable.detach, hnone, CallTable.without_of_not_contains h]

theorem detach_of_find? {id : RequestId} {tag : CallTag} (h : s.calls.find? id = some tag) :
    s.detach id = { s with calls := s.calls.without id, cancels := s.cancels ++ [tag] } := by
  simp [detach, CallTable.detach, h]

def hear (tag : CallTag) (t : Task) : Task :=
  if t.tag = tag then { t with signalled := true } else t

@[simp] theorem tag_hear (tag : CallTag) (t : Task) : (hear tag t).tag = t.tag := by
  unfold hear
  split <;> rfl

theorem deliver_of_mem {tag : CallTag} (h : tag ∈ s.cancels) :
    s.deliver tag =
      { s with cancels := s.cancels.erase tag, tasks := s.tasks.map (hear tag) } := if_pos h

theorem deliver_of_not_mem {tag : CallTag} (h : tag ∉ s.cancels) : s.deliver tag = s := if_neg h

theorem attached_queue (s : Dispatcher) (calls : CallTable) (tag : CallTag) :
    attached { s with calls, cancels := s.cancels ++ [tag] } = s.attached.filter (· ≠ tag) := by
  rw [attached, attached, List.filter_map, List.filter_filter]
  congr 1
  apply List.filter_congr
  intro t _
  by_cases htag : t.tag = tag <;> simp [detached, htag]

theorem detached_hear {tag : CallTag} (h : tag ∈ s.cancels) (t : Task) :
    (s.deliver tag).detached (hear tag t) = s.detached t := by
  rw [deliver_of_mem h]
  by_cases htag : t.tag = tag
  · simp [detached, hear, htag, h]
  · simp [detached, hear, htag, List.mem_erase_of_ne htag]

theorem attached_deliver (s : Dispatcher) (tag : CallTag) :
    (s.deliver tag).attached = s.attached := by
  by_cases h : tag ∈ s.cancels
  · have htasks : (s.deliver tag).tasks = s.tasks.map (hear tag) := by rw [deliver_of_mem h]
    rw [attached, htasks]
    simp [attached, List.filter_map, Function.comp_def, detached_hear h]
  · rw [deliver_of_not_mem h]

theorem attached_dismiss (s : Dispatcher) (tag : CallTag) :
    (s.dismiss tag).attached = s.attached.filter (· ≠ tag) := by
  change ((s.tasks.filter (·.tag ≠ tag)).filter (!s.detached ·)).map (·.tag) = _
  rw [attached, List.filter_map, List.filter_filter, List.filter_filter]
  congr 1
  apply List.filter_congr
  intro t _
  exact Bool.and_comm _ _

theorem tasks_detachAll (s : Dispatcher) (ids : List RequestId) :
    (ids.foldl detach s).tasks = s.tasks := by
  induction ids generalizing s with
  | nil => rfl
  | cons id ids ih => exact ih (s.detach id)

theorem next_detachAll (s : Dispatcher) (ids : List RequestId) :
    (ids.foldl detach s).calls.next = s.calls.next := by
  induction ids generalizing s with
  | nil => rfl
  | cons id ids ih => exact ih (s.detach id)

@[simp] theorem tasks_abort (s : Dispatcher) (id : RequestId) : (s.abort id).tasks = s.tasks := by
  unfold abort
  split <;> rfl

@[simp] theorem tasks_shutdown (s : Dispatcher) : s.shutdown.tasks = s.tasks := tasks_detachAll _ _

@[simp] theorem tags_deliver (s : Dispatcher) (tag : CallTag) : (s.deliver tag).tags = s.tags := by
  unfold deliver
  split
  · have htag : ∀ t : Task, (hear tag t).tag = t.tag := tag_hear tag
    exact List.map_map.trans (List.map_congr_left fun t _ => htag t)
  · rfl

@[simp] theorem next_abort (s : Dispatcher) (id : RequestId) :
    (s.abort id).calls.next = s.calls.next := by
  unfold abort
  split <;> rfl

@[simp] theorem next_shutdown (s : Dispatcher) : s.shutdown.calls.next = s.calls.next :=
  next_detachAll _ _

@[simp] theorem next_deliver (s : Dispatcher) (tag : CallTag) :
    (s.deliver tag).calls.next = s.calls.next := by
  unfold deliver
  split <;> rfl

theorem next_le_step (s : Dispatcher) (x : Step) : s.calls.next ≤ (s.step x).calls.next := by
  cases x with
  | submit env d =>
    refine submit_preserves (P := fun t => s.calls.next ≤ t.calls.next) ?_ ?_ (Nat.le_refl _)
    · exact fun _ h => Nat.le_succ_of_le h
    · exact fun _ _ _ _ h => Nat.le_succ_of_le h
  | abort id => exact Nat.le_of_eq (next_abort s id).symm
  | shutdown => exact Nat.le_of_eq (next_shutdown s).symm
  | deliver tag => exact Nat.le_of_eq (next_deliver s tag).symm
  | complete tag o =>
    exact complete_preserves (P := fun t => s.calls.next ≤ t.calls.next) (fun _ => (Nat.le_refl _))
      (fun _ => (Nat.le_refl _)) (Nat.le_refl _)
  | register id => exact Nat.le_refl _

namespace Linked

theorem detach (h : Linked s) (id : RequestId) : Linked (s.detach id) := by
  cases hf : s.calls.find? id with
  | none => rwa [detach_of_not_contains (CallTable.find?_eq_none_iff.1 hf)]
  | some tag =>
    obtain ⟨hlive, rfl⟩ := h.find?_eq_some_iff.1 hf
    have hout : tag ∉ s.cancels := h.not_mem_cancels hlive
    rw [detach_of_find? hf]
    constructor
    case tags_nodup => exact h.tags_nodup
    case live_nodup => exact h.live_nodup.sublist (List.filter_sublist.map _)
    case cancels_nodup =>
      exact h.cancels_nodup.append (List.nodup_singleton _) (by simpa using hout)
    case tags_issued => exact h.tags_issued
    case cancels_issued =>
      intro other ho
      obtain ho | rfl : other ∈ s.cancels ∨ other = tag := by simpa using ho
      · exact h.cancels_issued other ho
      · exact h.live_issued hlive
    case signalled =>
      intro t ht hsig hmem
      obtain hmem | htag : t.tag ∈ s.cancels ∨ t.tag = tag := by simpa using hmem
      · exact h.signalled t ht hsig hmem
      · have hdet : s.detached t = false := (h.tag_mem_live_iff ht).1 (htag ▸ hlive)
        simp [detached, hsig] at hdet
    case live_eq =>
      -- the tasks left undetached are those that were so before, without the one of the call
      rw [attached_queue, h.live_eq]
      exact (h.live_without hlive).symm

theorem detachAll (h : Linked s) (ids : List RequestId) :
    Linked (ids.foldl Dispatcher.detach s) := by
  induction ids generalizing s with
  | nil => exact h
  | cons id ids ih => exact ih (h.detach id)

theorem abort (h : Linked s) (id : RequestId) : Linked (s.abort id) := by
  unfold Dispatcher.abort
  split
  · exact (h.of_active _).detach id
  · exact h

theorem shutdown (h : Linked s) : Linked s.shutdown := (h.of_active _).detachAll _

theorem deliver (h : Linked s) (tag : CallTag) : Linked (s.deliver tag) := by
  by_cases hmem : tag ∈ s.cancels
  case neg => rwa [deliver_of_not_mem hmem]
  case pos =>
    have htags : (s.deliver tag).tags = s.tags := by simp [deliver_of_mem hmem, tags]
    constructor
    case tags_nodup => exact htags ▸ h.tags_nodup
    case live_eq =>
      rw [attached_deliver, h.live_eq]
      rw [deliver_of_mem hmem]
    all_goals rw [deliver_of_mem hmem] at *
    case live_nodup => exact h.live_nodup
    case cancels_nodup => exact h.cancels_nodup.erase tag
    case tags_issued => exact fun other ho => h.tags_issued other (htags ▸ ho)
    case cancels_issued => exact fun other ho => h.cancels_issued other (List.mem_of_mem_erase ho)
    case signalled =>
      intro u hu hsig hin
      obtain ⟨t, ht, rfl⟩ := List.mem_map.1 hu
      obtain ⟨hne, hin⟩ := h.cancels_nodup.mem_erase_iff.1 hin
      rw [tag_hear] at hne hin
      exact h.signalled t ht (by simpa [hear, hne] using hsig) hin

theorem dismiss (h : Linked s) {tag : CallTag} (hdead : tag ∉ s.calls.live) :
    Linked (s.dismiss tag) where
  tags_nodup := h.tags_nodup.sublist (List.filter_sublist.map _)
  live_nodup := h.live_nodup
  cancels_nodup := h.cancels_nodup
  tags_issued other ho := h.tags_issued other ((List.filter_sublist.map _).subset ho)
  cancels_issued := h.cancels_issued
  signalled t ht := h.signalled t (List.mem_of_mem_filter ht)
  live_eq := by
    have hkeep : ∀ other ∈ s.calls.live, other ≠ tag := fun other ho he => hdead (he ▸ ho)
    rw [attached_dismiss, h.live_eq]
    exact List.filter_eq_self.2 (by simpa using hkeep)

theorem release (h : Linked s) {tag : CallTag} (hlive : tag ∈ s.calls.live) :
    Linked ((s.release tag.id).dismiss tag) where
  tags_nodup := h.tags_nodup.sublist (List.filter_sublist.map _)
  live_nodup := h.live_nodup.sublist (List.filter_sublist.map _)
  cancels_nodup := h.cancels_nodup
  tags_issued other ho := h.tags_issued other ((List.filter_sublist.map _).subset ho)
  cancels_issued := h.cancels_issued
  signalled t ht := h.signalled t (List.mem_of_mem_filter ht)
  live_eq := by
    have hattached : (s.release tag.id).attached = s.attached := rfl
    rw [attached_dismiss, hattached, h.live_eq]
    exact (h.live_without hlive).symm

theorem complete (h : Linked s) (tag : CallTag) (o : Outcome) : Linked (s.complete tag o).2 := by
  refine complete_preserves ?_ ?_ h
  · exact fun hf => h.release (h.find?_eq_some_iff.1 hf).1
  · exact fun hf => h.dismiss fun hlive => hf (h.find?_eq_some_iff.2 ⟨hlive, rfl⟩)

theorem step (h : Linked s) (x : Step) : Linked (s.step x) := by
  cases x with
  | submit env d =>
    exact submit_preserves (fun _ h => h.skip) (fun _ _ _ hfree h => h.accept hfree.uncalled) h
  | abort id => exact h.abort id
  | shutdown => exact h.shutdown
  | deliver tag => exact h.deliver tag
  | complete tag o => exact h.complete tag o
  | register id => exact h.of_active _

theorem perform (h : Linked s) (a : Action) : Linked (perform s a).2 :=
  perform_preserves (Q := fun _ => True) (fun _ x _ h => h.step x) a s (fun _ _ => trivial) h

theorem performAll (h : Linked s) (as : List Action) : Linked (performAll s as).2 :=
  performAll_preserves (Q := fun _ => True) (fun _ x _ h => h.step x) as s (fun _ _ => trivial) h

end Linked
section Tasks

variable {P : CallTag → Submission → Prop}

/-- What holds of every prepared request under a fresh tag. -/
def HoldsOfStarted (P : CallTag → Submission → Prop) : Prop :=
  ∀ (s : Dispatcher) (env : Environment) (d : Descriptor) (sub : Submission),
    (d.prepare env).outcome = .ok sub → P (s.calls.fresh sub.id) sub

theorem forall_tasks_step (hP : HoldsOfStarted P) (x : Step)
    (hs : ∀ t ∈ s.tasks, P t.tag t.submission) :
    ∀ t ∈ (s.step x).tasks, P t.tag t.submission := by
  cases x with
  | submit env d =>
    change ∀ t ∈ (s.submit env d).2.tasks, _
    rcases submit_cases s env d with ⟨sub, hsub, -, -, heq⟩ | ⟨_, _, t, -, rfl | rfl, -, heq⟩ |
      ⟨-, heq⟩
    · rw [heq]
      exact List.forall_mem_append.2 ⟨hs, List.forall_mem_singleton.2 (hP s env d sub hsub)⟩
    · rwa [heq]
    · rwa [heq]
    · rwa [heq]
  | abort id =>
    change ∀ t ∈ (s.abort id).tasks, _
    rwa [tasks_abort]
  | shutdown =>
    change ∀ t ∈ s.shutdown.tasks, _
    rwa [tasks_shutdown]
  | deliver tag =>
    change ∀ t ∈ (s.deliver tag).tasks, _
    by_cases hmem : tag ∈ s.cancels
    · rw [deliver_of_mem hmem]
      refine List.forall_mem_map.2 fun t ht => ?_
      unfold hear
      split <;> exact hs t ht
    · rwa [deliver_of_not_mem hmem]
  | complete tag o =>
    refine complete_preserves (P := fun s => ∀ t ∈ s.tasks, P t.tag t.submission) ?_ ?_ hs
    · exact fun _ t ht => hs t (List.mem_of_mem_filter ht)
    · exact fun _ t ht => hs t (List.mem_of_mem_filter ht)
  | register id => exact hs

theorem forall_tasks_performAll (hP : HoldsOfStarted P) (c : Client) (as : List Action) :
    ∀ t ∈ (performAll (.ofClient c) as).2.tasks, P t.tag t.submission :=
  performAll_preserves (P := fun s => ∀ t ∈ s.tasks, P t.tag t.submission) (Q := fun _ => True)
    (fun _ x _ hs => forall_tasks_step hP x hs) as _ (fun _ _ => trivial) (by simp [ofClient])

end Tasks

end Outbound.Dispatcher
