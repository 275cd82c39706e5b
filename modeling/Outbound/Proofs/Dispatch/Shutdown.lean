import Outbound.Proofs.Dispatch.Abort

/-! A shutdown is final. From then on nothing is under way and nothing is taken on, not even a
request that is being prepared when the shutdown comes. The tasks that are left have been sent one
signal each. -/

namespace Outbound.Dispatcher

variable {s : Dispatcher} {env : Environment} {d : Descriptor}

structure Stopped (s : Dispatcher) : Prop where
  closed : s.active.shuttingDown = true
  inactive : s.active.ids = []
  uncalled : s.calls.live = []

theorem tell_of_not_mem {e : Event} (h : e.id ∉ s.active) : s.tell e = .told e false := by
  simp [tell, ActiveSet.contains, h]

namespace Stopped

theorem shutdown (h : Covered s) : Stopped s.shutdown where
  closed := by rw [active_shutdown]; rfl
  inactive := by rw [active_shutdown]; rfl
  uncalled := by
    rw [List.eq_nil_iff_forall_not_mem]
    intro tag htag
    have hin : s.shutdown.calls.contains tag.id = true := CallTable.contains_iff.2 ⟨tag, htag, rfl⟩
    rw [contains_shutdown h] at hin
    cases hin

theorem idle (h : Stopped s) (id : RequestId) : Idle s id where
  uncalled := by simp [CallTable.contains, CallTable.find?, h.uncalled]
  inactive := by simp [ActiveSet.mem_def, h.inactive]

theorem skip (h : Stopped s) : Stopped s.skip := ⟨h.closed, h.inactive, h.uncalled⟩

theorem tell (h : Stopped s) (e : Event) : s.tell e = .told e false :=
  tell_of_not_mem (h.idle e.id).inactive

theorem perform_dispatch (h : Stopped s) (meanwhile : List Action) :
    perform s (.dispatch env d meanwhile) =
      ([.asked d.id, .told (.ofFailure d.id .shuttingDown) false], s) := by
  rw [perform_dispatch_of_closed h.closed, h.tell]

theorem submit_of_failure (h : Stopped s) {f : Failure}
    (hp : (d.prepare env).outcome = .error (.failure f)) :
    s.submit env d = ([.told (.ofFailure d.id f) false], s) := by
  rw [Dispatcher.submit_of_failure hp, refuse, h.tell]

theorem submit_of_ok (h : Stopped s) {sub : Submission} (hp : (d.prepare env).outcome = .ok sub) :
    s.submit env d =
      ([.prepared sub.request, .told (.ofFailure d.id .shuttingDown) false], s.skip) := by
  have hidle : Idle s sub.id := h.idle sub.id
  rw [Dispatcher.submit_of_ok hp, start_of_shuttingDown hidle.uncalled hidle.inactive h.closed,
    refuse, h.skip.tell, id_of_prepare hp]

theorem shutdown_eq (h : Stopped s) : s.shutdown = s := by
  obtain ⟨⟨ids, closed, nodup⟩, calls, tasks, cancels, jar⟩ := s
  obtain rfl : closed = true := h.closed
  obtain rfl : ids = [] := h.inactive
  rfl

theorem step (h : Stopped s) {x : Step} (hx : x.registers = false) :
    Stopped (s.step x) ∧ (s.step x).tags.Sublist s.tags := by
  cases x with
  | submit env d =>
    cases hp : (d.prepare env).outcome with
    | error halt =>
      rw [Dispatcher.step, submit_of_error hp]
      exact ⟨h, .refl _⟩
    | ok sub =>
      rw [Dispatcher.step, h.submit_of_ok hp]
      exact ⟨h.skip, .refl _⟩
  | abort id =>
    rw [Dispatcher.step, abort_of_idle (h.idle id)]
    exact ⟨h, .refl _⟩
  | shutdown =>
    rw [Dispatcher.step, h.shutdown_eq]
    exact ⟨h, .refl _⟩
  | deliver tag =>
    rw [Dispatcher.step, tags_deliver]
    refine ⟨⟨?_, ?_, ?_⟩, .refl _⟩
    · exact active_deliver s tag ▸ h.closed
    · exact active_deliver s tag ▸ h.inactive
    · exact calls_deliver s tag ▸ h.uncalled
  | complete tag o =>
    refine complete_preserves (P := fun t => Stopped t ∧ t.tags.Sublist s.tags) ?_ ?_ ⟨h, .refl _⟩
    · intro hlive
      rw [CallTable.find?_eq_none_iff.2 (h.idle tag.id).uncalled] at hlive
      cases hlive
    · exact fun _ => ⟨⟨h.closed, h.inactive, h.uncalled⟩, List.filter_sublist.map _⟩
  | register id => cases hx

theorem performAll (h : Stopped s) {as : List Action} (has : Orderly as) :
    Stopped (performAll s as).2 ∧ (performAll s as).2.tags.Sublist s.tags := by
  refine performAll_preserves (P := fun t => Stopped t ∧ t.tags.Sublist s.tags) ?_ as s has
    ⟨h, .refl _⟩
  rintro t x hx ⟨hstopped, hfewer⟩
  obtain ⟨hstopped', hfewer'⟩ := hstopped.step hx
  exact ⟨hstopped', hfewer'.trans hfewer⟩

theorem of_closed (hc : Covered s) (hopen : s.active.shuttingDown = false) {as : List Action}
    (has : Orderly as) (hclosed : (Dispatcher.performAll s as).2.active.shuttingDown = true) :
    Stopped (Dispatcher.performAll s as).2 := by
  -- a state with the flag comes from a shutdown, or from another state with the flag
  have hkept := performAll_preserves
    (P := fun t => Covered t ∧ (t.active.shuttingDown = true → Stopped t)) ?_ as s has
    ⟨hc, fun h => by simp [hopen] at h⟩
  · exact hkept.2 hclosed
  · rintro t x hx ⟨hcovered, hstopped⟩
    refine ⟨hcovered.step x, fun hdown => ?_⟩
    rw [shuttingDown_step, Bool.or_eq_true] at hdown
    rcases hdown with hdown | hstops
    · exact ((hstopped hdown).step hx).1
    · cases x with
      | shutdown => exact .shutdown hcovered
      | _ => cases hstops

end Stopped

namespace Linked

theorem count_cancels_of_stopped (h : Linked s) (hs : Stopped s) {t : Task} (ht : t ∈ s.tasks) :
    s.cancels.count t.tag + (if t.signalled then 1 else 0) = 1 := by
  have hdead : t.tag ∉ s.calls.live := by simp [hs.uncalled]
  have hdet : s.detached t = true := by
    rw [h.tag_mem_live_iff ht] at hdead
    simpa using hdead
  cases hsig : t.signalled with
  | true => simp [List.count_eq_zero.2 (h.signalled t ht hsig)]
  | false =>
    have hsent : t.tag ∈ s.cancels := by simpa [detached, hsig] using hdet
    simp [List.count_eq_one_of_mem h.cancels_nodup hsent]

theorem count_cancels_shutdown (h : Linked s) (hc : Covered s) {t : Task} (ht : t ∈ s.tasks)
    (hf : s.calls.find? t.tag.id = some t.tag) :
    s.cancels.count t.tag = 0 ∧ s.shutdown.cancels.count t.tag = 1 := by
  have hlive : t.tag ∈ s.calls.live := (h.find?_eq_some_iff.1 hf).1
  have hunheard : t.signalled = false := by
    have hdet : s.detached t = false := (h.tag_mem_live_iff ht).1 hlive
    cases hsig : t.signalled with
    | false => rfl
    | true => simp [detached, hsig] at hdet
  have ht' : t ∈ s.shutdown.tasks := by rwa [tasks_shutdown]
  have hcount := h.shutdown.count_cancels_of_stopped (.shutdown hc) ht'
  refine ⟨List.count_eq_zero.2 (h.not_mem_cancels hlive), ?_⟩
  simpa [hunheard] using hcount

end Linked

/-- Whatever comes, unless somebody writes to the active set past the dispatcher: nothing is under
way, no task is new, each task that is left has been sent one signal, and a request is refused. -/
def Final (s : Dispatcher) : Prop :=
  ∀ bs, Orderly bs →
    let u := (performAll s bs).2
    Stopped u ∧ u.tags.Sublist s.tags ∧
    (∀ t ∈ u.tasks, u.cancels.count t.tag + (if t.signalled then 1 else 0) = 1) ∧
    ∀ env d meanwhile, perform u (.dispatch env d meanwhile) =
      ([.asked d.id, .told (.requestError d.id "Networking is shutting down" false) false], u)

theorem Final.of_stopped (h : Linked s) (hs : Stopped s) : Final s := by
  intro bs hbs u
  obtain ⟨hstopped, hfewer⟩ := hs.performAll hbs
  have hlinked : Linked u := h.performAll bs
  refine ⟨hstopped, hfewer, fun t ht => hlinked.count_cancels_of_stopped hstopped ht, ?_⟩
  exact fun env d meanwhile => hstopped.perform_dispatch meanwhile

/-- Whatever has happened, a shutdown is final, and sends each live call one signal, which reaches
its own task. If it comes while a request is prepared, that request is refused: for its own failure
if it has one, and otherwise because of the shutdown, after it was prepared; and it leaves nothing
behind but a generation that is used up. A request that overruns is not started, either. -/
theorem shutdown_is_final (c : Client) (as : List Action) :
    let s := (performAll (.ofClient c) as).2
    Final s.shutdown ∧
    (∀ t ∈ s.tasks, s.calls.find? t.tag.id = some t.tag →
      s.cancels.count t.tag = 0 ∧ s.shutdown.cancels.count t.tag = 1 ∧ s.shutdown.Reaches t.tag) ∧
    ∀ env d meanwhile, Orderly meanwhile → s.active.shuttingDown = false →
      let v := (performAll s meanwhile).2
      v.active.shuttingDown = true →
        (∀ f, (d.prepare env).outcome = .error (.failure f) →
          perform s (.dispatch env d meanwhile) = (.asked d.id :: (performAll s meanwhile).1 ++
            [.told (.ofFailure d.id f) false], v)) ∧
        (∀ sub, (d.prepare env).outcome = .ok sub →
          perform s (.dispatch env d meanwhile) = (.asked d.id :: (performAll s meanwhile).1 ++
            [.prepared sub.request,
              .told (.requestError d.id "Networking is shutting down" false) false], v.skip)) ∧
        ((d.prepare env).outcome = .error .overrun →
          perform s (.dispatch env d meanwhile) =
            (.asked d.id :: (performAll s meanwhile).1 ++ [.overran d.id], v)) ∧
        Final v ∧ Final v.skip := by
  intro s
  have hlinked : Linked s := (Linked.ofClient c).performAll as
  have hcovered : Covered s := (Covered.ofClient c).performAll as
  refine ⟨.of_stopped hlinked.shutdown (.shutdown hcovered), fun t ht hf => ?_, ?_⟩
  · obtain ⟨hbefore, hqueued⟩ := hlinked.count_cancels_shutdown hcovered ht hf
    have hpending : t.tag ∈ s.shutdown.tags := by
      rw [tags, tasks_shutdown]
      exact List.mem_map_of_mem ht
    exact ⟨hbefore, hqueued, hlinked.shutdown.reaches hqueued hpending⟩
  · intro env d meanwhile hmeanwhile hopen v hclosed
    have hstopped : Stopped v := .of_closed hcovered hopen hmeanwhile hclosed
    have hlinked' : Linked v := hlinked.performAll meanwhile
    refine ⟨fun f hp => ?_, fun sub hp => ?_, fun hp => ?_, .of_stopped hlinked' hstopped,
      .of_stopped hlinked'.skip hstopped.skip⟩
    · rw [perform_dispatch_of_open hopen, hstopped.submit_of_failure hp]
    · rw [perform_dispatch_of_open hopen, hstopped.submit_of_ok hp]
      rfl
    · rw [perform_dispatch_of_open hopen, submit_of_overrun hp]

theorem shutdown_is_final_for_resolver :
    let one : RequestId := ⟨1, by decide⟩
    let two : RequestId := ⟨2, by decide⟩
    let env : Environment := { resolve := fun _ => none, boundary := "" }
    let get : RequestId → Descriptor := fun id => { id, method := "GET", url := "http://a/" }
    let s := (performAll (.ofClient {}) [.dispatch env (get one) []]).2
    let outcome := perform s (.dispatch env (get two) [.shutdown])
    s.shutdown.cancels.count ⟨one, 0⟩ = 1 ∧ Final outcome.2 ∧
      ∃ r, outcome.1 = [.asked two, .prepared r,
        .told (.requestError two "Networking is shutting down" false) false] := by
  intro one two env get s outcome
  have htags : s.tags = [⟨one, 0⟩] := by decide +kernel
  have hlive : s.calls.find? one = some ⟨one, 0⟩ := by decide +kernel
  have hopen : s.active.shuttingDown = false := by decide +kernel
  have hclosed : (performAll s [.shutdown]).2.active.shuttingDown = true := by decide +kernel
  have hsafe : Except.isOk ((get two).prepare env).outcome = true := by decide +kernel
  obtain ⟨sub, hprepared⟩ := exists_prepared hsafe
  obtain ⟨t, ht, htag⟩ : ∃ t ∈ s.tasks, t.tag = ⟨one, 0⟩ := by
    have hmem : (⟨one, 0⟩ : CallTag) ∈ s.tags := by simp [htags]
    exact List.mem_map.1 hmem
  obtain ⟨-, hlost, hrefused⟩ := shutdown_is_final {} [.dispatch env (get one) []]
  have hcount := (hlost t ht (htag ▸ hlive)).2.1
  obtain ⟨-, hperform, -, -, hfinal⟩ := hrefused env (get two) [.shutdown] (by decide) hopen hclosed
  have houtcome : outcome = _ := hperform sub hprepared
  rw [houtcome]
  exact ⟨htag ▸ hcount, hfinal, sub.request, rfl⟩

end Outbound.Dispatcher
