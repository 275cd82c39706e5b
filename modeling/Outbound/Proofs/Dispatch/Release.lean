import Outbound.Proofs.Dispatch.Abort

/-! A call is released before its end is told. A listener that is told it finds the identity free,
unless a later call has it, and can have it dispatched again at once. The task that ends does not
come back to the tables when its listeners are done, so what they dispatch stays. -/

namespace Outbound.Dispatcher

variable {s : Dispatcher} {tag : CallTag} {o : Outcome}

/-- A completion with what its listeners do while they are told the closing event. -/
def completeTold (s : Dispatcher) (tag : CallTag) (o : Outcome) (heard : List Action) :
    List Entry × Dispatcher :=
  if s.tasks.any (·.tag = tag) then
    let (caused, t) := performAll (s.close tag) heard
    ((s.close tag).tell (o.event tag.id) :: caused, t)
  else ([], s)

theorem completeTold_eq (hmem : tag ∈ s.tags) (heard : List Action) :
    s.completeTold tag o heard =
      ((s.complete tag o).1 ++ (performAll (s.complete tag o).2 heard).1,
        (performAll (s.complete tag o).2 heard).2) := by
  have hany : s.tasks.any (·.tag = tag) = true := by simpa [tags] using hmem
  simp [completeTold, complete, hany]

theorem idle_release (s : Dispatcher) (tag : CallTag) :
    Idle ((s.release tag.id).dismiss tag) tag.id where
  uncalled := by
    rw [Bool.eq_false_iff]
    exact fun hin => (CallTable.contains_without.1 hin).2 rfl
  inactive hin := (ActiveSet.mem_erase.1 hin).2 rfl

theorem not_mem_tags_complete (h : Linked s) (tag : CallTag) (o : Outcome) :
    tag ∉ (s.complete tag o).2.tags := by
  rw [tags_complete h]
  exact h.tags_nodup.not_mem_erase

namespace Linked

variable {t : Task}

theorem not_live_complete (h : Linked s) (ht : t ∈ s.tasks) (o : Outcome) :
    t.tag ∉ (s.complete t.tag o).2.calls.live := by
  have hmem : t.tag ∈ s.tags := List.mem_map_of_mem ht
  by_cases hlive : s.calls.find? t.tag.id = some t.tag
  · rw [complete_of_live hmem hlive]
    exact fun hin => (CallTable.mem_without.1 hin).2 rfl
  · rw [Dispatcher.complete_of_detached hmem hlive]
    exact fun hin => hlive (h.find?_eq_some_iff.2 ⟨hin, rfl⟩)

theorem idle_complete (h : Linked s) (ht : t ∈ s.tasks) (hdet : s.detached t = false)
    (o : Outcome) : Idle (s.complete t.tag o).2 t.tag.id := by
  have hmem : t.tag ∈ s.tags := List.mem_map_of_mem ht
  have hlive : s.calls.find? t.tag.id = some t.tag := by
    by_contra hother
    simp [(h.detached_iff ht).2 hother] at hdet
  rw [complete_of_live hmem hlive]
  exact idle_release s t.tag

end Linked

/-- Whatever has happened, when the end of a task is told its tag is no longer live. If nobody has
detached the call, its identity is in neither table by then, and a listener that has it dispatched
again, with a request that passes its checks, has it taken on unless a shutdown has begun; what is
taken on is still under way when the completion is over. If the call was detached, its end changes
neither table, so that a later call of the same identity stays under way. -/
theorem release_precedes_closing (c : Client) (as : List Action) (t : Task) (o : Outcome)
    (ht : t ∈ (performAll (.ofClient c) as).2.tasks) :
    let s := (performAll (.ofClient c) as).2
    let id := t.tag.id
    let u := (s.complete t.tag o).2
    (∀ heard, s.completeTold t.tag o heard =
      (.told (o.event id) (u.active.contains id) :: (performAll u heard).1,
        (performAll u heard).2)) ∧
    (t.tag ∉ u.calls.live ∧ t.tag ∉ u.tags) ∧
    (s.detached t = false → Idle u id ∧
      ∀ before meanwhile, Spares id before → Spares id meanwhile →
        let v := (performAll (performAll u before).2 meanwhile).2
        v.active.shuttingDown = false →
          ∀ env d sub, d.id = id → (d.prepare env).outcome = .ok sub →
            let ended := s.completeTold t.tag o (before ++ [.dispatch env d meanwhile])
            ended = (.told (o.event id) false :: (performAll u before).1 ++
              (.asked id :: (performAll (performAll u before).2 meanwhile).1 ++
                [.prepared sub.request]), v.accept sub) ∧
            id ∈ ended.2.active ∧ ended.2.calls.find? id = some (v.calls.fresh id) ∧
            v.calls.fresh id ∈ ended.2.tags) ∧
    (s.detached t = true → u.active = s.active ∧ u.calls = s.calls ∧
      ∀ tag, s.calls.find? id = some tag →
        id ∈ u.active ∧ u.calls.find? id = some tag ∧ tag ∈ u.tags) := by
  intro s id u
  have hlinked : Linked s := (Linked.ofClient c).performAll as
  have hcovered : Covered s := (Covered.ofClient c).performAll as
  have hmem : t.tag ∈ s.tags := List.mem_map_of_mem ht
  have htold : ∀ heard, s.completeTold t.tag o heard =
      (.told (o.event id) (u.active.contains id) :: (performAll u heard).1,
        (performAll u heard).2) := by
    intro heard
    have hclosed : u = s.close t.tag := congrArg Prod.snd (complete_of_mem hmem o)
    rw [completeTold_eq hmem, complete_of_mem hmem, hclosed, tell, Outcome.id_event]
    rfl
  refine ⟨htold, ⟨hlinked.not_live_complete ht o, not_mem_tags_complete hlinked t.tag o⟩,
    fun hdet => ?free, fun hdet => ?detached⟩
  case free =>
    have hidle : Idle u id := hlinked.idle_complete ht hdet o
    refine ⟨hidle, ?_⟩
    intro before meanwhile hbefore hmeanwhile v hopen env d sub hid hprepared ended
    -- the identity stays idle up to the moment at which the request is registered
    have hcovered' : Covered u := hcovered.step (.complete t.tag o)
    have hidle' : Idle (performAll u before).2 id := hidle.performAll hcovered' hbefore
    have hidle'' : Idle v id := hidle'.performAll (hcovered'.performAll before) hmeanwhile
    have hsub : sub.id = id := (id_of_prepare hprepared).trans hid
    have hdispatch : perform (performAll u before).2 (.dispatch env d meanwhile) = _ :=
      perform_dispatch_of_idle hprepared (hid ▸ hidle'') hopen
    have hout : u.active.contains id = false := by simp [ActiveSet.contains, hidle.inactive]
    have hended : ended = (.told (o.event id) false :: (performAll u before).1 ++
        (.asked id :: (performAll (performAll u before).2 meanwhile).1 ++
          [.prepared sub.request]), v.accept sub) := by
      simp only [ended, htold, performAll_append, performAll_cons, performAll_nil, hdispatch, hout,
        hid, List.append_nil, List.cons_append]
      rfl
    refine ⟨hended, ?_⟩
    rw [hended]
    refine ⟨ActiveSet.mem_insert.2 (.inr hsub.symm), ?_, ?_⟩
    · rw [← hsub]
      exact find?_accept (hsub ▸ hidle'')
    · simp [accept, tags, hsub]
  case detached =>
    have hu : u = s.dismiss t.tag := hlinked.complete_of_detached ht hdet o
    have hother : s.calls.find? id ≠ some t.tag := (hlinked.detached_iff ht).1 hdet
    rw [hu]
    refine ⟨rfl, rfl, fun tag hf => ⟨hcovered id ?_, hf, ?_⟩⟩
    · exact Option.isSome_iff_exists.2 ⟨tag, hf⟩
    · have hne : tag ≠ t.tag := fun he => hother (he ▸ hf)
      rw [tags_dismiss hlinked.tags_nodup]
      exact (List.mem_erase_of_ne hne).2 (hlinked.mem_tags_of_find? hf)

/-- A listener that has the request of the ended task dispatched again, and a later call that the
end of an aborted one leaves alone. -/
theorem release_precedes_closing_of_reuse :
    let one : RequestId := ⟨1, by decide⟩
    let env : Environment := { resolve := fun _ => none, boundary := "" }
    let d : Descriptor := { id := one, method := "GET", url := "http://a/" }
    let s := (performAll (.ofClient {}) [.dispatch env d []]).2
    let s' := (performAll (.ofClient {}) [.dispatch env d [], .abort one, .dispatch env d []]).2
    (s.completeTold ⟨one, 0⟩ .finished [.dispatch env d []]).2.calls.find? one = some ⟨one, 1⟩ ∧
      (s'.complete ⟨one, 0⟩ .cancelled).2.calls.find? one = some ⟨one, 1⟩ := by
  intro one env d s s'
  constructor
  · have hone : ∃ t ∈ s.tasks, t.tag = ⟨one, 0⟩ ∧ s.detached t = false := by decide +kernel
    obtain ⟨t, ht, htag, hdet⟩ := hone
    have hsafe : Except.isOk (d.prepare env).outcome = true := by decide +kernel
    obtain ⟨sub, hprepared⟩ := exists_prepared hsafe
    obtain ⟨-, -, hfree, -⟩ := release_precedes_closing {} [.dispatch env d []] t .finished ht
    have hopen : (s.complete t.tag .finished).2.active.shuttingDown = false := by
      rw [htag]
      decide +kernel
    have hnext : (s.complete t.tag .finished).2.calls.fresh one = ⟨one, 1⟩ := by
      rw [htag]
      decide +kernel
    have hspares : Spares t.tag.id [] := fun x hx => absurd hx (List.not_mem_nil)
    obtain ⟨-, -, hfind, -⟩ := (hfree hdet).2 [] [] hspares hspares hopen env d sub (by rw [htag])
      hprepared
    rw [htag] at hfind hnext
    exact hfind.trans (congrArg some hnext)
  · have htwo : ∃ t ∈ s'.tasks, t.tag = ⟨one, 0⟩ ∧ s'.detached t = true := by decide +kernel
    obtain ⟨t, ht, htag, hdet⟩ := htwo
    have hlive : s'.calls.find? one = some ⟨one, 1⟩ := by decide +kernel
    obtain ⟨-, -, -, hdetached⟩ := release_precedes_closing {}
      [.dispatch env d [], .abort one, .dispatch env d []] t .cancelled ht
    have hkept := ((hdetached hdet).2.2 ⟨one, 1⟩ (htag ▸ hlive)).2.1
    rwa [htag] at hkept

end Outbound.Dispatcher
