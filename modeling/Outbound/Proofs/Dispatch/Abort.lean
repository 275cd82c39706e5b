import Outbound.Proofs.Dispatch.Agreement
import Outbound.Proofs.Dispatch.Closing

/-! An abort frees its identity at once. The call of the identity, if there is one, is sent one
signal, which reaches the task of the call and no other; no other identity is touched. The identity
can be taken on again, while the task that was aborted still tells its own end. -/

namespace Outbound.Dispatcher

variable {s : Dispatcher} {id other : RequestId} {tag : CallTag}

/-- The signal for a tag reaches one task, and changes no other. -/
def Reaches (s : Dispatcher) (tag : CallTag) : Prop :=
  ∃ before t after, s.tasks = before ++ t :: after ∧ t.tag = tag ∧ t.signalled = false ∧
    (s.deliver tag).tasks = before ++ { t with signalled := true } :: after

theorem map_hear_of_forall_ne {ts : List Task} (h : ∀ t ∈ ts, t.tag ≠ tag) :
    ts.map (hear tag) = ts := by
  refine (List.map_congr_left fun t ht => ?_).trans (List.map_id ts)
  exact if_neg (h t ht)

namespace Linked

theorem reaches (h : Linked s) (hone : s.cancels.count tag = 1) (hpending : tag ∈ s.tags) :
    s.Reaches tag := by
  have hqueued : tag ∈ s.cancels := List.count_pos_iff.1 (Nat.lt_of_lt_of_eq Nat.one_pos hone.symm)
  obtain ⟨t, ht, rfl⟩ := List.mem_map.1 hpending
  obtain ⟨before, after, hsplit⟩ := List.append_of_mem ht
  have hnodup : (before.map (·.tag) ++ t.tag :: after.map (·.tag)).Nodup := by
    simpa [tags, hsplit] using h.tags_nodup
  have hother : t.tag ∉ before.map (·.tag) ++ after.map (·.tag) :=
    (List.nodup_middle.1 hnodup).notMem
  have hbefore : ∀ u ∈ before, u.tag ≠ t.tag := fun u hu he =>
    hother (List.mem_append_left _ (List.mem_map.2 ⟨u, hu, he⟩))
  have hafter : ∀ u ∈ after, u.tag ≠ t.tag := fun u hu he =>
    hother (List.mem_append_right _ (List.mem_map.2 ⟨u, hu, he⟩))
  have hunheard : t.signalled = false := by
    cases hsig : t.signalled with
    | false => rfl
    | true => exact absurd hqueued (h.signalled t ht hsig)
  refine ⟨before, t, after, hsplit, rfl, hunheard, ?_⟩
  -- no other task carries the tag, so the others stay as they are
  have htasks : (s.deliver t.tag).tasks = s.tasks.map (hear t.tag) := by rw [deliver_of_mem hqueued]
  rw [htasks, hsplit, List.map_append, List.map_cons, map_hear_of_forall_ne hbefore,
    map_hear_of_forall_ne hafter]
  simp [hear]

theorem count_cancels_abort (h : Linked s) (hc : Covered s) (hf : s.calls.find? id = some tag) :
    s.cancels.count tag = 0 ∧ (s.abort id).cancels.count tag = 1 := by
  have hzero : s.cancels.count tag = 0 :=
    List.count_eq_zero.2 (h.not_mem_cancels (h.find?_eq_some_iff.1 hf).1)
  refine ⟨hzero, ?_⟩
  rw [abort_eq hc, hf, List.count_append, hzero]
  simp

theorem mem_tags_of_find? (h : Linked s) (hf : s.calls.find? id = some tag) : tag ∈ s.tags := by
  obtain ⟨t, ht, rfl, -⟩ := h.mem_live_iff.1 (h.find?_eq_some_iff.1 hf).1
  exact List.mem_map_of_mem ht

theorem count_closersAll (h : Linked s) (hpending : tag ∈ s.tags) (as : List Action) :
    (closersAll s as).count tag + (Dispatcher.performAll s as).2.tags.count tag = 1 := by
  rw [(performAll_accounted as h).old tag (h.tags_issued tag hpending)]
  exact List.count_eq_one_of_mem h.tags_nodup hpending

end Linked

theorem idle_abort (h : Covered s) (id : RequestId) : Idle (s.abort id) id := by
  refine ⟨?_, fun hin => ((mem_active_abort h).1 hin).2 rfl⟩
  rw [Bool.eq_false_iff]
  exact fun hin => ((contains_abort h).1 hin).2 rfl

theorem abort_of_idle (h : Idle s id) : s.abort id = s := by
  have hout : s.active.contains id = false := by simp [ActiveSet.contains, h.inactive]
  simp [abort, hout]

namespace Idle

theorem accept {sub : Submission} (h : Idle s id) (hne : id ≠ sub.id) : Idle (s.accept sub) id := by
  have huncalled : (s.accept sub).calls.contains id ≠ true := by
    intro hin
    rcases CallTable.contains_push.1 hin with hin | he
    · simp [h.uncalled] at hin
    · exact hne he
  refine ⟨Bool.eq_false_iff.2 huncalled, fun hin => ?_⟩
  exact (ActiveSet.mem_insert.1 hin).elim h.inactive hne

theorem submit {env : Environment} {d : Descriptor} (h : Idle s id)
    (hx : (Step.submit env d).enters? ≠ some id) : Idle (s.submit env d).2 id := by
  cases hp : (d.prepare env).outcome with
  | error halt => rwa [submit_of_error hp]
  | ok prepared =>
    have hother : d.id ≠ id := by
      rw [← id_of_prepare hp]
      simpa [Step.enters?, hp, Except.toOption] using hx
    refine submit_preserves (P := (Idle · id)) (fun _ hs => ⟨hs.uncalled, hs.inactive⟩) ?_ h
    intro s sub hid _ hs
    exact hs.accept fun he => hother (hid.symm.trans he.symm)

theorem step (h : Idle s id) (hc : Covered s) {x : Step} (hx : x.enters? ≠ some id) :
    Idle (s.step x) id := by
  have hcalls : s.calls.contains id ≠ true := by simp [h.uncalled]
  cases x with
  | submit env d => exact h.submit hx
  | abort other =>
    refine ⟨Bool.eq_false_iff.2 fun hin => ?_, fun hin => ?_⟩
    · exact hcalls ((contains_abort hc).1 hin).1
    · exact h.inactive ((mem_active_abort hc).1 hin).1
  | shutdown =>
    refine ⟨contains_shutdown hc, fun hin => ?_⟩
    rw [Dispatcher.step, active_shutdown] at hin
    exact ActiveSet.not_mem_takeAll hin
  | deliver tag =>
    refine ⟨?_, ?_⟩
    · rw [Dispatcher.step, calls_deliver]
      exact h.uncalled
    · rw [Dispatcher.step, active_deliver]
      exact h.inactive
  | complete tag o =>
    refine complete_preserves (P := (Idle · id)) (fun _ => ?_) (fun _ => ⟨h.uncalled, h.inactive⟩) h
    refine ⟨Bool.eq_false_iff.2 fun hin => ?_, fun hin => ?_⟩
    · exact hcalls (CallTable.contains_without.1 hin).1
    · exact h.inactive (ActiveSet.mem_erase.1 hin).1
  | register other =>
    refine ⟨h.uncalled, fun hin => ?_⟩
    rcases ActiveSet.mem_insert.1 hin with hin | rfl
    · exact h.inactive hin
    · exact hx rfl

theorem performAll (h : Idle s id) (hc : Covered s) {as : List Action} (has : Spares id as) :
    Idle (performAll s as).2 id := by
  have hkept : Covered (Dispatcher.performAll s as).2 ∧ Idle (Dispatcher.performAll s as).2 id :=
    performAll_preserves (P := fun t => Covered t ∧ Idle t id)
      (fun _ x hx ht => ⟨ht.1.step x, ht.2.step ht.1 hx⟩) as s has ⟨hc, h⟩
  exact hkept.2

end Idle

theorem perform_dispatch_of_idle {env : Environment} {d : Descriptor} {meanwhile : List Action}
    {sub : Submission} (hprepared : (d.prepare env).outcome = .ok sub)
    (hidle : Idle (performAll s meanwhile).2 d.id)
    (hopen : (performAll s meanwhile).2.active.shuttingDown = false) :
    perform s (.dispatch env d meanwhile) =
      (.asked d.id :: (performAll s meanwhile).1 ++ [.prepared sub.request],
        (performAll s meanwhile).2.accept sub) := by
  have hbefore : s.active.shuttingDown = false := by
    cases hdown : s.active.shuttingDown with
    | false => rfl
    | true => rw [shuttingDown_performAll hdown meanwhile] at hopen; cases hopen
  have hfree : Free (performAll s meanwhile).2 sub.id :=
    ⟨id_of_prepare hprepared ▸ hidle, hopen⟩
  rw [perform_dispatch_of_open hbefore, submit_of_ok hprepared, start_of_free hfree]

theorem find?_accept {sub : Submission} (h : Idle s sub.id) :
    (s.accept sub).calls.find? sub.id = some (s.calls.fresh sub.id) :=
  CallTable.find?_push_self h.uncalled

theorem find?_abort_of_ne (h : Covered s) (hne : other ≠ id) :
    (s.abort id).calls.find? other = s.calls.find? other := by
  rw [abort_eq h, CallTable.find?_without_of_ne _ hne]

theorem cancels_abort_of_ne (h : Covered s) (hne : other ≠ id) :
    (s.abort id).cancels.filter (·.id = other) = s.cancels.filter (·.id = other) := by
  have hown : (s.calls.find? id).toList.filter (·.id = other) = [] := by
    rw [List.filter_eq_nil_iff]
    intro tag htag
    have hid : tag.id = id := CallTable.find?_id (Option.mem_toList.1 htag)
    simpa [hid] using hne.symm
  rw [abort_eq h, List.filter_append, hown, List.append_nil]

/-- Whatever has happened, an abort leaves the identity idle, a second one changes nothing, and no
other identity notices. A live call is sent one signal, which reaches its own task; that task ends
once, whatever comes. Until the identity is dispatched again, it stays idle; and if it is dispatched
again, the request is taken on unless it fails a check or a shutdown has begun. -/
theorem abort_frees_identity (c : Client) (as : List Action) (id : RequestId) :
    let s := (performAll (.ofClient c) as).2
    let t := s.abort id
    (id ∉ t.active ∧ t.calls.contains id = false) ∧
    t.abort id = t ∧
    (t.tasks = s.tasks ∧ ∀ other, other ≠ id → (other ∈ t.active ↔ other ∈ s.active) ∧
      t.calls.find? other = s.calls.find? other ∧
      t.cancels.filter (·.id = other) = s.cancels.filter (·.id = other)) ∧
    t.cancels = s.cancels ++ (s.calls.find? id).toList ∧
    (∀ tag, s.calls.find? id = some tag →
      (s.cancels.count tag = 0 ∧ t.cancels.count tag = 1 ∧ t.Reaches tag) ∧
      ∀ bs, (closersAll t bs).count tag + (performAll t bs).2.tags.count tag = 1 ∧
        (tag ∈ (performAll t bs).2.tags → ∀ o, ∃ active,
          (perform (performAll t bs).2 (.complete tag o)).1 = [.told (o.event id) active])) ∧
    ∀ bs meanwhile, Spares id bs → Spares id meanwhile →
      let u := (performAll t bs).2
      let v := (performAll u meanwhile).2
      v.active.shuttingDown = false → ∀ env d sub, d.id = id → (d.prepare env).outcome = .ok sub →
        perform u (.dispatch env d meanwhile) =
          (.asked id :: (performAll u meanwhile).1 ++ [.prepared sub.request], v.accept sub) ∧
        id ∈ (v.accept sub).active ∧ (v.accept sub).calls.find? id = some (v.calls.fresh id) ∧
        v.calls.fresh id ∈ (v.accept sub).tags := by
  intro s t
  have hlinked : Linked s := (Linked.ofClient c).performAll as
  have hcovered : Covered s := (Covered.ofClient c).performAll as
  have hidle : Idle t id := idle_abort hcovered id
  refine ⟨⟨hidle.inactive, hidle.uncalled⟩, abort_of_idle hidle, ⟨tasks_abort s id, ?others⟩,
    ?cancels, ?task, ?again⟩
  case others =>
    intro other hne
    refine ⟨?_, find?_abort_of_ne hcovered hne, cancels_abort_of_ne hcovered hne⟩
    rw [mem_active_abort hcovered]
    exact and_iff_left hne
  case cancels => exact congrArg Dispatcher.cancels (abort_eq hcovered id)
  case task =>
    intro tag hf
    obtain ⟨hbefore, hqueued⟩ := hlinked.count_cancels_abort hcovered hf
    have hpending : tag ∈ t.tags := by
      rw [tags, tasks_abort]
      exact hlinked.mem_tags_of_find? hf
    have hlinked' : Linked t := hlinked.abort id
    refine ⟨⟨hbefore, hqueued, hlinked'.reaches hqueued hpending⟩, fun bs => ⟨?_, fun hleft o => ?_⟩⟩
    · exact hlinked'.count_closersAll hpending bs
    · rw [perform, complete_of_mem hleft, CallTable.find?_id hf]
      exact ⟨_, rfl⟩
  case again =>
    -- the identity stays idle up to the moment at which the request is registered
    intro bs meanwhile hbs hmeanwhile u v hopen env d sub hid hprepared
    subst hid
    have hcovered' : Covered t := hcovered.step (.abort d.id)
    have hidle' : Idle u d.id := hidle.performAll hcovered' hbs
    have hidle'' : Idle v d.id := hidle'.performAll (hcovered'.performAll bs) hmeanwhile
    have hsub : sub.id = d.id := id_of_prepare hprepared
    refine ⟨perform_dispatch_of_idle hprepared hidle'' hopen, ?_, ?_, ?_⟩
    · exact ActiveSet.mem_insert.2 (.inr hsub.symm)
    · rw [← hsub]
      exact find?_accept (hsub ▸ hidle'')
    · simp [accept, tags, hsub]

theorem abort_frees_reused_identity :
    let one : RequestId := ⟨1, by decide⟩
    let env : Environment := { resolve := fun _ => none, boundary := "" }
    let d : Descriptor := { id := one, method := "GET", url := "http://a/" }
    let s := (performAll (.ofClient {}) [.dispatch env d [], .abort one, .dispatch env d []]).2
    s.calls.find? one = some ⟨one, 1⟩ ∧ (s.abort one).Reaches ⟨one, 1⟩ ∧
      (perform (s.abort one) (.dispatch env d [])).2.calls.find? one = some ⟨one, 2⟩ := by
  intro one env d s
  have hlive : s.calls.find? one = some ⟨one, 1⟩ := by decide +kernel
  have hopen : (s.abort one).active.shuttingDown = false := by decide +kernel
  have hfresh : (s.abort one).calls.fresh one = ⟨one, 2⟩ := by decide +kernel
  have hsafe : Except.isOk (d.prepare env).outcome = true := by decide +kernel
  obtain ⟨sub, hprepared⟩ := exists_prepared hsafe
  obtain ⟨-, -, -, -, htask, hagain⟩ :=
    abort_frees_identity {} [.dispatch env d [], .abort one, .dispatch env d []] one
  have hreaches : (s.abort one).Reaches ⟨one, 1⟩ := (htask ⟨one, 1⟩ hlive).1.2.2
  obtain ⟨hperform, -, hfind, -⟩ :=
    hagain [] [] (by decide) (by decide) hopen env d sub rfl hprepared
  simp only [performAll_nil] at hperform hfind
  refine ⟨hlive, hreaches, ?_⟩
  rw [hperform, hfind, hfresh]

end Outbound.Dispatcher
