import Outbound.Proofs.Dispatch.Ownership
import Outbound.Proofs.Dispatch.Refusal

/-! Every request ends with one closing event, unless it overruns. What is asked for is refused, with
one closing event, or becomes a task, which tells its closing event when it is over; nothing else
tells one. So the events told, the tasks not yet over and the requests that overran make up the
requests, for each identity by itself. -/

namespace Outbound.Dispatcher

variable {s t u : Dispatcher} {id : RequestId} {tag : CallTag}

@[simp] theorem requests_nil (id : RequestId) : requests id [] = 0 := rfl

@[simp] theorem requests_append (id : RequestId) (es fs : List Entry) :
    requests id (es ++ fs) = requests id es + requests id fs := List.count_append

@[simp] theorem requests_asked (id other : RequestId) (es : List Entry) :
    requests id (.asked other :: es) = requests id es + if other = id then 1 else 0 := by
  simp [requests, List.count_cons]

@[simp] theorem requests_prepared (id : RequestId) (r : Request) (es : List Entry) :
    requests id (.prepared r :: es) = requests id es := by
  simp [requests]

@[simp] theorem requests_overran (id other : RequestId) (es : List Entry) :
    requests id (.overran other :: es) = requests id es := by
  simp [requests]

@[simp] theorem requests_tell (id : RequestId) (s : Dispatcher) (e : Event) (es : List Entry) :
    requests id (s.tell e :: es) = requests id es := by
  simp [requests, tell]

@[simp] theorem closings_nil (id : RequestId) : closings id [] = 0 := rfl

@[simp] theorem closings_append (id : RequestId) (es fs : List Entry) :
    closings id (es ++ fs) = closings id es + closings id fs := by
  simp [closings]

@[simp] theorem closings_asked (id other : RequestId) (es : List Entry) :
    closings id (.asked other :: es) = closings id es := rfl

@[simp] theorem closings_prepared (id : RequestId) (r : Request) (es : List Entry) :
    closings id (.prepared r :: es) = closings id es := rfl

@[simp] theorem closings_overran (id other : RequestId) (es : List Entry) :
    closings id (.overran other :: es) = closings id es := rfl

theorem closings_tell {e : Event} (h : e.isTerminal = true) (id : RequestId) (s : Dispatcher) :
    closings id [s.tell e] = if e.id = id then 1 else 0 := by
  by_cases hid : e.id = id <;> simp [closings, tell, Entry.event?, h, hid]

theorem closings_refusal (id other : RequestId) (s : Dispatcher) (f : Failure) :
    closings id [s.tell (.ofFailure other f)] = if other = id then 1 else 0 :=
  closings_tell rfl id s

theorem pending_eq (s : Dispatcher) (id : RequestId) :
    s.pending id = s.tags.countP (·.id = id) := by
  simp [pending, tags, List.countP_map, Function.comp_def]

theorem tags_dismiss (h : s.tags.Nodup) : (s.dismiss tag).tags = s.tags.erase tag := by
  have hfilter : (s.dismiss tag).tags = s.tags.filter (· ≠ tag) := by
    simp [tags, dismiss, List.filter_map, Function.comp_def]
  rw [hfilter, h.erase_eq_filter]
  apply List.filter_congr
  intro other _
  by_cases he : other = tag <;> simp [he]

theorem tags_complete (h : Linked s) (tag : CallTag) (o : Outcome) :
    (s.complete tag o).2.tags = s.tags.erase tag := by
  by_cases hmem : tag ∈ s.tags
  · by_cases hlive : s.calls.find? tag.id = some tag
    · rw [complete_of_live hmem hlive]
      exact tags_dismiss (s := s.release tag.id) h.tags_nodup
    · rw [complete_of_detached hmem hlive]
      exact tags_dismiss h.tags_nodup
  · rw [complete_of_not_mem hmem, List.erase_of_not_mem hmem]

theorem submit_balance (s : Dispatcher) (env : Environment) (d : Descriptor) (id : RequestId) :
    closings id (s.submit env d).1 + (if d.id = id ∧ d.overruns env = true then 1 else 0) +
        pending (s.submit env d).2 id =
      pending s id + if d.id = id then 1 else 0 := by
  rcases submit_cases s env d with ⟨sub, hsub, hid, -, heq⟩ |
    ⟨shown, f, t, hfits, ht, hshown, heq⟩ | ⟨hover, heq⟩
  · have hfits : d.overruns env = false := Descriptor.overruns_of_ne (by simp [hsub])
    simp [heq, hfits, pending, accept, CallTable.fresh, hid]
  · have hpending : t.pending id = s.pending id := by rcases ht with rfl | rfl <;> rfl
    have hclosings : closings id shown = 0 := by rcases hshown with rfl | ⟨r, rfl⟩ <;> rfl
    rw [heq, closings_append, hclosings, hpending, closings_refusal,
      Descriptor.overruns_of_ne hfits]
    simp [Nat.add_comm]
  · simp [heq, Descriptor.prepare_overruns_iff.1 hover, Nat.add_comm]

theorem requests_submit (s : Dispatcher) (env : Environment) (d : Descriptor) (id : RequestId) :
    requests id (s.submit env d).1 = 0 := by
  rcases submit_cases s env d with ⟨sub, -, -, -, heq⟩ | ⟨shown, f, t, -, -, hshown, heq⟩ |
    ⟨-, heq⟩
  · simp [heq]
  · rcases hshown with rfl | ⟨r, rfl⟩ <;> simp [heq]
  · simp [heq]

theorem complete_balance (h : Linked s) (tag : CallTag) (o : Outcome) (id : RequestId) :
    closings id (s.complete tag o).1 + pending (s.complete tag o).2 id = pending s id := by
  by_cases hmem : tag ∈ s.tags
  · have hcount : s.tags.countP (·.id = id) =
        (s.tags.erase tag).countP (·.id = id) + if tag.id = id then 1 else 0 := by
      rw [(List.perm_cons_erase hmem).countP_eq, List.countP_cons]
      simp
    have htold : closings id (s.complete tag o).1 = if tag.id = id then 1 else 0 := by
      rw [complete_of_mem hmem, closings_tell (Outcome.isTerminal_event _ o)]
      simp
    rw [pending_eq, pending_eq, tags_complete h, htold]
    omega
  · simp [complete_of_not_mem hmem]

theorem requests_complete (s : Dispatcher) (tag : CallTag) (o : Outcome) (id : RequestId) :
    requests id (s.complete tag o).1 = 0 := by
  unfold complete
  split <;> simp

mutual

/-- How many requests of an identity overrun in the course of an action. -/
def overrunning (id : RequestId) (s : Dispatcher) : Action → Nat
  | .dispatch env d meanwhile =>
    if s.active.shuttingDown then 0
    else overrunningAll id s meanwhile + if d.id = id ∧ d.overruns env = true then 1 else 0
  | _ => 0

def overrunningAll (id : RequestId) (s : Dispatcher) : List Action → Nat
  | [] => 0
  | a :: as => overrunning id s a + overrunningAll id (perform s a).2 as

end

mutual

theorem perform_balance (id : RequestId) : ∀ (a : Action) {s : Dispatcher}, Linked s →
    closings id (perform s a).1 + overrunning id s a + pending (perform s a).2 id =
      requests id (perform s a).1 + pending s id
  | .dispatch env d meanwhile, s, h => by
    cases hdown : s.active.shuttingDown with
    | true =>
      simp only [perform_dispatch_of_closed hdown, closings_asked, closings_refusal, requests_asked,
        requests_tell, requests_nil, overrunning, hdown, if_true]
      omega
    | false =>
      have hbefore := performAll_balance id meanwhile h
      have hsubmit := submit_balance (performAll s meanwhile).2 env d id
      have hquiet := requests_submit (performAll s meanwhile).2 env d id
      simp only [perform_dispatch_of_open hdown, List.cons_append, closings_asked, closings_append,
        requests_asked, requests_append, overrunning, hdown, Bool.false_eq_true, if_false]
      omega
  | .abort id', s, _ => by simp [perform, pending, overrunning]
  | .shutdown, s, _ => by simp [perform, pending, overrunning]
  | .deliver tag, s, _ => by simp [perform, pending_eq, overrunning]
  | .complete tag o, s, h => by
    have hquiet := requests_complete s tag o id
    have hcomplete := complete_balance h tag o id
    simp only [perform, overrunning]
    omega
  | .register id', s, _ => by simp [perform, pending, overrunning]

theorem performAll_balance (id : RequestId) : ∀ (as : List Action) {s : Dispatcher}, Linked s →
    closings id (performAll s as).1 + overrunningAll id s as + pending (performAll s as).2 id =
      requests id (performAll s as).1 + pending s id
  | [], _, _ => rfl
  | a :: as, s, h => by
    have hhead := perform_balance id a h
    have htail := performAll_balance id as (h.perform a)
    simp only [performAll_cons, closings_append, requests_append, overrunningAll]
    omega

end

mutual

/-- The tasks under way after an action, as its dispatches and completions tell: a request that is
neither refused nor overruns is a new task, and a completion ends the task that it names. -/
def underWay (ls : List CallTag) (s : Dispatcher) : Action → List CallTag
  | .dispatch env d meanwhile =>
    if s.active.shuttingDown then ls
    else
      let t := (performAll s meanwhile).2
      let before := underWayAll ls s meanwhile
      if d.overruns env ∨ closings d.id (t.submit env d).1 ≠ 0 then before
      else before ++ [t.calls.fresh d.id]
  | .complete tag _ => ls.erase tag
  | _ => ls

def underWayAll (ls : List CallTag) (s : Dispatcher) : List Action → List CallTag
  | [] => ls
  | a :: as => underWayAll (underWay ls s a) (perform s a).2 as

end

theorem tags_submit (s : Dispatcher) (env : Environment) (d : Descriptor) :
    (s.submit env d).2.tags =
      if d.overruns env ∨ closings d.id (s.submit env d).1 ≠ 0 then s.tags
      else s.tags ++ [s.calls.fresh d.id] := by
  rcases submit_cases s env d with ⟨sub, hsub, hid, -, heq⟩ | ⟨shown, f, t, -, ht, -, heq⟩ |
    ⟨hover, heq⟩
  · have hfits : d.overruns env = false := Descriptor.overruns_of_ne (by simp [hsub])
    simp [heq, hfits, accept, tags, hid]
  · -- the refusal is told under the identity of the request, which is how it is known
    have htags : t.tags = s.tags := by rcases ht with rfl | rfl <;> rfl
    have htold : closings d.id (s.submit env d).1 ≠ 0 := by
      rw [heq, closings_append, closings_refusal, if_pos rfl]
      exact Nat.succ_ne_zero _
    rw [if_pos (.inr htold), heq, htags]
  · rw [if_pos (.inl (Descriptor.prepare_overruns_iff.1 hover)), heq]

mutual

theorem tags_perform : ∀ (a : Action) {s : Dispatcher}, Linked s →
    (perform s a).2.tags = underWay s.tags s a
  | .dispatch env d meanwhile, s, h => by
    cases hdown : s.active.shuttingDown with
    | true => simp [perform_dispatch_of_closed hdown, underWay, hdown]
    | false =>
      rw [perform_dispatch_of_open hdown, tags_submit, tags_performAll meanwhile h]
      simp [underWay, hdown]
  | .abort id, s, _ => by simp [perform, underWay, tags]
  | .shutdown, s, _ => by simp [perform, underWay, tags]
  | .deliver tag, s, _ => tags_deliver s tag
  | .complete tag o, s, h => tags_complete h tag o
  | .register id, s, _ => rfl

theorem tags_performAll : ∀ (as : List Action) {s : Dispatcher}, Linked s →
    (performAll s as).2.tags = underWayAll s.tags s as
  | [], _, _ => rfl
  | a :: as, s, h => by
    rw [performAll_cons, underWayAll, tags_performAll as (h.perform a), tags_perform a h]

end

/-- Actions during which nothing else goes on. -/
def Action.plain : Action → Bool
  | .dispatch _ _ meanwhile => meanwhile.isEmpty
  | _ => true

def Action.asks (id : RequestId) : Action → Bool
  | .dispatch _ d _ => d.id = id
  | _ => false

theorem requests_perform {a : Action} (h : a.plain = true) (s : Dispatcher) (id : RequestId) :
    requests id (perform s a).1 = if a.asks id then 1 else 0 := by
  cases a with
  | dispatch env d meanwhile =>
    obtain rfl : meanwhile = [] := by simpa [Action.plain] using h
    cases hdown : s.active.shuttingDown with
    | true => simp [perform_dispatch_of_closed hdown, Action.asks]
    | false => simp [perform_dispatch_of_open hdown, requests_submit, Action.asks]
  | complete tag o => simpa [perform, Action.asks] using requests_complete s tag o id
  | _ => simp [perform, Action.asks]

theorem requests_performAll {as : List Action} (h : ∀ a ∈ as, a.plain = true) (s : Dispatcher)
    (id : RequestId) : requests id (performAll s as).1 = as.countP (·.asks id) := by
  induction as generalizing s with
  | nil => rfl
  | cons a as ih =>
    have hhead := requests_perform (h a (by simp)) s id
    have htail := ih (fun b hb => h b (by simp [hb])) (perform s a).2
    rw [performAll_cons, requests_append, hhead, htail, List.countP_cons, Nat.add_comm]

mutual

/-- The tasks that end in the course of an action: the tag of each, once for each event it tells. -/
def closers (s : Dispatcher) : Action → List CallTag
  | .dispatch _ _ meanwhile => if s.active.shuttingDown then [] else closersAll s meanwhile
  | .complete tag o => (s.complete tag o).1.map fun _ => tag
  | _ => []

def closersAll (s : Dispatcher) : List Action → List CallTag
  | [] => []
  | a :: as => closers s a ++ closersAll (perform s a).2 as

end

/-- The tasks of one state account for those that end on the way to another, and for those that are
left. A task that was not there before has a new tag, and is told of once at most. -/
structure Accounted (s : Dispatcher) (ended : List CallTag) (t : Dispatcher) : Prop where
  next_le : s.calls.next ≤ t.calls.next
  old : ∀ tag, tag.generation < s.calls.next → ended.count tag + t.tags.count tag = s.tags.count tag
  new : ∀ tag, ended.count tag + t.tags.count tag ≤ 1
  issued : ∀ tag ∈ ended, tag.generation < t.calls.next

namespace Accounted

theorem of_count (h : Linked s) (hnext : s.calls.next ≤ t.calls.next) {ended : List CallTag}
    (hcount : ∀ tag, ended.count tag + t.tags.count tag = s.tags.count tag) :
    Accounted s ended t where
  next_le := hnext
  old tag _ := hcount tag
  new tag := by
    rw [hcount]
    exact List.nodup_iff_count_le_one.1 h.tags_nodup tag
  issued tag ht := by
    have hpos : 0 < s.tags.count tag := by
      rw [← hcount]
      exact Nat.add_pos_left (List.count_pos_iff.2 ht) _
    exact Nat.lt_of_lt_of_le (h.tags_issued tag (List.count_pos_iff.1 hpos)) hnext

theorem of_tags (h : Linked s) (hnext : s.calls.next ≤ t.calls.next) (htags : t.tags = s.tags) :
    Accounted s [] t :=
  of_count h hnext (by simp [htags])

theorem append {xs ys : List CallTag} (h : Accounted s xs t) (h' : Accounted t ys u) :
    Accounted s (xs ++ ys) u where
  next_le := Nat.le_trans h.next_le h'.next_le
  old tag ht := by
    have hfirst := h.old tag ht
    have hrest := h'.old tag (Nat.lt_of_lt_of_le ht h.next_le)
    rw [List.count_append]
    omega
  new tag := by
    have hfirst := h.new tag
    have hrest := h'.new tag
    rw [List.count_append]
    by_cases ht : tag.generation < t.calls.next
    · have hrest := h'.old tag ht
      omega
    · -- a tag that was not yet issued has not ended
      have hzero : xs.count tag = 0 := List.count_eq_zero.2 fun hmem => ht (h.issued tag hmem)
      omega
  issued tag ht := by
    rcases List.mem_append.1 ht with ht | ht
    · exact Nat.lt_of_lt_of_le (h.issued tag ht) h'.next_le
    · exact h'.issued tag ht

theorem submit (h : Linked s) (env : Environment) (d : Descriptor) :
    Accounted s [] (s.submit env d).2 := by
  have hnext : s.calls.next ≤ (s.submit env d).2.calls.next := next_le_step s (.submit env d)
  rcases submit_cases s env d with ⟨sub, -, hid, hfree, heq⟩ | ⟨_, _, t, -, ht, -, heq⟩ |
    ⟨-, heq⟩
  · rw [heq] at hnext ⊢
    have haccept : Linked (s.accept sub) := h.accept (hid ▸ hfree.uncalled)
    have htags : (s.accept sub).tags = s.tags ++ [s.calls.fresh sub.id] := List.map_append
    refine ⟨hnext, fun tag ht => ?_, fun tag => ?_, by simp⟩
    · have hne : s.calls.fresh sub.id ≠ tag := by
        rintro rfl
        exact Nat.lt_irrefl _ ht
      simp [htags, List.count_append, hne]
    · simpa using List.nodup_iff_count_le_one.1 haccept.tags_nodup tag
  · have htags : t.tags = s.tags := by rcases ht with rfl | rfl <;> rfl
    rw [heq] at hnext ⊢
    exact of_tags h hnext htags
  · rw [heq]
    exact of_tags h (Nat.le_refl _) rfl

theorem complete (h : Linked s) (tag : CallTag) (o : Outcome) :
    Accounted s ((s.complete tag o).1.map fun _ => tag) (s.complete tag o).2 := by
  have hnext : s.calls.next ≤ (s.complete tag o).2.calls.next := next_le_step s (.complete tag o)
  refine of_count h hnext fun other => ?_
  rw [tags_complete h]
  by_cases hmem : tag ∈ s.tags
  · have htold : ((s.complete tag o).1.map fun _ => tag) = [tag] := by
      rw [complete_of_mem hmem]
      rfl
    rw [htold, (List.perm_cons_erase hmem).count_eq other, ← List.count_append]
    rfl
  · simp [complete_of_not_mem hmem, List.erase_of_not_mem hmem]

end Accounted

mutual

theorem perform_accounted : ∀ (a : Action) {s : Dispatcher}, Linked s →
    Accounted s (closers s a) (perform s a).2
  | .dispatch env d meanwhile, s, h => by
    cases hdown : s.active.shuttingDown with
    | true =>
      rw [perform_dispatch_of_closed hdown, closers, if_pos hdown]
      exact .of_tags h (Nat.le_refl _) rfl
    | false =>
      have hbefore := performAll_accounted meanwhile h
      have hsubmit := Accounted.submit (h.performAll meanwhile) env d
      rw [perform_dispatch_of_open hdown, closers, hdown]
      simpa using hbefore.append hsubmit
  | .abort id, s, h => .of_tags h (next_le_step s (.abort id)) (by simp [perform, tags])
  | .shutdown, s, h => .of_tags h (next_le_step s .shutdown) (by simp [perform, tags])
  | .deliver tag, s, h => .of_tags h (next_le_step s (.deliver tag)) (tags_deliver s tag)
  | .complete tag o, s, h => .complete h tag o
  | .register id, s, h => .of_tags h (Nat.le_refl _) rfl

theorem performAll_accounted : ∀ (as : List Action) {s : Dispatcher}, Linked s →
    Accounted s (closersAll s as) (performAll s as).2
  | [], _, h => .of_tags h (Nat.le_refl _) rfl
  | a :: as, s, h => by
    rw [performAll_cons, closersAll]
    exact (perform_accounted a h).append (performAll_accounted as (h.perform a))

end

/-- Whatever is dispatched, aborted, delivered and completed, and whatever resolver and hooks do in
between: each request that was asked for has told its one closing event, or has a task that is not
over, or overran, which it does exactly if it is too much. The tasks that are not over are those that
were started and not completed; a task that is completed tells its one closing event and is over, no
task tells a second one, and nothing but dispatches and completions tells any. -/
theorem one_closing_per_request_unless_overrun (c : Client) (as : List Action) :
    let entries := (performAll (.ofClient c) as).1
    let s := (performAll (.ofClient c) as).2
    let left := underWayAll [] (.ofClient c) as
    (∀ id, closings id entries + left.countP (·.id = id) + overrunningAll id (.ofClient c) as =
      requests id entries) ∧
    ((∀ a ∈ as, a.plain = true) → ∀ id, requests id entries = as.countP (·.asks id)) ∧
    (s.tags = left ∧ (closersAll (.ofClient c) as ++ left).Nodup) ∧
    (∀ tag ∈ left, ∀ o, ∃ e active, (perform s (.complete tag o)).1 = [.told e active] ∧
      e = o.event tag.id ∧ e.isTerminal = true ∧ e.id = tag.id ∧
      (perform s (.complete tag o)).2.tags = left.erase tag) ∧
    (∀ tag, tag ∉ left → ∀ o, perform s (.complete tag o) = ([], s)) ∧
    ∀ (u : Dispatcher) (id : RequestId) (tag : CallTag), (perform u (.abort id)).1 = [] ∧
      (perform u .shutdown).1 = [] ∧ (perform u (.deliver tag)).1 = [] := by
  intro entries s left
  have hstart : Linked (.ofClient c) := .ofClient c
  have hlinked : Linked s := hstart.performAll as
  have hleft : s.tags = left := tags_performAll as hstart
  refine ⟨fun id => ?_, fun hplain id => requests_performAll hplain _ id, ⟨hleft, ?_⟩,
    fun tag ht o => ?_, fun tag ht o => ?_, fun _ _ _ => ?_⟩
  · have hbalance := performAll_balance id as hstart
    rw [pending_eq, hleft] at hbalance
    have hnone : pending (.ofClient c) id = 0 := rfl
    simp only [entries]
    omega
  · rw [← hleft, List.nodup_iff_count_le_one]
    intro tag
    rw [List.count_append]
    exact (performAll_accounted as hstart).new tag
  · rw [← hleft] at ht ⊢
    refine ⟨o.event tag.id, _, congrArg Prod.fst (complete_of_mem ht o), rfl,
      Outcome.isTerminal_event _ o, Outcome.id_event _ o, tags_complete hlinked tag o⟩
  · rw [← hleft] at ht
    exact complete_of_not_mem ht
  · simp [perform]

/-- An identity in its second use: the task of the first has ended, and a third request is refused
while the second is under way. -/
theorem one_closing_per_request_unless_overrun_of_reuse :
    let one : RequestId := ⟨1, by decide⟩
    let env : Environment := { resolve := fun _ => none, boundary := "" }
    let d : Descriptor := { id := one, method := "GET", url := "http://a/" }
    let as : List Action := [.dispatch env d [], .abort one, .dispatch env d [],
      .deliver ⟨one, 0⟩, .complete ⟨one, 0⟩ .cancelled, .dispatch env d []]
    let run := performAll (.ofClient {}) as
    requests one run.1 = 3 ∧ closings one run.1 = 2 ∧ run.2.tags = [⟨one, 1⟩] ∧
      (run.2.complete ⟨one, 1⟩ .finished).1.filterMap Entry.event? = [.requestComplete one] ∧
      (run.2.complete ⟨one, 1⟩ .finished).2.tags = [] := by
  intro one env d as run
  obtain ⟨hbalance, hasked, ⟨htags, -⟩, hcompleted, -⟩ :=
    one_closing_per_request_unless_overrun {} as
  have hleft : underWayAll [] (.ofClient {}) as = [⟨one, 1⟩] := by decide +kernel
  have hfits : overrunningAll one (.ofClient {}) as = 0 := by decide +kernel
  have hthree : requests one run.1 = 3 := hasked (by decide) one
  have hclosed := hbalance one
  rw [hleft, hfits, hthree] at hclosed
  rw [hleft] at htags hcompleted
  obtain ⟨e, active, htold, rfl, -, -, hnone⟩ :=
    hcompleted ⟨one, 1⟩ (List.mem_singleton.2 rfl) .finished
  refine ⟨hthree, Nat.succ.inj hclosed, htags, ?_, hnone.trans (by decide)⟩
  exact congrArg (List.filterMap Entry.event?) htold

/-- A request with one field more than a map has room for has no task and never a closing event. -/
theorem overfull_list_has_no_closing :
    let env : Environment := { resolve := fun _ => none, boundary := "" }
    let d := crowded 24577
    let run := performAll (.ofClient {}) [.dispatch env d []]
    requests d.id run.1 = 1 ∧ closings d.id run.1 = 0 ∧ run.2.tasks = [] := by
  intro env d run
  have hrun : run = ([.asked d.id, .overran d.id], .ofClient {}) := by
    have hdispatch : perform (.ofClient {}) (.dispatch env d []) = _ :=
      perform_crowded rfl rfl (by decide)
    rw [show run = _ from performAll_cons _ _ _, hdispatch]
    rfl
  rw [hrun]
  exact ⟨by simp, rfl, rfl⟩

end Outbound.Dispatcher
