import Outbound.Dispatch.History

/-! The steps that histories are made of. What every step keeps, every history keeps, whatever
resolver and hooks do while a request is prepared. A submission has three ends: its request is
admitted; or it is refused and leaves nothing behind but, at most, a generation that is used up; or
it overruns and leaves nothing behind. -/

namespace Outbound.Dispatcher

/-- What a dispatcher does at once. A request is submitted when its preparation is over. -/
inductive Step
  | submit (env : Environment) (d : Descriptor)
  | abort (id : RequestId)
  | shutdown
  | deliver (tag : CallTag)
  | complete (tag : CallTag) (o : Outcome)
  | register (id : RequestId)

namespace Step

def enters? : Step → Option RequestId
  | .submit env d => (d.prepare env).outcome.toOption.map (·.id)
  | .register id => some id
  | _ => none

/-- Whether a step writes to the active set past the dispatcher. -/
def registers : Step → Bool
  | .register _ => true
  | _ => false

def stops : Step → Bool
  | .shutdown => true
  | _ => false

end Step

def step (s : Dispatcher) : Step → Dispatcher
  | .submit env d => (s.submit env d).2
  | .abort id => s.abort id
  | .shutdown => s.shutdown
  | .deliver tag => s.deliver tag
  | .complete tag o => (s.complete tag o).2
  | .register id => { s with active := s.active.insert id }

mutual

/-- The steps that an action is made of. A dispatch that is refused at once takes none of them. -/
def Action.steps : Action → List Step
  | .dispatch env d meanwhile => stepsAll meanwhile ++ [.submit env d]
  | .abort id => [.abort id]
  | .shutdown => [.shutdown]
  | .deliver tag => [.deliver tag]
  | .complete tag o => [.complete tag o]
  | .register id => [.register id]

def Action.stepsAll : List Action → List Step
  | [] => []
  | a :: as => a.steps ++ stepsAll as

end

def Orderly (as : List Action) : Prop := ∀ x ∈ Action.stepsAll as, x.registers = false

def Spares (id : RequestId) (as : List Action) : Prop :=
  ∀ x ∈ Action.stepsAll as, x.enters? ≠ some id

instance (as : List Action) : Decidable (Orderly as) :=
  inferInstanceAs (Decidable (∀ x ∈ Action.stepsAll as, x.registers = false))

instance (id : RequestId) (as : List Action) : Decidable (Spares id as) :=
  inferInstanceAs (Decidable (∀ x ∈ Action.stepsAll as, x.enters? ≠ some id))

variable {s : Dispatcher} {env : Environment} {d : Descriptor} {meanwhile : List Action}

theorem perform_dispatch_of_closed (h : s.active.shuttingDown = true) :
    perform s (.dispatch env d meanwhile) =
      ([.asked d.id, s.tell (.ofFailure d.id .shuttingDown)], s) := by
  simp [perform, dispatch, refuse, h]

theorem perform_dispatch_of_open (h : s.active.shuttingDown = false) :
    perform s (.dispatch env d meanwhile) =
      (.asked d.id :: (performAll s meanwhile).1 ++ ((performAll s meanwhile).2.submit env d).1,
        ((performAll s meanwhile).2.submit env d).2) := by
  simp [perform, h]

@[simp] theorem performAll_nil (s : Dispatcher) : performAll s [] = ([], s) := rfl

theorem performAll_cons (s : Dispatcher) (a : Action) (as : List Action) :
    performAll s (a :: as) =
      ((perform s a).1 ++ (performAll (perform s a).2 as).1,
        (performAll (perform s a).2 as).2) := by
  simp [performAll]

theorem performAll_append (s : Dispatcher) (as bs : List Action) :
    performAll s (as ++ bs) =
      ((performAll s as).1 ++ (performAll (performAll s as).2 bs).1,
        (performAll (performAll s as).2 bs).2) := by
  induction as generalizing s with
  | nil => rfl
  | cons a as ih => rw [List.cons_append, performAll_cons, performAll_cons, ih, List.append_assoc]

section Preservation

variable {P : Dispatcher → Prop} {Q : Step → Prop}

mutual

theorem perform_preserves (h : ∀ s x, Q x → P s → P (s.step x)) :
    ∀ (a : Action) (s : Dispatcher), (∀ x ∈ a.steps, Q x) → P s → P (perform s a).2
  | .dispatch env d meanwhile, s, hok, hs => by
    cases hdown : s.active.shuttingDown with
    | true => rwa [perform_dispatch_of_closed hdown]
    | false =>
      have hbefore : P (performAll s meanwhile).2 :=
        performAll_preserves h meanwhile s (fun x hx => hok x (by simp [Action.steps, hx])) hs
      rw [perform_dispatch_of_open hdown]
      exact h _ (.submit env d) (hok _ (by simp [Action.steps])) hbefore
  | .abort id, s, hok, hs => h s (.abort id) (hok _ (by simp [Action.steps])) hs
  | .shutdown, s, hok, hs => h s .shutdown (hok _ (by simp [Action.steps])) hs
  | .deliver tag, s, hok, hs => h s (.deliver tag) (hok _ (by simp [Action.steps])) hs
  | .complete tag o, s, hok, hs => h s (.complete tag o) (hok _ (by simp [Action.steps])) hs
  | .register id, s, hok, hs => h s (.register id) (hok _ (by simp [Action.steps])) hs

theorem performAll_preserves (h : ∀ s x, Q x → P s → P (s.step x)) :
    ∀ (as : List Action) (s : Dispatcher), (∀ x ∈ Action.stepsAll as, Q x) → P s →
      P (performAll s as).2
  | [], _, _, hs => hs
  | a :: as, s, hok, hs => by
    have ha : P (perform s a).2 :=
      perform_preserves h a s (fun x hx => hok x (by simp [Action.stepsAll, hx])) hs
    rw [performAll_cons]
    exact performAll_preserves h as _ (fun x hx => hok x (by simp [Action.stepsAll, hx])) ha

end

end Preservation

structure Idle (s : Dispatcher) (id : RequestId) : Prop where
  uncalled : s.calls.contains id = false
  inactive : id ∉ s.active

structure Free (s : Dispatcher) (id : RequestId) : Prop extends Idle s id where
  accepting : s.active.shuttingDown = false

def accept (s : Dispatcher) (sub : Submission) : Dispatcher :=
  { s with
    calls := s.calls.push sub.id
    active := s.active.insert sub.id
    tasks := s.tasks ++ [{ tag := s.calls.fresh sub.id, submission := sub }] }

def skip (s : Dispatcher) : Dispatcher := { s with calls := s.calls.skip }

theorem start_of_contains {sub : Submission} (h : s.calls.contains sub.id = true) :
    s.start sub = s.refuse sub.id (.alreadyInFlight sub.id) := by
  simp [start, CallTable.tag_of_contains h]

theorem start_of_mem {sub : Submission} (h : s.calls.contains sub.id = false)
    (hin : sub.id ∈ s.active) :
    s.start sub = s.skip.refuse sub.id (.alreadyInFlight sub.id) := by
  simp [start, CallTable.tag_of_not_contains h, CallTable.untag_push h, ActiveSet.add,
    ActiveSet.contains_iff.2 hin, skip]

theorem start_of_shuttingDown {sub : Submission} (h : s.calls.contains sub.id = false)
    (hout : sub.id ∉ s.active) (hdown : s.active.shuttingDown = true) :
    s.start sub = s.skip.refuse sub.id .shuttingDown := by
  have hadd : s.active.contains sub.id = false := by simp [ActiveSet.contains, hout]
  -- the identity is in before the flag is asked again, and is taken out
  simp [start, CallTable.tag_of_not_contains h, CallTable.untag_push h, ActiveSet.add, hadd,
    ActiveSet.remove, ActiveSet.erase_insert hout, hdown, skip]

theorem start_of_free {sub : Submission} (h : s.Free sub.id) :
    s.start sub = ([], s.accept sub) := by
  have hadd : s.active.contains sub.id = false := by simp [ActiveSet.contains, h.inactive]
  simp [start, CallTable.tag_of_not_contains h.uncalled, ActiveSet.add, hadd, h.accepting, accept]

theorem start_cases (s : Dispatcher) (sub : Submission) :
    s.Free sub.id ∧ s.start sub = ([], s.accept sub) ∨
      ¬ s.Free sub.id ∧ ∃ f, ∃ t, (t = s ∨ t = s.skip) ∧ s.start sub = t.refuse sub.id f := by
  cases hcalled : s.calls.contains sub.id with
  | true =>
    have hnot : ¬ s.Free sub.id := fun hf => by simp [hf.uncalled] at hcalled
    exact .inr ⟨hnot, _, s, .inl rfl, start_of_contains hcalled⟩
  | false =>
    by_cases hin : sub.id ∈ s.active
    · exact .inr ⟨fun hf => hf.inactive hin, _, s.skip, .inr rfl, start_of_mem hcalled hin⟩
    · cases hdown : s.active.shuttingDown with
      | true =>
        have hnot : ¬ s.Free sub.id := fun hf => by simp [hf.accepting] at hdown
        exact .inr ⟨hnot, _, s.skip, .inr rfl, start_of_shuttingDown hcalled hin hdown⟩
      | false =>
        have hfree : s.Free sub.id := ⟨⟨hcalled, hin⟩, hdown⟩
        exact .inl ⟨hfree, start_of_free hfree⟩

theorem id_of_prepare {sub : Submission} (h : (d.prepare env).outcome = .ok sub) :
    sub.id = d.id := by
  obtain ⟨r, -, hr⟩ := Trial.andThen_eq_ok_iff.1 h
  cases hr
  rfl

theorem exists_prepared (h : Except.isOk (d.prepare env).outcome = true) :
    ∃ sub, (d.prepare env).outcome = .ok sub := by
  cases hp : (d.prepare env).outcome with
  | ok sub => exact ⟨sub, rfl⟩
  | error f => rw [hp] at h; cases h

theorem submit_of_failure {f : Failure} (h : (d.prepare env).outcome = .error (.failure f)) :
    s.submit env d = s.refuse d.id f := by
  simp [submit, h]

theorem submit_of_overrun (h : (d.prepare env).outcome = .error .overrun) :
    s.submit env d = ([.overran d.id], s) := by
  simp [submit, h]

theorem submit_of_error {halt : Halt} (h : (d.prepare env).outcome = .error halt) :
    (s.submit env d).2 = s := by
  cases halt with
  | failure f => rw [submit_of_failure h, refuse]
  | overrun => rw [submit_of_overrun h]

theorem submit_of_ok {sub : Submission} (h : (d.prepare env).outcome = .ok sub) :
    s.submit env d = (.prepared sub.request :: (s.start sub).1, (s.start sub).2) := by
  simp [submit, h]

/-- A submission admits its request, or it tells one failure and leaves things as they were, or it
overruns. -/
theorem submit_cases (s : Dispatcher) (env : Environment) (d : Descriptor) :
    (∃ sub, (d.prepare env).outcome = .ok sub ∧ sub.id = d.id ∧ s.Free d.id ∧
      s.submit env d = ([.prepared sub.request], s.accept sub)) ∨
    (∃ shown f t, (d.prepare env).outcome ≠ .error .overrun ∧ (t = s ∨ t = s.skip) ∧
      (shown = [] ∨ ∃ r, shown = [.prepared r]) ∧
      s.submit env d = (shown ++ [s.tell (.ofFailure d.id f)], t)) ∨
    (d.prepare env).outcome = .error .overrun ∧ s.submit env d = ([.overran d.id], s) := by
  cases hp : (d.prepare env).outcome with
  | error halt =>
    cases halt with
    | failure f =>
      exact .inr (.inl ⟨[], f, s, by simp, .inl rfl, .inl rfl, submit_of_failure hp⟩)
    | overrun => exact .inr (.inr ⟨rfl, submit_of_overrun hp⟩)
  | ok sub =>
    have hid : sub.id = d.id := id_of_prepare hp
    rcases start_cases s sub with ⟨hfree, hstart⟩ | ⟨-, f, t, ht, hstart⟩
    · exact .inl ⟨sub, rfl, hid, hid ▸ hfree, by rw [submit_of_ok hp, hstart]⟩
    · have htell : t.tell (.ofFailure d.id f) = s.tell (.ofFailure d.id f) := by
        rcases ht with rfl | rfl <;> rfl
      refine .inr (.inl ⟨[.prepared sub.request], f, t, by simp, ht, .inr ⟨_, rfl⟩, ?_⟩)
      rw [submit_of_ok hp, hstart, hid, refuse, htell]
      rfl

theorem submit_preserves {P : Dispatcher → Prop} (skip : ∀ s, P s → P s.skip)
    (accept : ∀ s sub, sub.id = d.id → s.Free sub.id → P s → P (s.accept sub)) (h : P s) :
    P (s.submit env d).2 := by
  rcases submit_cases s env d with ⟨sub, -, hid, hfree, heq⟩ | ⟨_, _, t, -, rfl | rfl, -, heq⟩ |
    ⟨-, heq⟩
  · rw [heq]
    exact accept s sub hid (hid ▸ hfree) h
  · rwa [heq]
  · rw [heq]
    exact skip s h
  · rwa [heq]

theorem complete_of_not_mem {tag : CallTag} {o : Outcome} (h : tag ∉ s.tasks.map (·.tag)) :
    s.complete tag o = ([], s) := by
  have hany : s.tasks.any (·.tag = tag) = false := by simpa using h
  simp [complete, hany]

def dismiss (s : Dispatcher) (tag : CallTag) : Dispatcher :=
  { s with tasks := s.tasks.filter (·.tag ≠ tag) }

def release (s : Dispatcher) (id : RequestId) : Dispatcher :=
  { s with calls := s.calls.without id, active := s.active.erase id }

theorem close_of_live {tag : CallTag} (hlive : s.calls.find? tag.id = some tag) :
    s.close tag = (s.release tag.id).dismiss tag := by
  simp [close, CallTable.untag_of_find? hlive, release, dismiss, ActiveSet.remove]

theorem close_of_detached {tag : CallTag} (hlive : s.calls.find? tag.id ≠ some tag) :
    s.close tag = s.dismiss tag := by
  simp [close, CallTable.untag_of_find?_ne hlive, dismiss]

theorem complete_of_mem {tag : CallTag} (h : tag ∈ s.tasks.map (·.tag)) (o : Outcome) :
    s.complete tag o = ([(s.close tag).tell (o.event tag.id)], s.close tag) := by
  have hany : s.tasks.any (·.tag = tag) = true := by simpa using h
  simp [complete, hany]

theorem complete_of_live {tag : CallTag} {o : Outcome} (h : tag ∈ s.tasks.map (·.tag))
    (hlive : s.calls.find? tag.id = some tag) :
    s.complete tag o =
      ([((s.release tag.id).dismiss tag).tell (o.event tag.id)],
        (s.release tag.id).dismiss tag) := by
  rw [complete_of_mem h, close_of_live hlive]

theorem complete_of_detached {tag : CallTag} {o : Outcome} (h : tag ∈ s.tasks.map (·.tag))
    (hlive : s.calls.find? tag.id ≠ some tag) :
    s.complete tag o = ([(s.dismiss tag).tell (o.event tag.id)], s.dismiss tag) := by
  rw [complete_of_mem h, close_of_detached hlive]

theorem complete_preserves {P : Dispatcher → Prop} {tag : CallTag} {o : Outcome}
    (live : s.calls.find? tag.id = some tag → P ((s.release tag.id).dismiss tag))
    (detached : s.calls.find? tag.id ≠ some tag → P (s.dismiss tag)) (h : P s) :
    P (s.complete tag o).2 := by
  by_cases hmem : tag ∈ s.tasks.map (·.tag)
  · by_cases hlive : s.calls.find? tag.id = some tag
    · rw [complete_of_live hmem hlive]
      exact live hlive
    · rw [complete_of_detached hmem hlive]
      exact detached hlive
  · rwa [complete_of_not_mem hmem]

end Outbound.Dispatcher
