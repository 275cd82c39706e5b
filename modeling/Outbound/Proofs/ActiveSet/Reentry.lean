import Mathlib.Data.Finset.Basic
import Mathlib.Data.List.Nodup
import Outbound.ActiveSet.Script

/-! An active set is a set, whatever its callbacks do to it. The roll says what that means: a set of
identities with a flag, and for every operation what it answers and how it changes the roll, with
all that its callbacks do in between. A cancelled identity is off the roll before its callback runs,
and a roll that is cancelled whole is empty before the first callback runs. -/

namespace Outbound.ActiveSet

@[ext] structure Roll where
  members : Finset RequestId
  closed : Bool

inductive Change
  | enter (id : RequestId)
  | leave (id : RequestId)
  | clear
  | close
  deriving DecidableEq, Repr

def Change.drops (id : RequestId) : Change → Bool
  | .leave other => other = id
  | .clear => true
  | _ => false

namespace Roll

def apply (r : Roll) : Change → Roll
  | .enter id => { r with members := {id} ∪ r.members }
  | .leave id => { r with members := r.members.erase id }
  | .clear => { r with members := ∅ }
  | .close => { r with closed := true }

def after (r : Roll) (changes : List Change) : Roll := changes.foldl apply r

variable {r : Roll} {id : RequestId}

@[simp] theorem after_nil (r : Roll) : r.after [] = r := rfl

@[simp] theorem after_cons (r : Roll) (c : Change) (changes : List Change) :
    r.after (c :: changes) = (r.apply c).after changes := rfl

theorem after_append (r : Roll) (changes more : List Change) :
    r.after (changes ++ more) = (r.after changes).after more := List.foldl_append

theorem mem_apply {c : Change} :
    id ∈ (r.apply c).members ↔ c = .enter id ∨ id ∈ r.members ∧ c.drops id = false := by
  cases c with
  | enter other => simp [apply, Change.drops, eq_comm]
  | leave other => simp [apply, Change.drops, and_comm, eq_comm]
  | clear => simp [apply, Change.drops]
  | close => simp [apply, Change.drops]

/-- An identity is on the roll if it was and nothing dropped it, or if it was entered and nothing
dropped it later. -/
theorem mem_after {changes : List Change} :
    id ∈ (r.after changes).members ↔
      (id ∈ r.members ∧ ∀ c ∈ changes, c.drops id = false) ∨
        ∃ before behind, changes = before ++ .enter id :: behind ∧
          ∀ c ∈ behind, c.drops id = false := by
  induction changes generalizing r with
  | nil => simp
  | cons c changes ih =>
    rw [after_cons, ih, mem_apply]
    constructor
    · rintro (⟨rfl | ⟨hin, hkept⟩, hrest⟩ | ⟨before, behind, rfl, hrest⟩)
      · exact .inr ⟨[], changes, rfl, hrest⟩
      · exact .inl ⟨hin, List.forall_mem_cons.2 ⟨hkept, hrest⟩⟩
      · exact .inr ⟨c :: before, behind, rfl, hrest⟩
    · rintro (⟨hin, hrest⟩ | ⟨before, behind, hsplit, hrest⟩)
      · obtain ⟨hkept, hrest⟩ := List.forall_mem_cons.1 hrest
        exact .inl ⟨.inr ⟨hin, hkept⟩, hrest⟩
      · cases before with
        | nil =>
          obtain ⟨rfl, rfl⟩ := List.cons.inj hsplit
          exact .inl ⟨.inl rfl, hrest⟩
        | cons first before =>
          obtain ⟨rfl, rfl⟩ := List.cons.inj hsplit
          exact .inr ⟨before, behind, rfl, hrest⟩

theorem closed_apply (h : r.closed = true) (c : Change) : (r.apply c).closed = true := by
  cases c with
  | close => rfl
  | _ => exact h

theorem closed_after (h : r.closed = true) (changes : List Change) :
    (r.after changes).closed = true := by
  induction changes generalizing r with
  | nil => exact h
  | cons c changes ih => exact ih (closed_apply h c)

end Roll

mutual

/-- What an operation on a roll makes of it, change by change, and what is seen of it. -/
inductive Runs : Roll → Action → List Change → List Event → Prop
  | add (r : Roll) (id : RequestId) :
    Runs r (.add id) [.enter id] [.returned (.flag (decide (id ∉ r.members)))]
  | remove (r : Roll) (id : RequestId) :
    Runs r (.remove id) [.leave id] [.returned (.flag (decide (id ∈ r.members)))]
  | contains (r : Roll) (id : RequestId) :
    Runs r (.contains id) [] [.returned (.flag (decide (id ∈ r.members)))]
  | beginShutdown (r : Roll) : Runs r .beginShutdown [.close] [.returned .done]
  | cancel {r : Roll} {id : RequestId} {callback : List Action} {changes : List Change}
      {events : List Event} (h : id ∈ r.members)
      (hback : RunsAll (r.apply (.leave id)) callback changes events) :
    Runs r (.cancel id callback) (.leave id :: changes)
      (.called id false :: events ++
        [.finished id (decide (id ∈ ((r.apply (.leave id)).after changes).members)),
          .returned (.flag true)])
  | cancelNone {r : Roll} {id : RequestId} (h : id ∉ r.members) (callback : List Action) :
    Runs r (.cancel id callback) [] [.returned (.flag false)]
  | cancelAll {r : Roll} {callback : RequestId → List Action} {taken : List RequestId}
      {changes : List Change} {events : List Event} (order : Enumeration) (hnodup : taken.Nodup)
      (htaken : ∀ id, id ∈ taken ↔ id ∈ r.members)
      (hhands : Hands (r.apply .clear) callback taken changes events) :
    Runs r (.cancelAll callback order) (.clear :: changes)
      (events ++ [.returned (.taken taken)])

inductive RunsAll : Roll → List Action → List Change → List Event → Prop
  | nil (r : Roll) : RunsAll r [] [] []
  | cons {r : Roll} {a : Action} {as : List Action} {changes more : List Change}
      {events rest : List Event} (ha : Runs r a changes events)
      (has : RunsAll (r.after changes) as more rest) :
    RunsAll r (a :: as) (changes ++ more) (events ++ rest)

/-- Identities are handed to a callback one after the other, each when the last call is over. -/
inductive Hands : Roll → (RequestId → List Action) → List RequestId → List Change →
    List Event → Prop
  | nil (r : Roll) (callback : RequestId → List Action) : Hands r callback [] [] []
  | cons {r : Roll} {callback : RequestId → List Action} {id : RequestId} {ids : List RequestId}
      {changes more : List Change} {events rest : List Event}
      (hback : RunsAll r (callback id) changes events)
      (hids : Hands (r.after changes) callback ids more rest) :
    Hands r callback (id :: ids) (changes ++ more)
      (.called id (decide (id ∈ r.members)) :: events ++
        .finished id (decide (id ∈ (r.after changes).members)) :: rest)

end

variable {s : ActiveSet} {id : RequestId}

def roll (s : ActiveSet) : Roll := ⟨s.ids.toFinset, s.shuttingDown⟩

theorem mem_roll : id ∈ s.roll.members ↔ id ∈ s := List.mem_toFinset

theorem contains_eq : s.contains id = decide (id ∈ s.roll.members) :=
  decide_eq_decide.2 mem_roll.symm

theorem roll_insert (s : ActiveSet) (id : RequestId) :
    (s.insert id).roll = s.roll.apply (.enter id) := by
  refine Roll.ext (Finset.ext fun other => ?_) (shuttingDown_insert s id)
  rw [mem_roll, mem_insert, Roll.apply, Finset.mem_union, Finset.mem_singleton, mem_roll, or_comm]

theorem roll_erase (s : ActiveSet) (id : RequestId) :
    (s.erase id).roll = s.roll.apply (.leave id) := by
  refine Roll.ext (Finset.ext fun other => ?_) rfl
  rw [mem_roll, mem_erase, Roll.apply, Finset.mem_erase, mem_roll, and_comm]

theorem roll_takeAll (s : ActiveSet) : s.takeAll.2.roll = s.roll.apply .clear := rfl

theorem roll_beginShutdown (s : ActiveSet) : s.beginShutdown.roll = s.roll.apply .close := rfl

def hand (callback : RequestId → List Action) (seen : List Event × ActiveSet) (id : RequestId) :
    List Event × ActiveSet :=
  let back := performAll seen.2 (callback id)
  (seen.1 ++ .called id (seen.2.contains id) :: back.1 ++ [.finished id (back.2.contains id)],
    back.2)

theorem perform_cancelAll (s : ActiveSet) (callback : RequestId → List Action)
    (order : Enumeration) :
    perform s (.cancelAll callback order) =
      let told := (order.list s.ids).foldl (hand callback) ([], s.takeAll.2)
      (told.1 ++ [.returned (.taken (order.list s.ids))], told.2) := by
  rw [perform]
  rfl

theorem perform_cancel_of_mem (h : id ∈ s) (callback : List Action) :
    perform s (.cancel id callback) =
      let back := performAll (s.erase id) callback
      (.called id false :: back.1 ++
        [.finished id (back.2.contains id), .returned (.flag true)], back.2) := by
  have hgone : (s.erase id).contains id = false := by simp [contains]
  simp [perform, remove, contains_iff.2 h, hgone]

theorem perform_cancel_of_not_mem (h : id ∉ s) (callback : List Action) :
    perform s (.cancel id callback) = ([.returned (.flag false)], s) := by
  have hout : s.contains id = false := by simp [contains, h]
  simp [perform, remove, hout, erase_of_not_mem h]

/-- A script of operations does to the active set what it does to its roll. -/
def Follows (s : ActiveSet) (as : List Action) : Prop :=
  ∃ changes, RunsAll s.roll as changes (performAll s as).1 ∧
    (performAll s as).2.roll = s.roll.after changes

theorem exists_hands {callback : RequestId → List Action}
    (h : ∀ id s, Follows s (callback id)) (ids : List RequestId) (seen : List Event)
    (s : ActiveSet) :
    ∃ changes events, Hands s.roll callback ids changes events ∧
      (ids.foldl (hand callback) (seen, s)).1 = seen ++ events ∧
      (ids.foldl (hand callback) (seen, s)).2.roll = s.roll.after changes := by
  induction ids generalizing seen s with
  | nil => exact ⟨[], [], .nil _ _, by simp, rfl⟩
  | cons id ids ih =>
    obtain ⟨changes, hruns, hroll⟩ := h id s
    obtain ⟨more, rest, hhands, hseen, hafter⟩ :=
      ih (hand callback (seen, s) id).1 (performAll s (callback id)).2
    rw [hroll] at hhands hafter
    refine ⟨changes ++ more, _, .cons hruns hhands, ?_, ?_⟩
    · rw [List.foldl_cons]
      refine hseen.trans ?_
      simp [hand, contains_eq, hroll]
    · rw [Roll.after_append]
      exact hafter

theorem exists_cancelAll {callback : RequestId → List Action}
    (h : ∀ id s, Follows s (callback id)) (s : ActiveSet) (order : Enumeration) :
    ∃ taken changes events, taken.Nodup ∧ (∀ id, id ∈ taken ↔ id ∈ s) ∧
      Hands (s.roll.apply .clear) callback taken changes events ∧
      (perform s (.cancelAll callback order)).1 = events ++ [.returned (.taken taken)] ∧
      (perform s (.cancelAll callback order)).2.roll = (s.roll.apply .clear).after changes := by
  have hperm := order.perm s.ids
  obtain ⟨changes, events, hhands, hseen, hafter⟩ :=
    exists_hands h (order.list s.ids) [] s.takeAll.2
  rw [roll_takeAll] at hhands hafter
  rw [perform_cancelAll]
  refine ⟨order.list s.ids, changes, events, hperm.nodup_iff.2 s.nodup,
    fun id => hperm.mem_iff, hhands, ?_, hafter⟩
  exact congrArg (· ++ [Event.returned (.taken (order.list s.ids))]) hseen

mutual

theorem perform_follows : ∀ (a : Action) (s : ActiveSet),
    ∃ changes, Runs s.roll a changes (perform s a).1 ∧
      (perform s a).2.roll = s.roll.after changes
  | .add id, s => by
    refine ⟨[.enter id], ?_, roll_insert s id⟩
    have hnew : (!s.contains id) = decide (id ∉ s.roll.members) := by
      rw [contains_eq, decide_not]
    simp only [perform, add, hnew]
    exact .add s.roll id
  | .remove id, s => by
    refine ⟨[.leave id], ?_, roll_erase s id⟩
    simp only [perform, remove, contains_eq]
    exact .remove s.roll id
  | .contains id, s => by
    refine ⟨[], ?_, rfl⟩
    simp only [perform, contains_eq]
    exact .contains s.roll id
  | .beginShutdown, s => ⟨[.close], .beginShutdown s.roll, roll_beginShutdown s⟩
  | .cancel id callback, s => by
    by_cases h : id ∈ s
    · obtain ⟨changes, hruns, hroll⟩ := performAll_follows callback (s.erase id)
      rw [perform_cancel_of_mem h]
      rw [roll_erase] at hruns hroll
      refine ⟨.leave id :: changes, ?_, hroll⟩
      simp only [contains_eq, hroll]
      exact .cancel (mem_roll.2 h) hruns
    · rw [perform_cancel_of_not_mem h]
      exact ⟨[], .cancelNone (mt mem_roll.1 h) callback, rfl⟩
  | .cancelAll callback order, s => by
    obtain ⟨taken, changes, events, hnodup, htaken, hhands, hseen, hafter⟩ :=
      exists_cancelAll (fun id s => performAll_follows (callback id) s) s order
    rw [hseen]
    exact ⟨.clear :: changes,
      .cancelAll order hnodup (fun id => (htaken id).trans mem_roll.symm) hhands, hafter⟩

theorem performAll_follows : ∀ (as : List Action) (s : ActiveSet), Follows s as
  | [], s => ⟨[], .nil s.roll, rfl⟩
  | a :: as, s => by
    obtain ⟨changes, hruns, hroll⟩ := perform_follows a s
    obtain ⟨more, hrest, hafter⟩ := performAll_follows as (perform s a).2
    rw [hroll] at hrest hafter
    refine ⟨changes ++ more, ?_, ?_⟩
    · rw [performAll]
      exact .cons hruns hrest
    · rw [performAll, Roll.after_append]
      exact hafter

end

/-- Whatever callbacks do: operations answer and change the active set as they do its roll, and the
flag, once it is set, is set at every later moment. An operation that cancels all hands each
identity that was active when it began to its callback once and no other, and returns just these;
and active after it are the identities that a callback has put in and none has taken out since. -/
theorem script_refines_roll (s : ActiveSet) :
    (∀ script, ∃ changes, RunsAll s.roll script changes (performAll s script).1 ∧
      (performAll s script).2.roll = s.roll.after changes ∧
      ∀ before between behind, changes = before ++ between ++ behind →
        (s.roll.after before).closed = true →
          (s.roll.after (before ++ between)).closed = true) ∧
    ∀ callback order, ∃ taken changes events,
      taken.Nodup ∧ (∀ id, id ∈ taken ↔ id ∈ s) ∧
      Hands (s.roll.apply .clear) callback taken changes events ∧
      (perform s (.cancelAll callback order)).1 = events ++ [.returned (.taken taken)] ∧
      ∀ id, id ∈ (perform s (.cancelAll callback order)).2 ↔
        ∃ before behind, changes = before ++ .enter id :: behind ∧
          ∀ c ∈ behind, c.drops id = false := by
  constructor
  · intro script
    obtain ⟨changes, hruns, hroll⟩ := performAll_follows script s
    refine ⟨changes, hruns, hroll, fun before between _ _ hclosed => ?_⟩
    rw [Roll.after_append]
    exact Roll.closed_after hclosed between
  · intro callback order
    obtain ⟨taken, changes, events, hnodup, htaken, hhands, hseen, hafter⟩ :=
      exists_cancelAll (fun id => performAll_follows (callback id)) s order
    refine ⟨taken, changes, events, hnodup, htaken, hhands, hseen, fun id => ?_⟩
    have hempty : id ∉ (s.roll.apply .clear).members := Finset.notMem_empty id
    rw [← mem_roll, hafter, Roll.mem_after, or_iff_right fun h => hempty h.1]

end Outbound.ActiveSet
