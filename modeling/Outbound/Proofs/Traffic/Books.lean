import Outbound.Proofs.Traffic.Operations

/-! An account of an identity over both tables. A call that is entering has its entry in the call
table already, one that is leaving has it in the active set still, and one that is to be detached
has it in the call table still. What an operation moves is all about its own phase, so the account
balances as long as every operation takes effect; each one that does not is a gap for good. -/

namespace Outbound

namespace Phase

def isRunning : Phase → Bool
  | .running _ => true
  | _ => false

/-- Whether a call of the identity is in the call table without being registered. -/
@[simp] def enters (id : RequestId) : Phase → Bool
  | .registering tag | .withdrawing tag => id = tag.id
  | _ => false

@[simp] def withdraws (id : RequestId) : Phase → Bool
  | .withdrawing tag => id = tag.id
  | _ => false

@[simp] def leaves (id : RequestId) : Phase → Bool
  | .unregistering tag => id = tag.id
  | _ => false

@[simp] def detaches (id : RequestId) : Phase → Bool
  | .detaching other => id = other
  | _ => false

end Phase

namespace CallTable

variable {t : CallTable} {id other : RequestId}

theorem contains_without_eq :
    (t.without id).contains other = (t.contains other && decide (other ≠ id)) := by
  rw [Bool.eq_iff_iff, contains_without]
  simp

theorem contains_push_eq :
    (t.push id).contains other = (t.contains other || decide (other = id)) := by
  rw [Bool.eq_iff_iff, contains_push]
  simp

end CallTable

namespace Traffic

open Phase

variable {s t : Traffic} {p : Phase} {id : RequestId} {notes : List (Phase × Bool)}

def entering (s : Traffic) (id : RequestId) : Nat := s.phases.countP (enters id)

def leaving (s : Traffic) (id : RequestId) : Nat := s.phases.countP (leaves id)

def detaching (s : Traffic) (id : RequestId) : Nat := s.phases.countP (detaches id)

def debit (s : Traffic) (id : RequestId) : Nat :=
  (s.active.contains id).toNat + s.entering id + s.detaching id

def credit (s : Traffic) (id : RequestId) : Nat :=
  (s.calls.contains id).toNat + s.leaving id

def missed (kind : Phase → Bool) (notes : List (Phase × Bool)) : Nat :=
  notes.countP fun n => kind n.1 && !n.2

/-- What moves on the two sides from one moment to another, with what was missed meanwhile. -/
def Balances (s t : Traffic) (notes : List (Phase × Bool)) (id : RequestId) : Prop :=
  t.debit id + missed (withdraws id) notes + missed (detaches id) notes + s.credit id =
    t.credit id + missed (leaves id) notes + s.debit id

@[simp] theorem missed_nil (kind : Phase → Bool) : missed kind [] = 0 := rfl

@[simp] theorem missed_singleton (kind : Phase → Bool) (p : Phase) (ok : Bool) :
    missed kind [(p, ok)] = (kind p && !ok).toNat := by
  simp only [missed, List.countP_singleton]
  cases kind p && !ok <;> rfl

theorem missed_append (kind : Phase → Bool) (notes more : List (Phase × Bool)) :
    missed kind (notes ++ more) = missed kind notes + missed kind more := List.countP_append

theorem countP_phases (hp : p ∈ s.phases) (kind : Phase → Bool) :
    s.phases.countP kind = (s.phases.erase p).countP kind + (kind p).toNat := by
  rw [(List.perm_cons_erase hp).countP_eq, List.countP_cons]
  cases kind p <;> rfl

theorem Balances.nil (s : Traffic) (id : RequestId) : Balances s s [] id := Nat.add_comm _ _

theorem Balances.trans {u : Traffic} {more : List (Phase × Bool)} (h : Balances s t notes id)
    (h' : Balances t u more id) : Balances s u (notes ++ more) id := by
  simp only [Balances, missed_append] at h h' ⊢
  omega

theorem balances_of_advance {ok : Bool} {active : ActiveSet} {calls : CallTable}
    {next : List Phase} (hp : p ∈ s.phases)
    (h : s.advance p = (ok, ⟨active, calls, next ++ s.phases.erase p⟩))
    (hown : (active.contains id).toNat + next.countP (enters id) + next.countP (detaches id) +
        missed (withdraws id) [(p, ok)] + missed (detaches id) [(p, ok)] +
        ((s.calls.contains id).toNat + (leaves id p).toNat) =
      (calls.contains id).toNat + next.countP (leaves id) + missed (leaves id) [(p, ok)] +
        ((s.active.contains id).toNat + (enters id p).toNat + (detaches id p).toNat)) :
    Balances s (s.advance p).2 [(p, (s.advance p).1)] id := by
  have henters := countP_phases hp (enters id)
  have hleaves := countP_phases hp (leaves id)
  have hdetaches := countP_phases hp (detaches id)
  simp only [Balances, h, debit, credit, entering, leaving, detaching, henters, hleaves, hdetaches,
    List.countP_append]
  omega

theorem balances_advance (hp : p ∈ s.phases) (id : RequestId) :
    Balances s (s.advance p).2 [(p, (s.advance p).1)] id := by
  cases p with
  | registering tag =>
    cases hin : s.active.contains tag.id with
    | false =>
      refine balances_of_advance hp (advance_registering_of_free hin) ?_
      by_cases h : id = tag.id <;> simp [ActiveSet.contains_insert, h, hin, Nat.add_comm]
    | true =>
      refine balances_of_advance hp (advance_registering_of_taken hin) ?_
      by_cases h : id = tag.id <;> simp [h, Nat.add_comm]
  | withdrawing tag =>
    by_cases hlive : s.calls.find? tag.id = some tag
    · have hin : s.calls.contains tag.id = true := CallTable.contains_of_find? hlive
      refine balances_of_advance hp (advance_withdrawing_of_find? hlive) ?_
      by_cases h : id = tag.id <;> simp [CallTable.contains_without_eq, h, hin, Nat.add_comm]
    · refine balances_of_advance hp (advance_withdrawing_of_find?_ne hlive) ?_
      by_cases h : id = tag.id <;> simp [h, Nat.add_comm]
  | running tag =>
    by_cases hlive : s.calls.find? tag.id = some tag
    · have hin : s.calls.contains tag.id = true := CallTable.contains_of_find? hlive
      refine balances_of_advance hp (advance_running_of_find? hlive) ?_
      by_cases h : id = tag.id <;> simp [CallTable.contains_without_eq, h, hin, Nat.add_comm]
    · refine balances_of_advance hp (advance_running_of_find?_ne hlive) ?_
      simp [Nat.add_comm]
  | unregistering tag =>
    refine balances_of_advance hp (advance_unregistering s tag) ?_
    by_cases h : id = tag.id
    · subst h
      cases hin : s.active.contains tag.id <;> simp [ActiveSet.contains_erase, Nat.add_comm]
    · simp [ActiveSet.contains_erase, h, Nat.add_comm]
  | detaching other =>
    refine balances_of_advance hp (advance_detaching s other) ?_
    by_cases h : id = other
    · subst h
      cases hin : s.calls.contains id <;> simp [CallTable.contains_without_eq, Nat.add_comm]
    · simp [CallTable.contains_without_eq, h, Nat.add_comm]

theorem balances_perform (s : Traffic) (m : Move) (id : RequestId) :
    Balances s (s.perform m).2 (s.perform m).1 id := by
  cases m with
  | dispatch other =>
    cases hcalled : s.calls.contains other with
    | true =>
      rw [perform_dispatch_of_contains hcalled]
      exact .nil s id
    | false =>
      rw [perform_dispatch_of_free hcalled]
      simp only [Balances, debit, credit, entering, leaving, detaching, CallTable.contains_push_eq]
      by_cases h : id = other <;> simp [CallTable.fresh, h, hcalled] <;> omega
  | abort other =>
    cases hin : s.active.contains other with
    | true =>
      rw [perform_abort_of_contains hin]
      simp only [Balances, debit, credit, entering, leaving, detaching, ActiveSet.contains_erase]
      by_cases h : id = other <;> simp [h, hin] <;> omega
    | false =>
      rw [perform_abort_of_not_contains hin]
      exact .nil s id
  | advance p =>
    by_cases hp : p ∈ s.phases
    · rw [perform_advance_of_mem hp]
      exact balances_advance hp id
    · rw [perform_advance_of_not_mem hp]
      exact .nil s id

theorem balances_performAll (s : Traffic) (ms : List Move) (id : RequestId) :
    Balances s (s.performAll ms).2 (s.performAll ms).1 id := by
  induction ms generalizing s with
  | nil => exact .nil s id
  | cons m ms ih => exact (balances_perform s m id).trans (ih (s.perform m).2)

theorem Balances.eq (h : Balances s t notes id) (hwithdraws : missed (withdraws id) notes = 0)
    (hleaves : missed (leaves id) notes = 0) (hdetaches : missed (detaches id) notes = 0)
    (hs : s.debit id = s.credit id) : t.debit id = t.credit id := by
  unfold Balances at h
  omega

def AtRest (s : Traffic) : Prop := ∀ p ∈ s.phases, p.isRunning = true

instance (s : Traffic) : Decidable s.AtRest :=
  inferInstanceAs (Decidable (∀ p ∈ s.phases, p.isRunning = true))

theorem AtRest.countP_eq_zero (h : s.AtRest) {kind : Phase → Bool}
    (hkind : ∀ tag, kind (.running tag) = false) : s.phases.countP kind = 0 := by
  refine List.countP_eq_zero.2 fun p hp hp' => ?_
  cases p with
  | running tag => simp [hkind] at hp'
  | _ => cases h _ hp

theorem AtRest.debit_eq (h : s.AtRest) (id : RequestId) :
    s.debit id = (s.active.contains id).toNat := by
  have hentering : s.entering id = 0 := h.countP_eq_zero fun _ => rfl
  have hdetaching : s.detaching id = 0 := h.countP_eq_zero fun _ => rfl
  simp [debit, hentering, hdetaching]

theorem AtRest.credit_eq (h : s.AtRest) (id : RequestId) :
    s.credit id = (s.calls.contains id).toNat := by
  have hleaving : s.leaving id = 0 := h.countP_eq_zero fun _ => rfl
  simp [credit, hleaving]

theorem toNat_inj {a b : Bool} : a.toNat = b.toNat ↔ a = b := by
  cases a <;> cases b <;> decide

/-- At rest the tables agree about an identity if as many completions found nothing to take out of
the active set as withdrawals and aborts found nothing to take out of the call table. -/
theorem AtRest.agree_iff (h : s.AtRest) (hb : Balances {} s notes id) :
    s.active.contains id = s.calls.contains id ↔
      missed (leaves id) notes = missed (withdraws id) notes + missed (detaches id) notes := by
  rw [Balances, h.debit_eq, h.credit_eq] at hb
  have hnew : debit {} id = credit {} id := rfl
  rw [← toNat_inj]
  omega

end Traffic
end Outbound
