import Outbound.Request.Id

/-! The calls that are live. Every call has a tag of its own: the identity of its request and a
generation that no other call has. A call that is over, or was taken out, can therefore not release
a later call of the same request. -/

namespace Outbound

structure CallTag where
  id : RequestId
  generation : Nat
  deriving DecidableEq, Repr, Inhabited

/-- The calls under way, one for each identity at most, and the next generation. -/
structure CallTable where
  next : Nat := 0
  live : List CallTag := []
  deriving DecidableEq, Repr, Inhabited

namespace CallTable

def find? (t : CallTable) (id : RequestId) : Option CallTag := t.live.find? (·.id = id)

def contains (t : CallTable) (id : RequestId) : Bool := (t.find? id).isSome

def without (t : CallTable) (id : RequestId) : CallTable :=
  { t with live := t.live.filter (·.id ≠ id) }

def fresh (t : CallTable) (id : RequestId) : CallTag := ⟨id, t.next⟩

def push (t : CallTable) (id : RequestId) : CallTable := ⟨t.next + 1, t.live ++ [t.fresh id]⟩

def tag (t : CallTable) (id : RequestId) : Option (CallTag × CallTable) :=
  if t.contains id then none else some (t.fresh id, t.push id)

def untag (t : CallTable) (tag : CallTag) : Bool × CallTable :=
  if t.find? tag.id = some tag then (true, t.without tag.id) else (false, t)

def detach (t : CallTable) (id : RequestId) : Option CallTag × CallTable :=
  (t.find? id, t.without id)

def skip (t : CallTable) : CallTable := { t with next := t.next + 1 }

@[simp] theorem find?_without_self (t : CallTable) (id : RequestId) :
    (t.without id).find? id = none := by
  simp [find?, without]

theorem find?_without_of_ne (t : CallTable) {id other : RequestId} (h : other ≠ id) :
    (t.without id).find? other = t.find? other := by
  simp only [find?, without, List.find?_filter]
  congr 1
  funext a
  by_cases ha : a.id = other <;> simp_all

theorem find?_id {t : CallTable} {id : RequestId} {tag : CallTag} (h : t.find? id = some tag) :
    tag.id = id := by
  simpa using List.find?_some h

theorem contains_iff {t : CallTable} {id : RequestId} :
    t.contains id = true ↔ ∃ tag ∈ t.live, tag.id = id := by
  simp [contains, find?, List.find?_isSome]

theorem find?_eq_none_iff {t : CallTable} {id : RequestId} :
    t.find? id = none ↔ t.contains id = false := by
  simp [contains]

theorem contains_of_find? {t : CallTable} {id : RequestId} {tag : CallTag}
    (h : t.find? id = some tag) : t.contains id = true := by
  simp [contains, h]

theorem id_ne_of_mem {t : CallTable} {id : RequestId} (h : t.contains id = false) {tag : CallTag}
    (ht : tag ∈ t.live) : tag.id ≠ id := by
  rintro rfl
  rw [contains_iff.2 ⟨tag, ht, rfl⟩] at h
  cases h

@[simp] theorem mem_without {t : CallTable} {id : RequestId} {tag : CallTag} :
    tag ∈ (t.without id).live ↔ tag ∈ t.live ∧ tag.id ≠ id := by
  simp [without]

theorem without_of_not_contains {t : CallTable} {id : RequestId} (h : t.contains id = false) :
    t.without id = t := by
  have hid : ∀ tag ∈ t.live, tag.id ≠ id := by simpa [contains, find?] using h
  have hlive : t.live.filter (·.id ≠ id) = t.live := List.filter_eq_self.2 (by simpa using hid)
  rw [without, hlive]

@[simp] theorem contains_without {t : CallTable} {id other : RequestId} :
    (t.without id).contains other = true ↔ t.contains other = true ∧ other ≠ id := by
  simp only [contains_iff, mem_without]
  constructor
  · rintro ⟨tag, ⟨hmem, hne⟩, rfl⟩
    exact ⟨⟨tag, hmem, rfl⟩, hne⟩
  · rintro ⟨⟨tag, hmem, rfl⟩, hne⟩
    exact ⟨tag, ⟨hmem, hne⟩, rfl⟩

@[simp] theorem contains_push {t : CallTable} {id other : RequestId} :
    (t.push id).contains other = true ↔ t.contains other = true ∨ other = id := by
  have hlive : (t.push id).live = t.live ++ [t.fresh id] := rfl
  simp only [contains_iff, hlive, List.mem_append, List.mem_singleton]
  constructor
  · rintro ⟨tag, hmem | rfl, rfl⟩
    · exact .inl ⟨tag, hmem, rfl⟩
    · exact .inr rfl
  · rintro (⟨tag, hmem, rfl⟩ | rfl)
    · exact ⟨tag, .inl hmem, rfl⟩
    · exact ⟨t.fresh other, .inr rfl, rfl⟩

theorem tag_of_contains {t : CallTable} {id : RequestId} (h : t.contains id = true) :
    t.tag id = none := by
  simp [tag, h]

theorem tag_of_not_contains {t : CallTable} {id : RequestId} (h : t.contains id = false) :
    t.tag id = some (t.fresh id, t.push id) := by
  simp [tag, h]

theorem find?_push_self {t : CallTable} {id : RequestId} (h : t.contains id = false) :
    (t.push id).find? id = some (t.fresh id) := by
  have hnone : t.find? id = none := find?_eq_none_iff.2 h
  unfold find? at hnone ⊢
  simp [push, fresh, List.find?_append, hnone]

theorem find?_push_of_ne {t : CallTable} {id other : RequestId} (h : other ≠ id) :
    (t.push id).find? other = t.find? other := by
  simp [find?, push, fresh, List.find?_append, h.symm]

theorem untag_of_find? {t : CallTable} {tag : CallTag} (h : t.find? tag.id = some tag) :
    t.untag tag = (true, t.without tag.id) := if_pos h

theorem untag_of_find?_ne {t : CallTable} {tag : CallTag} (h : t.find? tag.id ≠ some tag) :
    t.untag tag = (false, t) := if_neg h

theorem without_push {t : CallTable} {id : RequestId} (h : t.contains id = false) :
    (t.push id).without id = t.skip := by
  have hid : ∀ tag ∈ t.live, tag.id ≠ id := fun tag ht => id_ne_of_mem h ht
  simpa [without, push, skip, fresh] using hid

theorem untag_push {t : CallTable} {id : RequestId} (h : t.contains id = false) :
    (t.push id).untag (t.fresh id) = (true, t.skip) := by
  have hfind : (t.push id).find? (t.fresh id).id = some (t.fresh id) := find?_push_self h
  rw [untag_of_find? hfind]
  exact congrArg (Prod.mk true) (without_push h)

@[simp] theorem next_without (t : CallTable) (id : RequestId) : (t.without id).next = t.next := rfl

@[simp] theorem next_untag (t : CallTable) (tag : CallTag) : (t.untag tag).2.next = t.next := by
  unfold untag
  split <;> rfl

end CallTable
end Outbound
