import Outbound.Request.Id

/-! The identities of the requests that are under way, and whether more are taken on. -/

namespace Outbound

structure ActiveSet where
  ids : List RequestId := []
  shuttingDown : Bool := false
  nodup : ids.Nodup := by exact List.nodup_nil
  deriving DecidableEq, Repr

namespace ActiveSet

instance : Inhabited ActiveSet := ⟨{}⟩

instance : Membership RequestId ActiveSet := ⟨fun s id => id ∈ s.ids⟩

instance (s : ActiveSet) (id : RequestId) : Decidable (id ∈ s) :=
  inferInstanceAs (Decidable (id ∈ s.ids))

theorem mem_def {s : ActiveSet} {id : RequestId} : id ∈ s ↔ id ∈ s.ids := Iff.rfl

def contains (s : ActiveSet) (id : RequestId) : Bool := decide (id ∈ s)

def insert (s : ActiveSet) (id : RequestId) : ActiveSet :=
  if h : id ∈ s.ids then s
  else ⟨s.ids ++ [id], s.shuttingDown, by
    rw [List.nodup_append]
    exact ⟨s.nodup, by simp, fun a ha b hb e => h (by simp_all)⟩⟩

def erase (s : ActiveSet) (id : RequestId) : ActiveSet :=
  ⟨s.ids.filter (· ≠ id), s.shuttingDown, s.nodup.filter _⟩

def add (s : ActiveSet) (id : RequestId) : Bool × ActiveSet := (!s.contains id, s.insert id)

def remove (s : ActiveSet) (id : RequestId) : Bool × ActiveSet := (s.contains id, s.erase id)

def takeAll (s : ActiveSet) : List RequestId × ActiveSet :=
  (s.ids, { shuttingDown := s.shuttingDown })

def beginShutdown (s : ActiveSet) : ActiveSet := { s with shuttingDown := true }

@[simp] theorem mem_insert {s : ActiveSet} {a id : RequestId} :
    a ∈ s.insert id ↔ a ∈ s ∨ a = id := by
  simp only [mem_def, insert]
  split
  · exact ⟨.inl, fun h => h.elim (fun h => h) (· ▸ ‹_›)⟩
  · simp

@[simp] theorem mem_erase {s : ActiveSet} {a id : RequestId} :
    a ∈ s.erase id ↔ a ∈ s ∧ a ≠ id := by
  simp [mem_def, erase]

theorem contains_iff {s : ActiveSet} {id : RequestId} : s.contains id = true ↔ id ∈ s := by
  simp [contains]

theorem contains_insert {s : ActiveSet} {a id : RequestId} :
    (s.insert id).contains a = (s.contains a || decide (a = id)) := by
  simp [contains]

theorem contains_erase {s : ActiveSet} {a id : RequestId} :
    (s.erase id).contains a = (s.contains a && decide (a ≠ id)) := by
  simp [contains]

theorem erase_of_not_mem {s : ActiveSet} {id : RequestId} (h : id ∉ s) : s.erase id = s := by
  have hne : ∀ a ∈ s.ids, a ≠ id := fun a ha e => h (e ▸ ha)
  obtain ⟨ids, shuttingDown, nodup⟩ := s
  simpa [erase] using hne

theorem erase_insert {s : ActiveSet} {id : RequestId} (h : id ∉ s) : (s.insert id).erase id = s := by
  rw [mem_def] at h
  have hne : ∀ a ∈ s.ids, a ≠ id := fun a ha e => h (e ▸ ha)
  obtain ⟨ids, shuttingDown, nodup⟩ := s
  simpa [insert, erase, h] using hne

@[simp] theorem not_mem_takeAll {s : ActiveSet} {a : RequestId} : a ∉ s.takeAll.2 := by
  simp [mem_def, takeAll]

@[simp] theorem mem_beginShutdown {s : ActiveSet} {a : RequestId} :
    a ∈ s.beginShutdown ↔ a ∈ s := Iff.rfl

@[simp] theorem shuttingDown_insert (s : ActiveSet) (id : RequestId) :
    (s.insert id).shuttingDown = s.shuttingDown := by
  unfold insert
  split <;> rfl

@[simp] theorem shuttingDown_erase (s : ActiveSet) (id : RequestId) :
    (s.erase id).shuttingDown = s.shuttingDown := rfl

@[simp] theorem shuttingDown_takeAll (s : ActiveSet) :
    s.takeAll.2.shuttingDown = s.shuttingDown := rfl

end ActiveSet
end Outbound
