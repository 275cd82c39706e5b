import Outbound.Signal.SlotMap

/-! Lookup in a map that chooses its own keys. A position is filled again under a later version, so
no key is given out twice. -/

namespace Outbound.SlotMap

variable {α : Type} {m : SlotMap α} {a : α} {key other : SlotKey} {i version : Nat}

structure Sound (m : SlotMap α) : Prop where
  nodup : m.free.Nodup
  vacant : ∀ i ∈ m.free, ∃ version, m.cells[i]? = some (version, none)

theorem get?_eq_some_iff :
    m.get? key = some a ↔ m.cells[key.index]? = some (key.version, some a) := by
  unfold get?
  cases hcell : m.cells[key.index]? with
  | none => simp
  | some cell =>
    obtain ⟨version, content⟩ := cell
    by_cases h : version = key.version <;> simp [h]

theorem get?_of_vacant (h : m.cells[key.index]? = some (version, none)) : m.get? key = none := by
  simp [get?, h]

theorem version_of_getElem? {content : Option α} (h : m.cells[i]? = some (version, content)) :
    m.version i = version := by
  simp [SlotMap.version, h]

theorem insert_of_free {free : List Nat} (hfree : m.free = i :: free) :
    m.insert a = (⟨i, m.version i + 1⟩, ⟨m.cells.set i (m.version i + 1, some a), free⟩) := by
  simp [insert, hfree]

theorem insert_of_full (hfree : m.free = []) :
    m.insert a = (⟨m.cells.length, 0⟩, ⟨m.cells ++ [(0, some a)], []⟩) := by
  simp [insert, hfree]

theorem index_insert (m : SlotMap α) (a : α) :
    (m.insert a).1.index = m.free.headD m.cells.length := by
  cases hfree : m.free with
  | nil => rw [insert_of_full hfree]; rfl
  | cons i free => rw [insert_of_free hfree]; rfl

theorem Sound.insert (hm : m.Sound) (a : α) : (m.insert a).2.Sound := by
  cases hfree : m.free with
  | nil => rw [insert_of_full hfree]; exact ⟨.nil, by simp⟩
  | cons i free =>
    rw [insert_of_free hfree]
    have hnodup : (i :: free).Nodup := hfree ▸ hm.nodup
    refine ⟨hnodup.of_cons, fun j hj => ?_⟩
    obtain ⟨version, hcell⟩ := hm.vacant j (hfree ▸ List.mem_cons_of_mem _ hj)
    have hne : i ≠ j := fun e => (List.nodup_cons.1 hnodup).1 (e ▸ hj)
    exact ⟨version, (List.getElem?_set_ne hne).trans hcell⟩

theorem get?_congr {n : SlotMap α} (h : m.cells[key.index]? = n.cells[key.index]?) :
    m.get? key = n.get? key := by
  simp only [get?, h]

theorem get?_of_length_le (h : m.cells.length ≤ key.index) : m.get? key = none := by
  simp [get?, List.getElem?_eq_none h]

theorem get?_insert (hm : m.Sound) (a : α) (key : SlotKey) :
    (m.insert a).2.get? key = if key = (m.insert a).1 then some a else m.get? key := by
  obtain ⟨index, version⟩ := key
  cases hfree : m.free with
  | nil =>
    rw [insert_of_full hfree]
    rcases Nat.lt_trichotomy index m.cells.length with h | rfl | h
    · rw [if_neg fun e => Nat.ne_of_lt h (SlotKey.mk.inj e).1]
      exact get?_congr (List.getElem?_append_left h)
    · rw [get?_of_length_le (m := m) (Nat.le_refl _)]
      simp [get?, eq_comm]
    · rw [if_neg fun e => Nat.ne_of_gt h (SlotKey.mk.inj e).1,
        get?_of_length_le (m := m) (Nat.le_of_lt h)]
      exact get?_of_length_le (by simpa using Nat.succ_le_of_lt h)
  | cons i free =>
    obtain ⟨before, hcell⟩ := hm.vacant i (by simp [hfree])
    have hlt : i < m.cells.length := (List.getElem?_eq_some_iff.1 hcell).1
    rw [insert_of_free hfree]
    by_cases h : index = i
    · subst h
      rw [get?_of_vacant (m := m) hcell]
      simp [get?, List.getElem?_set_self hlt, eq_comm]
    · rw [if_neg fun e => h (SlotKey.mk.inj e).1]
      exact get?_congr (List.getElem?_set_ne fun e => h e.symm)

theorem erase_of_none (h : m.get? key = none) : m.erase key = (none, m) := by
  simp [erase, h]

theorem erase_of_some (h : m.get? key = some a) :
    m.erase key =
      (some a, ⟨m.cells.set key.index (key.version, none), key.index :: m.free⟩) := by
  simp [erase, h]

theorem get?_erase (m : SlotMap α) (key other : SlotKey) :
    (m.erase key).2.get? other = if other = key then none else m.get? other := by
  cases h : m.get? key with
  | none =>
    rw [erase_of_none h]
    split
    · rwa [‹other = key›]
    · rfl
  | some a =>
    have hcell := get?_eq_some_iff.1 h
    have hlt : key.index < m.cells.length := (List.getElem?_eq_some_iff.1 hcell).1
    rw [erase_of_some h]
    obtain ⟨index, version⟩ := other
    by_cases hindex : index = key.index
    · subst hindex
      rw [get?_of_vacant (List.getElem?_set_self hlt)]
      -- another version of a position that has content finds nothing
      by_cases hversion : key.version = version
      · simp [← hversion]
      · simp [get?, hcell, hversion]
    · rw [if_neg fun e => hindex (congrArg SlotKey.index e)]
      exact get?_congr (List.getElem?_set_ne fun e => hindex e.symm)

theorem Sound.erase (hm : m.Sound) (key : SlotKey) : (m.erase key).2.Sound := by
  cases h : m.get? key with
  | none => rwa [erase_of_none h]
  | some a =>
    have hcell := get?_eq_some_iff.1 h
    have hlt : key.index < m.cells.length := (List.getElem?_eq_some_iff.1 hcell).1
    have hfilled : key.index ∉ m.free := fun hmem => by
      obtain ⟨version, hvacant⟩ := hm.vacant _ hmem
      simp [hcell] at hvacant
    rw [erase_of_some h]
    refine ⟨List.nodup_cons.2 ⟨hfilled, hm.nodup⟩, List.forall_mem_cons.2
      ⟨⟨_, List.getElem?_set_self hlt⟩, fun i hi => ?_⟩⟩
    obtain ⟨version, hvacant⟩ := hm.vacant i hi
    have hne : key.index ≠ i := fun e => hfilled (e ▸ hi)
    exact ⟨version, (List.getElem?_set_ne hne).trans hvacant⟩

/-- Whether a key has been given out: its version is not above that of its position. -/
def Issued (m : SlotMap α) (key : SlotKey) : Prop :=
  key.index < m.cells.length ∧ key.version ≤ m.version key.index

theorem issued_of_get? (h : m.get? key = some a) : m.Issued key := by
  have hcell := get?_eq_some_iff.1 h
  exact ⟨(List.getElem?_eq_some_iff.1 hcell).1, Nat.le_of_eq (version_of_getElem? hcell).symm⟩

theorem not_issued_insert (m : SlotMap α) (a : α) : ¬ m.Issued (m.insert a).1 := by
  cases hfree : m.free with
  | nil =>
    rw [insert_of_full hfree]
    exact fun h => Nat.lt_irrefl _ h.1
  | cons i free =>
    rw [insert_of_free hfree]
    exact fun h => Nat.not_succ_le_self _ h.2

theorem version_set_ge {cell : Nat × Option α} (h : m.version i ≤ cell.1) (j : Nat) :
    m.version j ≤ SlotMap.version ⟨m.cells.set i cell, m.free⟩ j := by
  by_cases hij : i = j
  · subst hij
    by_cases hlt : i < m.cells.length
    · simpa [SlotMap.version, List.getElem?_set_self hlt] using h
    · simp [SlotMap.version, List.getElem?_eq_none (Nat.le_of_not_lt hlt)]
  · simp [SlotMap.version, List.getElem?_set_ne hij]

theorem Issued.insert (h : m.Issued key) (a : α) : (m.insert a).2.Issued key := by
  cases hfree : m.free with
  | nil =>
    rw [insert_of_full hfree]
    refine ⟨by simpa using Nat.lt_succ_of_lt h.1, Nat.le_trans h.2 (Nat.le_of_eq ?_)⟩
    simp [SlotMap.version, List.getElem?_append_left h.1]
  | cons i free =>
    rw [insert_of_free hfree]
    exact ⟨by simpa using h.1, Nat.le_trans h.2 (version_set_ge (Nat.le_succ _) _)⟩

theorem Issued.erase (h : m.Issued key) (other : SlotKey) : (m.erase other).2.Issued key := by
  cases hother : m.get? other with
  | none => rwa [erase_of_none hother]
  | some a =>
    have hversion := version_of_getElem? (get?_eq_some_iff.1 hother)
    rw [erase_of_some hother]
    exact ⟨by simpa using h.1, Nat.le_trans h.2 (version_set_ge (Nat.le_of_eq hversion) _)⟩

theorem mem_entries_iff : (key, a) ∈ m.entries ↔ m.get? key = some a := by
  obtain ⟨index, version⟩ := key
  rw [get?_eq_some_iff, entries, List.mem_filterMap]
  constructor
  · rintro ⟨⟨⟨version, content⟩, i⟩, hmem, heq⟩
    obtain ⟨b, rfl, hb⟩ := Option.map_eq_some_iff.1 heq
    cases hb
    simpa using List.mk_mem_zipIdx_iff_getElem?.1 hmem
  · intro h
    exact ⟨((version, some a), index), List.mk_mem_zipIdx_iff_getElem?.2 h, rfl⟩

theorem pairwise_entries (m : SlotMap α) :
    m.entries.Pairwise fun p q => p.1.index < q.1.index := by
  have hindex : m.cells.zipIdx.Pairwise fun p q => p.2 < q.2 := by
    rw [← List.pairwise_map, List.zipIdx_map_snd]
    exact List.pairwise_lt_range'
  refine List.pairwise_filterMap.2 (hindex.imp fun {p q} hlt b hb c hc => ?_)
  obtain ⟨_, -, rfl⟩ := Option.map_eq_some_iff.1 hb
  obtain ⟨_, -, rfl⟩ := Option.map_eq_some_iff.1 hc
  exact hlt

end Outbound.SlotMap
