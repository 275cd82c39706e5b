import Mathlib.Data.List.Nodup
import Outbound.Proofs.Signal.Keys
import Outbound.Signal.Basic

/-! The connections of a signal in the order in which they were made. The signal holds the same ones
in the order of their positions, and a position that was freed is taken by the next connection. -/

namespace Outbound.Signal

variable {α : Type}

def Ascending (l : List (SlotKey × α)) : Prop := l.Pairwise fun c d => c.1.index < d.1.index

theorem Ascending.nodup {l : List (SlotKey × α)} (h : Ascending l) : l.Nodup := by
  refine List.Pairwise.imp_of_mem (fun {c d} _ _ hlt heq => ?_) h
  exact Nat.lt_irrefl _ (heq ▸ hlt)

theorem ascending_snapshot (s : Signal α) : Ascending s.snapshot := SlotMap.pairwise_entries s

inductive Change (α : Type)
  | connect (slot : α)
  | disconnect (key : SlotKey)
  deriving DecidableEq, Repr

/-- A signal beside its connections, the oldest first. -/
structure History (α : Type) where
  signal : Signal α := {}
  roster : List (SlotKey × α) := []
  deriving DecidableEq, Repr

namespace History

def apply (h : History α) : Change α → History α
  | .connect slot => ⟨(h.signal.connect slot).2, h.roster ++ [((h.signal.connect slot).1, slot)]⟩
  | .disconnect key => ⟨(h.signal.disconnect key).2, h.roster.filter (·.1 ≠ key)⟩

def run (h : History α) (changes : List (Change α)) : History α := changes.foldl apply h

def ofChanges (changes : List (Change α)) : History α := run {} changes

variable {h : History α} {key : SlotKey} {slot : α}

theorem run_append (h : History α) (changes more : List (Change α)) :
    h.run (changes ++ more) = (h.run changes).run more := List.foldl_append

theorem ofChanges_append (changes more : List (Change α)) :
    ofChanges (changes ++ more) = (ofChanges changes).run more := run_append _ _ _

structure Kept (h : History α) : Prop where
  sound : h.signal.Sound
  nodup : (h.roster.map (·.1)).Nodup
  mem_iff : ∀ key slot, (key, slot) ∈ h.roster ↔ h.signal.get? key = some slot

namespace Kept

theorem new : Kept ({} : History α) :=
  ⟨⟨.nil, by simp⟩, .nil, by simp [SlotMap.get?]⟩

theorem issued (hk : h.Kept) (hkey : key ∈ h.roster.map (·.1)) : h.signal.Issued key := by
  obtain ⟨⟨key, slot⟩, hmem, rfl⟩ := List.mem_map.1 hkey
  exact SlotMap.issued_of_get? ((hk.mem_iff key slot).1 hmem)

theorem connect_not_mem (hk : h.Kept) (slot : α) :
    (h.signal.connect slot).1 ∉ h.roster.map (·.1) := fun hmem =>
  SlotMap.not_issued_insert h.signal slot (hk.issued hmem)

theorem connect (hk : h.Kept) (slot : α) : (h.apply (.connect slot)).Kept where
  sound := hk.sound.insert slot
  nodup := by
    simp only [apply, List.map_append, List.map_cons, List.map_nil]
    refine List.nodup_append.2 ⟨hk.nodup, List.nodup_singleton _, fun a ha b hb hab => ?_⟩
    exact hk.connect_not_mem slot (List.mem_singleton.1 hb ▸ hab ▸ ha)
  mem_iff key other := by
    have hget : (h.signal.connect slot).2.get? key =
        if key = (h.signal.connect slot).1 then some slot else h.signal.get? key :=
      SlotMap.get?_insert hk.sound slot key
    rw [apply, hget, List.mem_append, hk.mem_iff, List.mem_singleton]
    by_cases hkey : key = (h.signal.connect slot).1
    · have hnone : h.signal.get? key ≠ some other := fun hsome =>
        SlotMap.not_issued_insert h.signal slot (hkey ▸ SlotMap.issued_of_get? hsome)
      simp [← hkey, hnone, eq_comm]
    · simp [hkey]

theorem disconnect (hk : h.Kept) (key : SlotKey) : (h.apply (.disconnect key)).Kept where
  sound := hk.sound.erase key
  nodup := hk.nodup.sublist (List.filter_sublist.map _)
  mem_iff other slot := by
    have hget : (h.signal.disconnect key).2.get? other =
        if other = key then none else h.signal.get? other := SlotMap.get?_erase h.signal key other
    rw [apply, hget, List.mem_filter, hk.mem_iff]
    by_cases hkey : other = key <;> simp [hkey]

theorem run (hk : h.Kept) (changes : List (Change α)) : (h.run changes).Kept := by
  induction changes generalizing h with
  | nil => exact hk
  | cons c changes ih =>
    cases c with
    | connect slot => exact ih (hk.connect slot)
    | disconnect key => exact ih (hk.disconnect key)

theorem ofChanges (changes : List (Change α)) : (ofChanges changes).Kept := new.run changes

theorem snapshot_perm (hk : h.Kept) : h.signal.snapshot.Perm h.roster := by
  refine (List.perm_ext_iff_of_nodup (ascending_snapshot h.signal).nodup
    (List.Nodup.of_map _ hk.nodup)).2 fun c => ?_
  exact SlotMap.mem_entries_iff.trans (hk.mem_iff c.1 c.2).symm

end Kept

theorem issued_run (hkey : h.signal.Issued key) (changes : List (Change α)) :
    (h.run changes).signal.Issued key := by
  induction changes generalizing h with
  | nil => exact hkey
  | cons c changes ih =>
    cases c with
    | connect slot => exact ih (h := h.apply (.connect slot)) (hkey.insert slot)
    | disconnect other => exact ih (h := h.apply (.disconnect other)) (hkey.erase other)

end History
end Outbound.Signal
