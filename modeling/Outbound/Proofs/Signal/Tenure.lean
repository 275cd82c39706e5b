import Mathlib.Data.List.Induction
import Mathlib.Data.List.Infix
import Outbound.Proofs.Signal.Roster

/-! How long a connection stands: from the moment at which its key is given out to the first
disconnection by this key, for which an id or a guard may be used. No key is given out twice, so a key
whose connection is gone ends no other, also not the one that has taken its position. -/

namespace Outbound

namespace SlotMap

variable {α : Type}

theorem length_entries (m : SlotMap α) : m.entries.length = m.size := by
  have hcells : m.size = (m.cells.zipIdx.map (·.1)).countP (·.2.isSome) := by
    rw [List.zipIdx_map_fst]
    rfl
  rw [hcells, List.countP_map, entries, List.length_filterMap_eq_countP]
  exact List.countP_congr fun c _ => by simp

end SlotMap

namespace Signal

variable {α : Type}

def Change.connects : Change α → Bool
  | .connect _ => true
  | .disconnect _ => false

@[simp] theorem Change.connects_connect (slot : α) : Change.connects (.connect slot) = true := rfl

@[simp] theorem Change.connects_disconnect (key : SlotKey) :
    Change.connects (.disconnect key : Change α) = false := rfl

namespace History

variable {h : History α} {changes : List (Change α)} {c : Change α} {key : SlotKey} {slot : α}

/-- A slot was connected, and this key was given out for it. -/
def Made (changes : List (Change α)) (key : SlotKey) (slot : α) : Prop :=
  ∃ before, before ++ [.connect slot] <+: changes ∧ ((ofChanges before).signal.connect slot).1 = key

/-- The connection of a key was ended after it had been made. -/
def Ended (changes : List (Change α)) (key : SlotKey) : Prop :=
  ∃ before, before ++ [.disconnect key] <+: changes ∧ ∃ slot, Made before key slot

theorem made_concat : Made (changes ++ [c]) key slot ↔
    c = .connect slot ∧ ((ofChanges changes).signal.connect slot).1 = key ∨
      Made changes key slot := by
  simp only [Made, List.prefix_concat_iff, List.append_singleton_inj, or_and_right, exists_or]
  refine or_congr_left ⟨?_, ?_⟩
  · rintro ⟨before, ⟨rfl, rfl⟩, hkey⟩
    exact ⟨rfl, hkey⟩
  · rintro ⟨rfl, hkey⟩
    exact ⟨changes, ⟨rfl, rfl⟩, hkey⟩

theorem ended_concat : Ended (changes ++ [c]) key ↔
    (c = .disconnect key ∧ ∃ slot, Made changes key slot) ∨ Ended changes key := by
  simp only [Ended, List.prefix_concat_iff, List.append_singleton_inj, or_and_right, exists_or]
  refine or_congr_left ⟨?_, ?_⟩
  · rintro ⟨before, ⟨rfl, rfl⟩, hmade⟩
    exact ⟨rfl, hmade⟩
  · rintro ⟨rfl, hmade⟩
    exact ⟨changes, ⟨rfl, rfl⟩, hmade⟩

theorem Made.append (hm : Made changes key slot) (more : List (Change α)) :
    Made (changes ++ more) key slot := by
  obtain ⟨before, hinit, hkey⟩ := hm
  exact ⟨before, hinit.trans (List.prefix_append _ _), hkey⟩

theorem Made.issued (hm : Made changes key slot) : (ofChanges changes).signal.Issued key := by
  obtain ⟨before, ⟨after, rfl⟩, rfl⟩ := hm
  have hnew : ((ofChanges before).signal.connect slot).2.get?
      ((ofChanges before).signal.connect slot).1 = some slot :=
    (SlotMap.get?_insert (Kept.ofChanges before).sound slot _).trans (if_pos rfl)
  rw [ofChanges_append, ofChanges_append]
  exact issued_run (SlotMap.issued_of_get? hnew) after

theorem not_made_connect (changes : List (Change α)) (slot old : α) :
    ¬ Made changes ((ofChanges changes).signal.connect slot).1 old := fun hm =>
  SlotMap.not_issued_insert _ slot hm.issued

theorem Made.unique {other : α} (hm : Made changes key slot) (ho : Made changes key other) :
    slot = other := by
  induction changes using List.reverseRecOn with
  | nil => simp [Made] at hm
  | append_singleton changes c ih =>
    rcases made_concat.1 hm with ⟨rfl, rfl⟩ | hm <;> rcases made_concat.1 ho with ⟨hc, hkey⟩ | ho
    · exact Change.connect.inj hc
    · exact absurd ho (not_made_connect changes slot other)
    · exact absurd (hkey ▸ hm) (not_made_connect changes other slot)
    · exact ih hm ho

theorem Ended.made (he : Ended changes key) : ∃ slot, Made changes key slot := by
  obtain ⟨before, hinit, slot, hm⟩ := he
  obtain ⟨after, rfl⟩ := (List.prefix_append before [Change.disconnect key]).trans hinit
  exact ⟨slot, hm.append after⟩

theorem mem_roster_iff (changes : List (Change α)) (key : SlotKey) (slot : α) :
    (key, slot) ∈ (ofChanges changes).roster ↔ Made changes key slot ∧ ¬ Ended changes key := by
  induction changes using List.reverseRecOn with
  | nil => simp [Made, ofChanges, run]
  | append_singleton changes c ih =>
    rw [made_concat, ended_concat, ofChanges_append]
    cases c with
    | connect other =>
      have hfresh : ((ofChanges changes).signal.connect other).1 = key → ¬ Ended changes key := by
        rintro rfl he
        obtain ⟨old, hm⟩ := he.made
        exact not_made_connect changes other old hm
      have hroster : (key, slot) ∈ ((ofChanges changes).run [.connect other]).roster ↔
          (key, slot) ∈ (ofChanges changes).roster ∨
            key = ((ofChanges changes).signal.connect other).1 ∧ slot = other := by
        simp [run, apply]
      rw [hroster, ih]
      constructor
      · rintro (⟨hm, he⟩ | ⟨rfl, rfl⟩)
        · exact ⟨.inr hm, by simpa using he⟩
        · exact ⟨.inl ⟨rfl, rfl⟩, by simpa using hfresh rfl⟩
      · rintro ⟨⟨hc, rfl⟩ | hm, he⟩
        · obtain rfl := Change.connect.inj hc
          exact .inr ⟨rfl, rfl⟩
        · exact .inl ⟨hm, fun h => he (.inr h)⟩
    | disconnect other =>
      have hroster : (key, slot) ∈ ((ofChanges changes).run [.disconnect other]).roster ↔
          (key, slot) ∈ (ofChanges changes).roster ∧ key ≠ other := by
        simp [run, apply]
      rw [hroster, ih]
      constructor
      · rintro ⟨⟨hm, he⟩, hne⟩
        refine ⟨.inr hm, ?_⟩
        rintro (⟨hc, -⟩ | he')
        · exact hne (Change.disconnect.inj hc).symm
        · exact he he'
      · rintro ⟨⟨hc, -⟩ | hm, he⟩
        · cases hc
        · refine ⟨⟨hm, fun h => he (.inr h)⟩, ?_⟩
          rintro rfl
          exact he (.inl ⟨rfl, slot, hm⟩)

theorem disconnect_iff_mem (hk : h.Kept) (key : SlotKey) :
    (h.signal.disconnect key).1 = true ↔ key ∈ h.roster.map (·.1) := by
  have hfound : (h.signal.disconnect key).1 = (h.signal.get? key).isSome := by
    cases hget : h.signal.get? key with
    | none => simp [disconnect, SlotMap.erase_of_none hget]
    | some slot => simp [disconnect, SlotMap.erase_of_some hget]
  rw [hfound, Option.isSome_iff_exists, List.mem_map]
  exact ⟨fun ⟨slot, hget⟩ => ⟨(key, slot), (hk.mem_iff key slot).2 hget, rfl⟩,
    fun ⟨⟨_, slot⟩, hmem, hkey⟩ => ⟨slot, hkey ▸ (hk.mem_iff _ slot).1 hmem⟩⟩

theorem disconnect_iff_standing (changes : List (Change α)) (key : SlotKey) :
    ((ofChanges changes).signal.disconnect key).1 = true ↔
      (∃ slot, Made changes key slot) ∧ ¬ Ended changes key := by
  rw [disconnect_iff_mem (Kept.ofChanges changes)]
  simp [mem_roster_iff]

theorem disconnect_of_not_found {s : Signal α} (hf : (s.disconnect key).1 = false) :
    (s.disconnect key).2 = s := by
  cases hget : s.get? key with
  | none => simp [disconnect, SlotMap.erase_of_none hget]
  | some slot => simp [disconnect, SlotMap.erase_of_some hget] at hf

def endings (h : History α) : List (Change α) → Nat
  | [] => 0
  | .connect slot :: changes => endings (h.apply (.connect slot)) changes
  | .disconnect key :: changes =>
    (h.signal.disconnect key).1.toNat + endings (h.apply (.disconnect key)) changes

theorem count_eq_length (hk : h.Kept) : h.signal.count = h.roster.length := by
  rw [← hk.snapshot_perm.length_eq]
  exact (SlotMap.length_entries h.signal).symm

theorem count_connect (hk : h.Kept) (slot : α) :
    (h.apply (.connect slot)).signal.count = h.signal.count + 1 := by
  rw [count_eq_length (hk.connect slot), count_eq_length hk]
  simp [apply]

theorem count_disconnect (hk : h.Kept) (key : SlotKey) :
    (h.apply (.disconnect key)).signal.count + (h.signal.disconnect key).1.toNat =
      h.signal.count := by
  have hkeys : ((h.apply (.disconnect key)).roster.map (·.1)) = (h.roster.map (·.1)).erase key := by
    simp [hk.nodup.erase_eq_filter, apply, List.filter_map, Function.comp_def, bne, beq_eq_decide]
  have hlength := congrArg List.length hkeys
  rw [List.length_map, List.length_erase, List.length_map] at hlength
  rw [count_eq_length (hk.disconnect key), count_eq_length hk, hlength]
  cases hfound : (h.signal.disconnect key).1 with
  | false =>
    have hnot : key ∉ h.roster.map (·.1) := fun hmem => by
      simp [(disconnect_iff_mem hk key).2 hmem] at hfound
    rw [if_neg (by simpa using hnot)]
    rfl
  | true =>
    have hmem := (disconnect_iff_mem hk key).1 hfound
    have hpos : 0 < h.roster.length := by
      rw [← List.length_map (·.1)]
      exact List.length_pos_of_mem hmem
    rw [if_pos (by simpa using hmem)]
    exact Nat.sub_add_cancel hpos

theorem count_run (hk : h.Kept) (changes : List (Change α)) :
    (h.run changes).signal.count + h.endings changes =
      h.signal.count + changes.countP Change.connects := by
  induction changes generalizing h with
  | nil => rfl
  | cons c changes ih =>
    cases c with
    | connect slot =>
      have hrest := ih (hk.connect slot)
      have hcount := count_connect hk slot
      simp only [run, List.foldl_cons, endings, List.countP_cons, Change.connects_connect,
        if_true] at hrest ⊢
      omega
    | disconnect key =>
      have hrest := ih (hk.disconnect key)
      have hcount := count_disconnect hk key
      simp only [run, List.foldl_cons, endings, List.countP_cons, Change.connects_disconnect,
        Bool.false_eq_true, if_false] at hrest ⊢
      omega

end History

end Signal

end Outbound
