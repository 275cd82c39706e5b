import Mathlib.Data.List.Induction
import Mathlib.Data.List.Infix
import Outbound.Proofs.Signal.Emission

/-! The order in which an emission calls. Slots run by position, and a position that was freed is
taken by the next connection, which then runs before older ones. As long as no position is free when
a slot is connected, slots run in the order in which they were connected. -/

namespace Outbound

namespace SlotMap

variable {α : Type} {m : SlotMap α} {a : α} {key : SlotKey}

theorem index_ne_insert (hm : m.Sound) (hkey : m.get? key = some a) (b : α) :
    key.index ≠ (m.insert b).1.index := by
  have hcell := get?_eq_some_iff.1 hkey
  rw [index_insert]
  cases hfree : m.free with
  | nil => exact Nat.ne_of_lt (List.getElem?_eq_some_iff.1 hcell).1
  | cons i free =>
    obtain ⟨version, hvacant⟩ := hm.vacant i (by simp [hfree])
    rintro rfl
    simp [hcell] at hvacant

end SlotMap

namespace Signal

variable {α : Type}

theorem Ascending.eq {l l' : List (SlotKey × α)} (h : Ascending l) (h' : Ascending l')
    (hmem : ∀ c, c ∈ l ↔ c ∈ l') : l = l' := by
  refine List.Perm.eq_of_pairwise (fun c d _ _ hlt hgt => ?_) h h'
    ((List.perm_ext_iff_of_nodup h.nodup h'.nodup).2 hmem)
  exact absurd hgt (Nat.lt_asymm hlt)

variable {h : History α}

theorem mem_snapshot_connect (hk : h.Kept) (slot : α) (c : SlotKey × α) :
    c ∈ (h.signal.connect slot).2.snapshot ↔
      c ∈ h.signal.snapshot ∨ c = ((h.signal.connect slot).1, slot) := by
  have hnew : (h.signal.connect slot).2.snapshot.Perm _ := (hk.connect slot).snapshot_perm
  rw [hnew.mem_iff, hk.snapshot_perm.mem_iff]
  exact List.mem_append.trans (or_congr_right List.mem_singleton)

theorem snapshot_connect (hk : h.Kept) (slot : α) :
    (h.signal.connect slot).2.snapshot =
      h.signal.snapshot.filter (·.1.index < (h.signal.connect slot).1.index) ++
        ((h.signal.connect slot).1, slot) ::
          h.signal.snapshot.filter ((h.signal.connect slot).1.index < ·.1.index) := by
  have hsorted := ascending_snapshot h.signal
  refine (ascending_snapshot _).eq (List.pairwise_append.2 ⟨hsorted.filter _,
    List.pairwise_cons.2 ⟨fun c hc => by simpa using (List.mem_filter.1 hc).2, hsorted.filter _⟩,
    fun c hc d hd => ?_⟩) fun c => ?_
  · have hlt : c.1.index < (h.signal.connect slot).1.index := by
      simpa using (List.mem_filter.1 hc).2
    rcases List.mem_cons.1 hd with rfl | hd
    · exact hlt
    · exact Nat.lt_trans hlt (by simpa using (List.mem_filter.1 hd).2)
  · have hne : c ∈ h.signal.snapshot → c.1.index ≠ (h.signal.connect slot).1.index := fun hc =>
      SlotMap.index_ne_insert hk.sound (SlotMap.mem_entries_iff.1 hc) slot
    simp only [mem_snapshot_connect hk, List.mem_append, List.mem_cons, List.mem_filter,
      decide_eq_true_eq]
    constructor
    · rintro (hc | rfl)
      · rcases Nat.lt_or_gt_of_ne (hne hc) with hlt | hgt
        · exact .inl ⟨hc, hlt⟩
        · exact .inr (.inr ⟨hc, hgt⟩)
      · exact .inr (.inl rfl)
    · rintro (⟨hc, -⟩ | rfl | ⟨hc, -⟩)
      · exact .inl hc
      · exact .inr rfl
      · exact .inl hc

theorem snapshot_disconnect (s : Signal α) (key : SlotKey) :
    (s.disconnect key).2.snapshot = s.snapshot.filter (·.1 ≠ key) := by
  refine (ascending_snapshot _).eq ((ascending_snapshot s).filter _) fun c => ?_
  have hget : (s.disconnect key).2.get? c.1 = if c.1 = key then none else s.get? c.1 :=
    SlotMap.get?_erase s key c.1
  rw [snapshot, SlotMap.mem_entries_iff, hget, List.mem_filter, snapshot, SlotMap.mem_entries_iff]
  by_cases hkey : c.1 = key <;> simp [hkey]

theorem snapshot_connect_of_full (hk : h.Kept) (hfree : h.signal.free = []) (slot : α) :
    (h.signal.connect slot).2.snapshot =
      h.signal.snapshot ++ [((h.signal.connect slot).1, slot)] := by
  have hsorted := ascending_snapshot h.signal
  refine (ascending_snapshot _).eq (List.pairwise_append.2 ⟨hsorted, List.pairwise_singleton _ _,
    fun c hc d hd => ?_⟩) fun c => ?_
  · obtain rfl := List.mem_singleton.1 hd
    -- without a free position the new one is behind all others
    have hcell := SlotMap.get?_eq_some_iff.1 (SlotMap.mem_entries_iff.1 hc)
    have hindex : (h.signal.connect slot).1.index = h.signal.cells.length := by
      rw [connect, SlotMap.index_insert, hfree]
      rfl
    exact hindex ▸ (List.getElem?_eq_some_iff.1 hcell).1
  · simp [mem_snapshot_connect hk]

/-- As long as nothing is connected while a position is free, the two orders are the same. -/
theorem snapshot_eq_roster (changes : List (Change α))
    (hfull : ∀ before slot, before ++ [.connect slot] <+: changes →
      (History.ofChanges before).signal.free = []) :
    (History.ofChanges changes).signal.snapshot = (History.ofChanges changes).roster := by
  induction changes using List.reverseRecOn with
  | nil => rfl
  | append_singleton before c ih =>
    have hbefore := ih fun earlier slot hinit => hfull earlier slot
      (hinit.trans (List.prefix_append _ _))
    rw [History.ofChanges_append]
    cases c with
    | connect slot =>
      have hfree := hfull before slot List.prefix_rfl
      exact (snapshot_connect_of_full (.ofChanges before) hfree slot).trans
        (congrArg (· ++ _) hbefore)
    | disconnect key =>
      exact (snapshot_disconnect _ key).trans (congrArg (List.filter _) hbefore)

theorem snapshot_eq_roster_iff (hk : h.Kept) : h.signal.snapshot = h.roster ↔ Ascending h.roster :=
  ⟨fun heq => heq ▸ ascending_snapshot h.signal, fun hroster =>
    (ascending_snapshot h.signal).eq hroster fun _ => hk.snapshot_perm.mem_iff⟩

end Signal

namespace Stage

open Signal

def inOrder (h : History String) (value : Int) : List (SlotKey × String × Int) :=
  h.roster.map fun (key, slot) => (key, slot, value)

theorem called_injective (value : Int) :
    Function.Injective (List.map fun c : SlotKey × String => (c.1, c.2, value)) :=
  List.map_injective_iff.2 fun c d h => by
    simp only [Prod.mk.injEq, and_true] at h
    exact Prod.ext h.1 h.2

/-- An emission calls the connected slots by their positions. That is the order in which they were
connected exactly if their positions ascend in this order, and so whenever no slot was connected while
a position was free. A new connection has the position that was freed last, or else the next new one,
and runs in its place among the others; ending a connection leaves the order of the others. -/
theorem emission_by_position (s : Stage) (changes : List (Change String))
    (hs : s.signal = some (History.ofChanges changes).signal) (value : Int) :
    let h := History.ofChanges changes
    let calls := called h.signal value
    s.perform (.emit value) = (.done, s.callAll calls) ∧
    calls.Perm (inOrder h value) ∧
    calls.Pairwise (fun c d => c.1.index < d.1.index) ∧
    (calls = inOrder h value ↔ h.roster.Pairwise fun c d => c.1.index < d.1.index) ∧
    ((∀ before slot, before ++ [.connect slot] <+: changes →
      (History.ofChanges before).signal.free = []) → calls = inOrder h value) ∧
    (∀ slot,
      let key := (h.signal.connect slot).1
      key.index = h.signal.free.headD h.signal.cells.length ∧
      called (History.ofChanges (changes ++ [.connect slot])).signal value =
        calls.filter (·.1.index < key.index) ++ (key, slot, value) ::
          calls.filter (key.index < ·.1.index)) ∧
    ∀ key, called (History.ofChanges (changes ++ [.disconnect key])).signal value =
      calls.filter (·.1 ≠ key) := by
  intro h calls
  have hk : h.Kept := History.Kept.ofChanges changes
  refine ⟨perform_emit hs value, hk.snapshot_perm.map _,
    List.pairwise_map.2 (ascending_snapshot h.signal), ?_, fun hfull => ?_, fun slot => ?_,
    fun key => ?_⟩
  · exact (called_injective value).eq_iff.trans (snapshot_eq_roster_iff hk)
  · exact congrArg _ (snapshot_eq_roster changes hfull)
  · intro key
    refine ⟨SlotMap.index_insert h.signal slot, ?_⟩
    rw [History.ofChanges_append]
    refine (congrArg (List.map _) (snapshot_connect hk slot)).trans ?_
    simp only [List.map_append, List.map_cons, calls, called, List.filter_map]
    rfl
  · rw [History.ofChanges_append]
    refine (congrArg (List.map _) (snapshot_disconnect h.signal key)).trans ?_
    simp only [calls, called, List.filter_map]
    rfl

def reused : Stage :=
  let s := (begin {} (.connect "a" false [])).2.2
  let s := (s.begin (.connect "b" false [])).2.2
  let s := (s.begin (.disconnect "a")).2.2
  (s.begin (.connect "c" false [])).2.2

def reuse : List (Change String) :=
  [.connect "a", .connect "b", .disconnect ⟨0, 0⟩, .connect "c"]

theorem emission_by_position_of_reuse :
    reused.perform (.emit 5) = (.done, reused.callAll [(⟨0, 1⟩, "c", 5), (⟨1, 0⟩, "b", 5)]) ∧
      called (History.ofChanges [.connect "a"]).signal 5 =
        inOrder (History.ofChanges [.connect "a"]) 5 := by
  refine ⟨(emission_by_position reused reuse rfl 5).1, ?_⟩
  have h := emission_by_position (begin {} (.connect "a" false [])).2.2 [.connect "a"] rfl 5
  refine h.2.2.2.2.1 fun before slot hinit => ?_
  have hlength : (before ++ [Change.connect slot]).length ≤ 1 := hinit.length_le
  obtain rfl : before = [] := by simpa using hlength
  rfl

/-- The slot that was connected last runs first, at the position of the one that is gone. -/
theorem reused_position_runs_first :
    reused.signal = some (History.ofChanges reuse).signal ∧
      (History.ofChanges reuse).roster = [(⟨1, 0⟩, "b"), (⟨0, 1⟩, "c")] ∧
      (reused.perform (.emit 5)).2.1 = [.ran "c" 5, .ran "b" 5] := by
  have hs : reused.signal = some (History.ofChanges reuse).signal := rfl
  refine ⟨hs, rfl, ?_⟩
  rw [perform_emit hs]
  rfl

end Stage
end Outbound
