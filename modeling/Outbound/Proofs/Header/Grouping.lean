import Outbound.Proofs.Header.Validity

/-! Fields that replace the fields of a map. A map that is made by grouping has each name once, and
no name without a value, so that what it replaces another map with is all that it holds: under each
of its names its own values stand, and under every other name those that stood there. -/

namespace Outbound

namespace FieldMap

variable {α : Type} {m other : FieldMap α} {name : String} {entries : List (String × List α)}

theorem find?_of_contains (h : m.contains name = true) :
    ∃ e, m.entries.find? (·.1 = name) = some e ∧ e.1 = name := by
  obtain ⟨e, he, hname⟩ := List.any_eq_true.1 h
  have hsome : (m.entries.find? (·.1 = name)).isSome = true :=
    List.find?_isSome.2 ⟨e, he, hname⟩
  obtain ⟨found, hfound⟩ := Option.isSome_iff_exists.1 hsome
  exact ⟨found, hfound, by simpa using List.find?_some hfound⟩

theorem values_of_not_contains (h : m.contains name = false) : m.values name = [] := by
  rw [values, find?_of_not_contains h]
  rfl

theorem values_insert (m : FieldMap α) (name other : String) (value : α) :
    (m.insert name value).values other = if name = other then [value] else m.values other := by
  cases hcontains : m.contains name with
  | false =>
    rw [insert, if_neg (by simp [hcontains]), values, values, List.find?_append]
    by_cases hname : name = other
    · subst hname
      simp [find?_of_not_contains hcontains]
    · simp [hname]
  | true =>
    rw [insert, if_pos hcontains, values_map, values]
    by_cases hname : name = other
    · subst hname
      obtain ⟨e, he, hfound⟩ := find?_of_contains hcontains
      simp [he, hfound]
    · cases hfind : m.entries.find? (·.1 = other) with
      | none => simp [hname]
      | some e =>
        have hother : e.1 = other := by simpa using List.find?_some hfind
        simp [hother, hname, Ne.symm hname]

theorem values_appendAll (m : FieldMap α) (name other : String) (values : List α) :
    (values.foldl (fun m v => m.append name v) m).values other =
      m.values other ++ if name = other then values else [] := by
  induction values generalizing m with
  | nil => simp
  | cons v vs ih =>
    rw [List.foldl_cons, ih, values_append]
    by_cases hname : name = other <;> simp [hname]

/-- What the fold of `replaceWith` does with one name and its values. -/
def replaceEntry (m : FieldMap α) (e : String × List α) : FieldMap α :=
  match e.2 with
  | [] => m
  | v :: vs => vs.foldl (fun m v => m.append e.1 v) (m.insert e.1 v)

theorem replaceWith_eq (m other : FieldMap α) :
    m.replaceWith other = other.entries.foldl replaceEntry m := rfl

theorem values_replaceEntry {e : String × List α} (h : e.2 ≠ []) (m : FieldMap α)
    (name : String) :
    (m.replaceEntry e).values name = if e.1 = name then e.2 else m.values name := by
  obtain ⟨n, vs⟩ := e
  cases vs with
  | nil => exact absurd rfl h
  | cons v vs =>
    rw [replaceEntry, values_appendAll, values_insert]
    by_cases hname : n = name <;> simp [hname]

theorem values_foldl_of_not_mem (hfilled : ∀ e ∈ entries, e.2 ≠ [])
    (hname : name ∉ entries.map (·.1)) (m : FieldMap α) :
    (entries.foldl replaceEntry m).values name = m.values name := by
  induction entries generalizing m with
  | nil => rfl
  | cons e rest ih =>
    rw [List.forall_mem_cons] at hfilled
    rw [List.map_cons, List.mem_cons, not_or] at hname
    rw [List.foldl_cons, ih hfilled.2 hname.2, values_replaceEntry hfilled.1,
      if_neg (Ne.symm hname.1)]

theorem values_foldl_of_nodup (hnodup : (entries.map (·.1)).Nodup)
    (hfilled : ∀ e ∈ entries, e.2 ≠ []) (m : FieldMap α) :
    (entries.foldl replaceEntry m).values name =
      ((entries.find? (·.1 = name)).map (·.2)).getD (m.values name) := by
  induction entries generalizing m with
  | nil => rfl
  | cons e rest ih =>
    rw [List.map_cons, List.nodup_cons] at hnodup
    rw [List.forall_mem_cons] at hfilled
    rw [List.foldl_cons]
    by_cases hname : e.1 = name
    · -- the name does not come again, so what stands there now is kept
      rw [values_foldl_of_not_mem hfilled.2 (hname ▸ hnodup.1), values_replaceEntry hfilled.1]
      simp [hname]
    · rw [ih hnodup.2 hfilled.2, values_replaceEntry hfilled.1]
      simp [hname]

theorem values_replaceWith (h : other.Grouped) (m : FieldMap α) (name : String) :
    (m.replaceWith other).values name =
      if other.contains name then other.values name else m.values name := by
  rw [replaceWith_eq, values_foldl_of_nodup h.nodup h.filled]
  cases hcontains : other.contains name with
  | false => simp [find?_of_not_contains hcontains]
  | true =>
    obtain ⟨e, he, -⟩ := find?_of_contains hcontains
    simp [values, he]

theorem values_replaceWith_of_empty (h : other.Grouped) (hm : m.values name = []) :
    (m.replaceWith other).values name = other.values name := by
  rw [values_replaceWith h, hm]
  cases hcontains : other.contains name with
  | false => simp [values_of_not_contains hcontains]
  | true => rfl

end FieldMap

theorem FieldList.toMap_grouped (l : FieldList) : l.toMap.Grouped := by
  rw [toMap_eq_gather]
  exact FieldMap.gather_grouped _

end Outbound
