import Mathlib.Data.List.Induction
import Mathlib.Data.List.Nodup
import Outbound.Header.Map

/-! Maps that are made by appending alone. Such a map holds what was appended, all of it and nothing
else: each name stands once, in the order in which names were first seen, and has the values that
were given under it, in their order. -/

namespace Outbound.FieldMap

variable {α : Type} {m : FieldMap α} {name : String}

theorem find?_of_not_contains (h : m.contains name = false) :
    m.entries.find? (·.1 = name) = none := by
  rw [List.find?_eq_none]
  intro e he hname
  rw [contains, List.any_eq_false] at h
  exact h e he hname

theorem values_map (m : FieldMap α) (other : String)
    (onto : String × List α → List α) :
    values ⟨m.entries.map fun e => (e.1, onto e)⟩ other =
      ((m.entries.find? (·.1 = other)).map onto).getD [] := by
  rw [values, List.find?_map, Option.map_map]
  rfl

theorem values_append (m : FieldMap α) (name other : String) (value : α) :
    (m.append name value).values other =
      m.values other ++ if name = other then [value] else [] := by
  cases hcontains : m.contains name with
  | false =>
    rw [append, if_neg (by simp [hcontains]), values, values, List.find?_append]
    by_cases hname : name = other
    · subst hname
      simp [find?_of_not_contains hcontains]
    · simp [hname]
  | true =>
    rw [append, if_pos hcontains, values_map, values]
    cases hfind : m.entries.find? (·.1 = other) with
    | none =>
      have hname : name ≠ other := by
        rintro rfl
        obtain ⟨e, he, hname⟩ := List.any_eq_true.1 hcontains
        exact List.find?_eq_none.1 hfind e he hname
      simp [hname]
    | some e =>
      have hother : e.1 = other := by simpa using List.find?_some hfind
      by_cases hname : name = other
      · simp [hother, hname]
      · simp [hother, hname, Ne.symm hname]

structure Grouped (m : FieldMap α) : Prop where
  nodup : m.names.Nodup
  filled : ∀ e ∈ m.entries, e.2 ≠ []

theorem contains_iff : m.contains name = true ↔ name ∈ m.names := by
  simp [contains, names]

theorem Grouped.empty : Grouped ({} : FieldMap α) := ⟨List.nodup_nil, by simp⟩

theorem names_append (m : FieldMap α) (name : String) (value : α) :
    (m.append name value).names = if m.contains name then m.names else m.names ++ [name] := by
  unfold append
  split <;> simp [names, Function.comp_def]

theorem Grouped.append (h : m.Grouped) (name : String) (value : α) :
    (m.append name value).Grouped := by
  have hnames := names_append m name value
  cases hcontains : m.contains name with
  | true =>
    rw [hcontains, if_pos rfl] at hnames
    refine ⟨hnames ▸ h.nodup, fun e he => ?_⟩
    rw [FieldMap.append, if_pos hcontains] at he
    obtain ⟨⟨n, vs⟩, hmem, rfl⟩ := List.mem_map.1 he
    by_cases hname : n = name
    · simp [hname]
    · simpa [hname] using h.filled _ hmem
  | false =>
    rw [hcontains, if_neg (by simp)] at hnames
    have hnew : name ∉ m.names := by
      rw [← contains_iff, hcontains]
      simp
    refine ⟨?_, fun e he => ?_⟩
    · rw [hnames]
      exact h.nodup.append (List.nodup_singleton _) (by simpa using hnew)
    · rw [FieldMap.append, if_neg (by simp [hcontains])] at he
      rcases List.mem_append.1 he with he | he
      · exact h.filled e he
      · simp [List.mem_singleton.1 he]

def gather (appends : List (String × α)) : FieldMap α :=
  appends.foldl (fun m a => m.append a.1 a.2) {}

def given (appends : List (String × α)) (name : String) : List α :=
  (appends.filter (·.1 = name)).map (·.2)

theorem gather_concat (appends : List (String × α)) (a : String × α) :
    gather (appends ++ [a]) = (gather appends).append a.1 a.2 := List.foldl_append

theorem given_concat (appends : List (String × α)) (a : String × α) (name : String) :
    given (appends ++ [a]) name = given appends name ++ if a.1 = name then [a.2] else [] := by
  rw [given, given, List.filter_append, List.map_append]
  by_cases hname : a.1 = name <;> simp [hname]

theorem gather_grouped (appends : List (String × α)) : (gather appends).Grouped := by
  induction appends using List.reverseRecOn with
  | nil => exact .empty
  | append_singleton appends a ih =>
    rw [gather_concat]
    exact ih.append a.1 a.2

theorem eraseDups_concat (names : List String) (name : String) :
    (names ++ [name]).eraseDups =
      if name ∈ names then names.eraseDups else names.eraseDups ++ [name] := by
  rw [List.eraseDups_append]
  by_cases h : name ∈ names <;> simp [List.removeAll, h, List.eraseDups_cons]

theorem names_gather (appends : List (String × α)) :
    (gather appends).names = (appends.map (·.1)).eraseDups := by
  induction appends using List.reverseRecOn with
  | nil => rfl
  | append_singleton appends a ih =>
    have hcontains : (gather appends).contains a.1 = true ↔ a.1 ∈ appends.map (·.1) := by
      rw [contains_iff, ih, List.mem_eraseDups]
    rw [gather_concat, names_append, ih, List.map_append, List.map_singleton, eraseDups_concat]
    simp only [hcontains]

theorem values_gather (appends : List (String × α)) (name : String) :
    (gather appends).values name = given appends name := by
  induction appends using List.reverseRecOn with
  | nil => rfl
  | append_singleton appends a ih => rw [gather_concat, values_append, ih, given_concat]

theorem values_of_mem {e : String × List α} (h : m.names.Nodup) (he : e ∈ m.entries) :
    m.values e.1 = e.2 := by
  obtain ⟨front, back, hentries⟩ := List.append_of_mem he
  rw [names, hentries, List.map_append, List.map_cons, List.nodup_middle, List.nodup_cons,
    List.mem_append, not_or] at h
  have hfront : front.find? (·.1 = e.1) = none := by
    rw [List.find?_eq_none]
    intro other hother hname
    exact h.1.1 (List.mem_map.2 ⟨other, hother, by simpa using hname⟩)
  rw [values, hentries, List.find?_append, hfront]
  simp

theorem entries_eq (h : m.names.Nodup) :
    m.entries = m.names.map fun name => (name, m.values name) := by
  rw [names, List.map_map]
  refine (List.map_id' m.entries).symm.trans (List.map_congr_left fun e he => ?_)
  exact Prod.ext rfl (values_of_mem h he).symm

theorem entries_gather (appends : List (String × α)) :
    (gather appends).entries =
      (appends.map (·.1)).eraseDups.map fun name => (name, given appends name) := by
  rw [entries_eq (gather_grouped appends).nodup, names_gather]
  exact List.map_congr_left fun name _ => Prod.ext rfl (values_gather appends name)

theorem toList_cons (e : String × List α) (entries : List (String × List α)) :
    (⟨e :: entries⟩ : FieldMap α).toList =
      e.2.map (e.1, ·) ++ (⟨entries⟩ : FieldMap α).toList := rfl

theorem values_cons (e : String × List α) (entries : List (String × List α)) (name : String) :
    (⟨e :: entries⟩ : FieldMap α).values name =
      if e.1 = name then e.2 else (⟨entries⟩ : FieldMap α).values name := by
  by_cases hname : e.1 = name <;> simp [values, hname]

theorem name_ne_of_mem_toList {a : String × α} (hnew : name ∉ m.names) (ha : a ∈ m.toList) :
    a.1 ≠ name := by
  rintro rfl
  obtain ⟨e, he, ha⟩ := List.mem_flatMap.1 ha
  obtain ⟨v, -, rfl⟩ := List.mem_map.1 ha
  exact hnew (List.mem_map.2 ⟨e, he, rfl⟩)

theorem filter_toList (h : m.names.Nodup) (name : String) :
    m.toList.filter (·.1 = name) = (m.values name).map (name, ·) := by
  obtain ⟨entries⟩ := m
  induction entries with
  | nil => rfl
  | cons e entries ih =>
    obtain ⟨hnew, hrest⟩ := List.nodup_cons.1 h
    rw [toList_cons, List.filter_append, values_cons]
    by_cases hname : e.1 = name
    · have hnone : (⟨entries⟩ : FieldMap α).toList.filter (·.1 = name) = [] := by
        rw [List.filter_eq_nil_iff, ← hname]
        exact fun a ha hother => name_ne_of_mem_toList hnew ha (of_decide_eq_true hother)
      rw [if_pos hname, hnone, List.append_nil, hname, List.filter_eq_self]
      simp
    · rw [if_neg hname, ih hrest]
      simp [hname]

theorem eraseDups_toList (h : m.Grouped) : (m.toList.map (·.1)).eraseDups = m.names := by
  obtain ⟨entries⟩ := m
  induction entries with
  | nil => rfl
  | cons e entries ih =>
    obtain ⟨hnew, hrest⟩ := List.nodup_cons.1 h.nodup
    obtain ⟨hvalues, hfilled⟩ := List.forall_mem_cons.1 h.filled
    obtain ⟨v, vs, hvs⟩ := List.exists_cons_of_ne_nil hvalues
    have hkept : ((⟨entries⟩ : FieldMap α).toList.map (·.1)).filter (fun n => !n == e.1) =
        (⟨entries⟩ : FieldMap α).toList.map (·.1) := by
      rw [List.filter_eq_self]
      intro n hn
      obtain ⟨a, ha, rfl⟩ := List.mem_map.1 hn
      simpa using name_ne_of_mem_toList hnew ha
    -- the first value of the entry brings its name, and the others bring nothing new
    rw [toList_cons, hvs, List.map_append, List.map_cons, List.map_cons, List.cons_append,
      List.eraseDups_cons, List.filter_append, hkept]
    simp [Function.comp_def, ih ⟨hrest, hfilled⟩, names]

theorem append_cons (e : String × List α) (entries : List (String × List α)) (value : α)
    (hnew : e.1 ∉ (⟨entries⟩ : FieldMap α).names) :
    (⟨e :: entries⟩ : FieldMap α).append e.1 value = ⟨(e.1, e.2 ++ [value]) :: entries⟩ := by
  have hrest : entries.map (fun o => (o.1, if o.1 = e.1 then o.2 ++ [value] else o.2)) =
      entries := by
    refine (List.map_congr_left fun o ho => ?_).trans (List.map_id' _)
    rw [if_neg]
    exact fun hname => hnew (List.mem_map.2 ⟨o, ho, hname⟩)
  have hcontains : (⟨e :: entries⟩ : FieldMap α).contains e.1 = true := by simp [contains]
  rw [append, if_pos hcontains]
  simp [hrest]

theorem append_cons_of_ne {e : String × List α} (entries : List (String × List α)) (value : α)
    (hname : e.1 ≠ name) :
    (⟨e :: entries⟩ : FieldMap α).append name value =
      ⟨e :: ((⟨entries⟩ : FieldMap α).append name value).entries⟩ := by
  have hcontains : (⟨e :: entries⟩ : FieldMap α).contains name =
      (⟨entries⟩ : FieldMap α).contains name := by simp [contains, hname]
  rw [append, append, hcontains]
  split <;> simp [hname]

theorem toList_append_perm (h : m.names.Nodup) (name : String) (value : α) :
    (m.append name value).toList.Perm (m.toList ++ [(name, value)]) := by
  obtain ⟨entries⟩ := m
  induction entries with
  | nil => exact .refl _
  | cons e entries ih =>
    obtain ⟨hnew, hrest⟩ := List.nodup_cons.1 h
    by_cases hname : e.1 = name
    · subst hname
      rw [append_cons e entries value hnew, toList_cons, toList_cons, List.map_append,
        List.append_assoc, List.append_assoc]
      exact List.perm_append_comm.append_left _
    · rw [append_cons_of_ne entries value hname, toList_cons, toList_cons, List.append_assoc]
      exact (ih hrest).append_left _

theorem toList_gather_perm (appends : List (String × α)) :
    (gather appends).toList.Perm appends := by
  induction appends using List.reverseRecOn with
  | nil => exact .nil
  | append_singleton appends a ih =>
    rw [gather_concat]
    exact (toList_append_perm (gather_grouped appends).nodup a.1 a.2).trans (ih.append_right [a])

end Outbound.FieldMap
