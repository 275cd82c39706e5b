import Mathlib.Data.List.Nodup
import Outbound.Cookie.Jar
import Outbound.Named

/-! The cookies of one host. Name and path tell them apart; a cookie that arrives takes the place of
the one with its name and path, or the last place if there is none, and one that has expired leaves
this place empty. -/

namespace Outbound

namespace Cookie

variable {c d : Cookie}

def key (c : Cookie) : String × String := (c.name, c.path)

theorem sameKey_iff : c.sameKey d = true ↔ c.key = d.key := by simp [sameKey, key]

end Cookie

namespace Jar

variable {now : Time} {c : Cookie} {cs : List Cookie} {host other : String}
  {hosts : List (String × List Cookie)} {jar : Jar}

def arriving (now : Time) (c : Cookie) : List Cookie := if c.expired now then [] else [c]

theorem mem_arriving {e : Cookie} : e ∈ arriving now c ↔ e = c ∧ c.expired now = false := by
  unfold arriving
  split <;> simp_all

theorem place_of_new (hnew : ∀ d ∈ cs, d.key ≠ c.key) : place now c cs = cs ++ arriving now c := by
  induction cs with
  | nil => rfl
  | cons d cs ih =>
    obtain ⟨hd, hcs⟩ := List.forall_mem_cons.1 hnew
    rw [place, if_neg fun h => hd (Cookie.sameKey_iff.1 h), ih hcs]
    rfl

theorem place_of_mem {before after : List Cookie} {d : Cookie} (hd : d.key = c.key)
    (hbefore : ∀ e ∈ before, e.key ≠ c.key) :
    place now c (before ++ d :: after) = before ++ (arriving now c ++ after) := by
  induction before with
  | nil =>
    rw [List.nil_append, place, if_pos (Cookie.sameKey_iff.2 hd), arriving]
    split <;> rfl
  | cons e before ih =>
    obtain ⟨he, hrest⟩ := List.forall_mem_cons.1 hbefore
    rw [List.cons_append, place, if_neg fun h => he (Cookie.sameKey_iff.1 h), ih hrest]
    rfl

theorem place_cases (hn : (cs.map Cookie.key).Nodup) (now : Time) (c : Cookie) :
    (∃ before d after, cs = before ++ d :: after ∧ d.key = c.key ∧
      (∀ e ∈ before ++ after, e.key ≠ c.key) ∧
      place now c cs = before ++ (arriving now c ++ after)) ∨
    (∀ e ∈ cs, e.key ≠ c.key) ∧ place now c cs = cs ++ arriving now c := by
  by_cases hnew : ∀ e ∈ cs, e.key ≠ c.key
  · exact .inr ⟨hnew, place_of_new hnew⟩
  · obtain ⟨d, hmem, hd⟩ : ∃ d ∈ cs, d.key = c.key := by simpa using hnew
    obtain ⟨before, after, rfl⟩ := List.append_of_mem hmem
    have hothers : ∀ e ∈ before ++ after, e.key ≠ c.key := by
      have hmiddle := (List.perm_middle.map Cookie.key).nodup_iff.1 hn
      intro e he hkey
      exact (List.nodup_cons.1 hmiddle).1 (List.mem_map.2 ⟨e, he, hkey.trans hd.symm⟩)
    exact .inl ⟨before, d, after, rfl, hd, hothers,
      place_of_mem hd fun e he => hothers e (List.mem_append_left _ he)⟩

theorem mem_place (hn : (cs.map Cookie.key).Nodup) {e : Cookie} :
    e ∈ place now c cs ↔ (e = c ∧ c.expired now = false) ∨ (e ∈ cs ∧ e.key ≠ c.key) := by
  rcases place_cases hn now c with ⟨before, d, after, rfl, hd, hothers, heq⟩ | ⟨hnew, heq⟩
  · have hrest : e ∈ before ++ d :: after ∧ e.key ≠ c.key ↔ e ∈ before ++ after := by
      constructor
      · rintro ⟨hmem, hne⟩
        rcases List.mem_cons.1 (List.perm_middle.mem_iff.1 hmem) with rfl | hmem
        · exact absurd hd hne
        · exact hmem
      · exact fun hmem => ⟨List.perm_middle.mem_iff.2 (List.mem_cons_of_mem _ hmem), hothers e hmem⟩
    rw [heq, hrest, ← mem_arriving]
    simp only [List.mem_append]
    exact or_left_comm
  · have hrest : e ∈ cs ∧ e.key ≠ c.key ↔ e ∈ cs := and_iff_left_of_imp (hnew e)
    rw [heq, hrest, ← mem_arriving, List.mem_append, or_comm]

theorem keys_place (hn : (cs.map Cookie.key).Nodup) (now : Time) (c : Cookie) :
    (place now c cs).map Cookie.key =
      if c.expired now then (cs.map Cookie.key).erase c.key
      else if c.key ∈ cs.map Cookie.key then cs.map Cookie.key
      else cs.map Cookie.key ++ [c.key] := by
  rcases place_cases hn now c with ⟨before, d, after, rfl, hd, hothers, heq⟩ | ⟨hnew, heq⟩
  · have hbefore : c.key ∉ before.map Cookie.key := fun hmem => by
      obtain ⟨e, he, hkey⟩ := List.mem_map.1 hmem
      exact hothers e (List.mem_append_left _ he) hkey
    rw [heq, arriving]
    split
    · simp [hd, List.erase_append_right _ hbefore]
    · simp [hd]
  · have hnot : c.key ∉ cs.map Cookie.key := fun hmem => by
      obtain ⟨e, he, hkey⟩ := List.mem_map.1 hmem
      exact hnew e he hkey
    rw [heq, arriving, if_neg hnot]
    split
    · simp [List.erase_of_not_mem hnot]
    · simp

theorem nodup_place (hn : (cs.map Cookie.key).Nodup) (now : Time) (c : Cookie) :
    ((place now c cs).map Cookie.key).Nodup := by
  rw [keys_place hn]
  split
  · exact hn.erase _
  · split
    · exact hn
    · rename_i hnot
      exact List.nodup_append.2 ⟨hn, List.nodup_singleton _, fun k hk l hl h =>
        hnot (List.mem_singleton.1 hl ▸ h ▸ hk)⟩

def kept (jar : Jar) (host : String) : List Cookie := (Named.find? jar.hosts host).getD []

theorem kept_update (hosts : List (String × List Cookie)) (f : List Cookie → List Cookie)
    (host other : String) :
    kept ⟨update host f hosts⟩ other =
      if other = host then f (kept ⟨hosts⟩ host) else kept ⟨hosts⟩ other := by
  induction hosts with
  | nil =>
    by_cases h : other = host
    · simp [kept, Named.find?, update, h]
    · simp [kept, Named.find?, update, h, Ne.symm h]
  | cons p rest ih =>
    obtain ⟨name, cs⟩ := p
    have hcons : ∀ cs rest, kept ⟨(name, cs) :: rest⟩ other =
        if name = other then cs else kept ⟨rest⟩ other := by
      intro cs rest
      by_cases h : name = other <;> simp [kept, Named.find?, h]
    have hhost : kept ⟨(name, cs) :: rest⟩ host = if name = host then cs else kept ⟨rest⟩ host := by
      by_cases h : name = host <;> simp [kept, Named.find?, h]
    rw [update, hhost, hcons]
    by_cases hname : name = host
    · subst hname
      rw [if_pos rfl, if_pos rfl, hcons]
      by_cases hother : name = other
      · rw [if_pos hother, if_pos hother.symm]
      · rw [if_neg hother, if_neg hother, if_neg (Ne.symm hother)]
    · rw [if_neg hname, if_neg hname, hcons, ih]
      by_cases hother : name = other
      · rw [if_pos hother, if_pos hother, if_neg fun h => hname (hother.trans h)]
      · rw [if_neg hother, if_neg hother]

theorem names_update (hosts : List (String × List Cookie)) (f : List Cookie → List Cookie)
    (host : String) :
    (update host f hosts).map (·.1) =
      if host ∈ hosts.map (·.1) then hosts.map (·.1) else hosts.map (·.1) ++ [host] := by
  induction hosts with
  | nil => simp [update]
  | cons p rest ih =>
    obtain ⟨name, cs⟩ := p
    by_cases hname : name = host
    · simp [update, hname]
    · rw [update, if_neg hname, List.map_cons, ih]
      by_cases hmem : host ∈ rest.map (·.1) <;> simp [hmem, Ne.symm hname]

theorem nodup_names_update (hn : (hosts.map (·.1)).Nodup) (f : List Cookie → List Cookie)
    (host : String) : ((update host f hosts).map (·.1)).Nodup := by
  rw [names_update]
  split
  · exact hn
  · rename_i hnew
    refine List.nodup_append.2 ⟨hn, List.nodup_singleton _, fun a ha b hb hab => ?_⟩
    exact hnew (List.mem_singleton.1 hb ▸ hab ▸ ha)

theorem kept_of_not_mem (h : host ∉ jar.hosts.map (·.1)) : jar.kept host = [] := by
  have hnone : Named.find? jar.hosts host = none := by
    rw [Named.find?, Option.map_eq_none_iff, List.find?_eq_none]
    intro p hp
    simpa using fun hname => h (List.mem_map.2 ⟨p, hp, hname⟩)
  simp [kept, hnone]

theorem kept_of_mem (hn : (jar.hosts.map (·.1)).Nodup) (hmem : (host, cs) ∈ jar.hosts) :
    jar.kept host = cs := by
  obtain ⟨hosts⟩ := jar
  induction hosts with
  | nil => simp at hmem
  | cons p rest ih =>
    obtain ⟨hp, hrest⟩ := List.nodup_cons.1 hn
    rcases List.mem_cons.1 hmem with rfl | hmem
    · simp [kept, Named.find?]
    · have hne : p.1 ≠ host := fun h => hp (List.mem_map.2 ⟨_, hmem, h.symm⟩)
      have hkept := ih hrest hmem
      simpa [kept, Named.find?, hne] using hkept

theorem mem_of_kept {c : Cookie} (hc : c ∈ jar.kept host) : (host, jar.kept host) ∈ jar.hosts := by
  cases hfind : Named.find? jar.hosts host with
  | none => simp [kept, hfind] at hc
  | some cs =>
    obtain ⟨p, hp, rfl⟩ := Option.map_eq_some_iff.1 hfind
    have hname : p.1 = host := by simpa using List.find?_some hp
    have hkept : jar.kept host = p.2 := by simp [kept, hfind]
    rw [hkept, ← hname]
    exact List.mem_of_find?_eq_some hp

theorem kept_of_perm {shown : Jar} (hn : (jar.hosts.map (·.1)).Nodup)
    (hperm : shown.hosts.Perm jar.hosts) (host : String) : shown.kept host = jar.kept host := by
  have hshown : (shown.hosts.map (·.1)).Nodup := (hperm.map _).nodup_iff.2 hn
  by_cases hmem : host ∈ jar.hosts.map (·.1)
  · obtain ⟨⟨_, cs⟩, hp, rfl⟩ := List.mem_map.1 hmem
    rw [kept_of_mem hn hp, kept_of_mem hshown (hperm.mem_iff.2 hp)]
  · rw [kept_of_not_mem hmem, kept_of_not_mem (mt (hperm.map _).mem_iff.1 hmem)]

end Jar

end Outbound
