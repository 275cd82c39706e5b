import Outbound.Proofs.Dispatch.Moves
import Outbound.Proofs.Dispatch.Shutdown

/-! Two dispatchers side by side. One of them knows of a single identity, and of that what the other
knows, under other tags. It does not notice when the other does something for other identities; and
what concerns its own identity goes the same way on both sides. -/

namespace Outbound.Dispatcher

section Mirrored

variable {α : Type} {key : α → RequestId} {id : RequestId} {f : α → α} {l : List α} {a : α}

def mirrored (key : α → RequestId) (id : RequestId) (f : α → α) (l : List α) : List α :=
  (l.filter (key · = id)).map f

@[simp] theorem mirrored_append (l m : List α) :
    mirrored key id f (l ++ m) = mirrored key id f l ++ mirrored key id f m := by
  simp [mirrored]

theorem mirrored_of_forall_eq (h : ∀ a ∈ l, key a = id) : mirrored key id f l = l.map f := by
  rw [mirrored, List.filter_eq_self.2 (by simpa using h)]

theorem mirrored_of_forall_ne (h : ∀ a ∈ l, key a ≠ id) : mirrored key id f l = [] := by
  rw [mirrored, List.filter_eq_nil_iff.2 (by simpa using h), List.map_nil]

theorem mem_mirrored (ha : key a = id) (hf : ∀ b ∈ l, f a = f b → a = b) :
    f a ∈ mirrored key id f l ↔ a ∈ l := by
  constructor
  · intro hmem
    obtain ⟨b, hb, he⟩ := List.mem_map.1 hmem
    have hbl : b ∈ l := List.mem_of_mem_filter hb
    rwa [hf b hbl he.symm]
  · exact fun hmem => List.mem_map_of_mem (List.mem_filter.2 ⟨hmem, by simpa using ha⟩)

theorem filter_mirrored {p q : α → Bool} (h : ∀ a ∈ l, key a = id → p (f a) = q a) :
    (mirrored key id f l).filter p = mirrored key id f (l.filter q) := by
  rw [mirrored, mirrored, List.filter_map, List.filter_filter, List.filter_filter]
  congr 1
  apply List.filter_congr
  intro a ha
  by_cases hid : key a = id
  · simp [hid, h a ha hid]
  · simp [hid]

theorem mirrored_filter {q : α → Bool} (h : ∀ a ∈ l, key a = id → q a = true) :
    mirrored key id f (l.filter q) = mirrored key id f l := by
  rw [mirrored, mirrored, List.filter_filter]
  congr 1
  apply List.filter_congr
  intro a ha
  by_cases hid : key a = id
  · simp [hid, h a ha hid]
  · simp [hid]

theorem map_mirrored {g h : α → α} (hkey : ∀ a, key (g a) = key a)
    (hg : ∀ a ∈ l, key a = id → h (f a) = f (g a)) :
    (mirrored key id f l).map h = mirrored key id f (l.map g) := by
  rw [mirrored, mirrored, List.filter_map]
  simp only [List.map_map, Function.comp_def, hkey]
  apply List.map_congr_left
  intro a ha
  obtain ⟨hmem, hid⟩ := List.mem_filter.1 ha
  exact hg a hmem (by simpa using hid)

end Mirrored

/-- Another name for each tag, which no two calls that are known share. -/
structure Faithful (ρ : CallTag → CallTag) (known : List CallTag) : Prop where
  id_eq : ∀ tag, (ρ tag).id = tag.id
  apart : ∀ tag ∈ known, ∀ other, ρ other = ρ tag → other = tag

theorem Faithful.eq_iff {ρ : CallTag → CallTag} {known : List CallTag} {tag : CallTag}
    (hρ : Faithful ρ known) (ht : tag ∈ known) (other : CallTag) : ρ other = ρ tag ↔ other = tag :=
  ⟨hρ.apart tag ht other, congrArg ρ⟩

def retag (ρ : CallTag → CallTag) (t : Task) : Task := { t with tag := ρ t.tag }

namespace Step

def rename (ρ : CallTag → CallTag) : Step → Step
  | .deliver tag => .deliver (ρ tag)
  | .complete tag o => .complete (ρ tag) o
  | x => x

end Step

namespace Move

def rename (ρ : CallTag → CallTag) : Move → Move
  | .ask id => .ask id
  | .take x => .take (x.rename ρ)

def concerns (id : RequestId) (m : Move) : Bool := m.subject?.all (· = id)

end Move

theorem cancels_detachAll (s : Dispatcher) (ids : List RequestId) (id : RequestId) :
    (ids.foldl detach s).cancels.filter (·.id = id) =
      s.cancels.filter (·.id = id) ++ if id ∈ ids then (s.calls.find? id).toList else [] := by
  induction ids generalizing s with
  | nil => simp
  | cons other ids ih =>
    have hids : ∀ tag ∈ (s.calls.find? other).toList, tag.id = other := fun tag ht =>
      CallTable.find?_id (Option.mem_toList.1 ht)
    rw [List.foldl_cons, ih (s.detach other)]
    simp only [detach, CallTable.detach, List.filter_append, List.append_assoc, List.mem_cons]
    congr 1
    by_cases he : id = other
    · have hown : (s.calls.find? other).toList.filter (·.id = id) = (s.calls.find? other).toList :=
        List.filter_eq_self.2 fun tag ht => by simpa [he] using hids tag ht
      rw [hown]
      simp [he]
    · have hother : (s.calls.find? other).toList.filter (·.id = id) = [] :=
        List.filter_eq_nil_iff.2 fun tag ht => by simpa [hids tag ht] using Ne.symm he
      rw [hother, CallTable.find?_without_of_ne _ he]
      simp [he]

variable {ρ : CallTag → CallTag} {id : RequestId} {s t : Dispatcher}

/-- One dispatcher knows of one identity what the other does, under other tags, and of no other. -/
structure Mirrors (ρ : CallTag → CallTag) (id : RequestId) (s t : Dispatcher) : Prop where
  closed : t.active.shuttingDown = s.active.shuttingDown
  active : ∀ other, other ∈ t.active ↔ other ∈ s.active ∧ other = id
  live : t.calls.live = mirrored CallTag.id id ρ s.calls.live
  cancels : t.cancels = mirrored CallTag.id id ρ s.cancels
  tasks : t.tasks = mirrored (·.tag.id) id (retag ρ) s.tasks

namespace Mirrors

theorem mem_active (hm : Mirrors ρ id s t) : id ∈ t.active ↔ id ∈ s.active :=
  (hm.active id).trans (and_iff_left rfl)

theorem tags (hm : Mirrors ρ id s t) : t.tags = mirrored CallTag.id id ρ s.tags := by
  rw [Dispatcher.tags, hm.tasks, mirrored, mirrored, Dispatcher.tags, List.filter_map,
    List.map_map, List.map_map]
  rfl

theorem tell (hm : Mirrors ρ id s t) {e : Event} (he : e.id = id) : t.tell e = s.tell e := by
  simp [Dispatcher.tell, ActiveSet.contains, he, hm.mem_active]

theorem find? (hm : Mirrors ρ id s t) (hid : ∀ tag, (ρ tag).id = tag.id) :
    t.calls.find? id = (s.calls.find? id).map ρ := by
  rw [CallTable.find?, CallTable.find?, hm.live, mirrored, List.find?_map, List.find?_filter]
  congr 2
  funext tag
  simp [hid]

theorem contains (hm : Mirrors ρ id s t) (hid : ∀ tag, (ρ tag).id = tag.id) :
    t.calls.contains id = s.calls.contains id := by
  simp [CallTable.contains, hm.find? hid]

theorem refuse (hm : Mirrors ρ id s t) (f : Failure) :
    (t.refuse id f).1 = (s.refuse id f).1 ∧ Mirrors ρ id (s.refuse id f).2 (t.refuse id f).2 :=
  ⟨congrArg (fun entry => [entry]) (hm.tell rfl), hm⟩

theorem skip (hm : Mirrors ρ id s t) : Mirrors ρ id s.skip t := ⟨hm.1, hm.2, hm.3, hm.4, hm.5⟩

theorem accept_of_ne (hm : Mirrors ρ id s t) {sub : Submission} (hne : sub.id ≠ id) :
    Mirrors ρ id (s.accept sub) t where
  closed := by rw [accept, ActiveSet.shuttingDown_insert, hm.closed]
  active other := by
    rw [hm.active, accept, ActiveSet.mem_insert]
    constructor
    · rintro ⟨hin, he⟩
      exact ⟨.inl hin, he⟩
    · rintro ⟨hin | rfl, he⟩
      · exact ⟨hin, he⟩
      · exact absurd he hne
  live := by
    have hother : mirrored CallTag.id id ρ [s.calls.fresh sub.id] = [] :=
      mirrored_of_forall_ne (by simpa [CallTable.fresh] using hne)
    rw [accept, CallTable.push, mirrored_append, hother, List.append_nil, hm.live]
  cancels := hm.cancels
  tasks := by
    have hother : mirrored (·.tag.id) id (retag ρ)
        [{ tag := s.calls.fresh sub.id, submission := sub : Task }] = [] :=
      mirrored_of_forall_ne (by simpa [CallTable.fresh] using hne)
    rw [accept, mirrored_append, hother, List.append_nil, hm.tasks]

theorem release_of_ne (hm : Mirrors ρ id s t) {other : RequestId} (hne : other ≠ id) :
    Mirrors ρ id (s.release other) t where
  closed := hm.closed
  active a := by
    rw [hm.active, release, ActiveSet.mem_erase]
    constructor
    · rintro ⟨hin, rfl⟩
      exact ⟨⟨hin, hne.symm⟩, rfl⟩
    · rintro ⟨⟨hin, -⟩, he⟩
      exact ⟨hin, he⟩
  live := by
    rw [hm.live]
    refine (mirrored_filter fun tag _ hid => ?_).symm
    simpa [hid] using hne.symm
  cancels := hm.cancels
  tasks := hm.tasks

theorem dismiss_of_ne (hm : Mirrors ρ id s t) {tag : CallTag} (hne : tag.id ≠ id) :
    Mirrors ρ id (s.dismiss tag) t where
  closed := hm.closed
  active := hm.active
  live := hm.live
  cancels := hm.cancels
  tasks := by
    rw [hm.tasks]
    refine (mirrored_filter fun u _ hid => ?_).symm
    have hother : u.tag ≠ tag := fun he => hne (he ▸ hid)
    simpa using hother

theorem abort_of_ne (hm : Mirrors ρ id s t) (hc : Covered s) {other : RequestId}
    (hne : other ≠ id) : Mirrors ρ id (s.abort other) t := by
  have hreleased := hm.release_of_ne hne
  rw [abort_eq hc]
  refine ⟨hreleased.1, hreleased.2, hreleased.3, ?_, hreleased.5⟩
  have hother : mirrored CallTag.id id ρ (s.calls.find? other).toList = [] := by
    refine mirrored_of_forall_ne fun tag ht => ?_
    rw [CallTable.find?_id (Option.mem_toList.1 ht)]
    exact hne
  rw [mirrored_append, hother, List.append_nil, hm.cancels]

theorem deliver_of_ne (hm : Mirrors ρ id s t) (hs : Linked s) {tag : CallTag}
    (hne : tag.id ≠ id) : Mirrors ρ id (s.deliver tag) t := by
  by_cases hmem : tag ∈ s.cancels
  case neg => rwa [deliver_of_not_mem hmem]
  case pos =>
    rw [deliver_of_mem hmem, hs.cancels_nodup.erase_eq_filter]
    refine ⟨hm.1, hm.2, hm.3, ?_, ?_⟩
    · rw [hm.cancels]
      refine (mirrored_filter fun other _ hid => ?_).symm
      have hother : other ≠ tag := fun he => hne (he ▸ hid)
      simpa using hother
    · rw [hm.tasks]
      refine (List.map_id _).symm.trans (map_mirrored (fun u => ?_) fun u _ hid => ?_)
      · rw [tag_hear]
      · have hother : u.tag ≠ tag := fun he => hne (he ▸ hid)
        rw [hear, if_neg hother]
        rfl

theorem skip_both (hm : Mirrors ρ id s t) : Mirrors ρ id s.skip t.skip :=
  ⟨hm.1, hm.2, hm.3, hm.4, hm.5⟩

theorem accept (hm : Mirrors ρ id s t) {sub : Submission} (hid : sub.id = id)
    (hfresh : ρ (s.calls.fresh sub.id) = t.calls.fresh sub.id) :
    Mirrors ρ id (s.accept sub) (t.accept sub) where
  closed := by
    rw [Dispatcher.accept, Dispatcher.accept, ActiveSet.shuttingDown_insert,
      ActiveSet.shuttingDown_insert, hm.closed]
  active other := by
    rw [Dispatcher.accept, Dispatcher.accept, ActiveSet.mem_insert, ActiveSet.mem_insert, hm.active,
      hid, or_and_right, and_self]
  live := by
    have hown : mirrored CallTag.id id ρ [s.calls.fresh sub.id] = [t.calls.fresh sub.id] := by
      rw [mirrored_of_forall_eq (by simpa [CallTable.fresh] using hid), List.map_singleton, hfresh]
    rw [Dispatcher.accept, Dispatcher.accept, CallTable.push, CallTable.push, mirrored_append, hown,
      hm.live]
  cancels := hm.cancels
  tasks := by
    have hown : mirrored (·.tag.id) id (retag ρ)
        [{ tag := s.calls.fresh sub.id, submission := sub : Task }] =
          [{ tag := t.calls.fresh sub.id, submission := sub }] := by
      rw [mirrored_of_forall_eq (by simpa [CallTable.fresh] using hid), List.map_singleton, retag,
        hfresh]
    rw [Dispatcher.accept, Dispatcher.accept, mirrored_append, hown, hm.tasks]

theorem release (hm : Mirrors ρ id s t) (hρ : ∀ tag, (ρ tag).id = tag.id) :
    Mirrors ρ id (s.release id) (t.release id) where
  closed := hm.closed
  active other := by
    rw [Dispatcher.release, Dispatcher.release, ActiveSet.mem_erase, ActiveSet.mem_erase,
      hm.active, and_right_comm]
  live := by
    rw [Dispatcher.release, Dispatcher.release, CallTable.without, CallTable.without, hm.live]
    exact filter_mirrored fun tag _ _ => by simp [hρ]
  cancels := hm.cancels
  tasks := hm.tasks

theorem abort (hm : Mirrors ρ id s t) (hρ : ∀ tag, (ρ tag).id = tag.id) (hs : Covered s)
    (ht : Covered t) : Mirrors ρ id (s.abort id) (t.abort id) := by
  have hreleased := hm.release hρ
  rw [abort_eq hs, abort_eq ht]
  refine ⟨hreleased.1, hreleased.2, hreleased.3, ?_, hreleased.5⟩
  have hown : mirrored CallTag.id id ρ (s.calls.find? id).toList =
      (t.calls.find? id).toList := by
    rw [mirrored_of_forall_eq fun tag htag => CallTable.find?_id (Option.mem_toList.1 htag),
      hm.find? hρ]
    cases s.calls.find? id <;> rfl
  rw [mirrored_append, hown, hm.cancels]

theorem submit (hm : Mirrors ρ id s t) (hρ : ∀ tag, (ρ tag).id = tag.id) (hs : Agrees s)
    {env : Environment} {d : Descriptor} (hid : d.id = id)
    (hfresh : s.calls.fresh id ∈ (s.submit env d).2.tags →
      ρ (s.calls.fresh id) = t.calls.fresh id) :
    (t.submit env d).1 = (s.submit env d).1 ∧
      Mirrors ρ id (s.submit env d).2 (t.submit env d).2 := by
  cases hp : (d.prepare env).outcome with
  | error halt =>
    cases halt with
    | failure f =>
      rw [submit_of_failure hp, submit_of_failure hp, hid]
      exact hm.refuse f
    | overrun =>
      rw [submit_of_overrun hp, submit_of_overrun hp]
      exact ⟨rfl, hm⟩
  | ok sub =>
    have hsub : sub.id = id := (id_of_prepare hp).trans hid
    rw [submit_of_ok hp] at hfresh
    rw [submit_of_ok hp, submit_of_ok hp]
    suffices hstart : (t.start sub).1 = (s.start sub).1 ∧
        Mirrors ρ id (s.start sub).2 (t.start sub).2 from
      ⟨congrArg (Entry.prepared sub.request :: ·) hstart.1, hstart.2⟩
    cases hcalled : s.calls.contains id with
    | true =>
      have hcalled' : t.calls.contains id = true := (hm.contains hρ).trans hcalled
      rw [start_of_contains (hsub ▸ hcalled'), start_of_contains (hsub ▸ hcalled), hsub]
      exact hm.refuse _
    | false =>
      have hcalled' : t.calls.contains id = false := (hm.contains hρ).trans hcalled
      have hout : id ∉ s.active := fun hin => by simp [(hs id).1 hin] at hcalled
      have hout' : id ∉ t.active := mt hm.mem_active.1 hout
      cases hdown : s.active.shuttingDown with
      | true =>
        rw [start_of_shuttingDown (hsub ▸ hcalled) (hsub ▸ hout) hdown,
          start_of_shuttingDown (hsub ▸ hcalled') (hsub ▸ hout') (hm.closed.trans hdown), hsub]
        exact hm.skip_both.refuse _
      | false =>
        have hfree : s.Free sub.id := ⟨⟨hsub ▸ hcalled, hsub ▸ hout⟩, hdown⟩
        have hfree' : t.Free sub.id :=
          ⟨⟨hsub ▸ hcalled', hsub ▸ hout'⟩, hm.closed.trans hdown⟩
        rw [start_of_free hfree] at hfresh
        rw [start_of_free hfree, start_of_free hfree']
        have hstarted : s.calls.fresh id ∈ (s.accept sub).tags := by
          simp [Dispatcher.accept, Dispatcher.tags, hsub]
        exact ⟨rfl, hm.accept hsub (hsub ▸ hfresh hstarted)⟩

section Known

variable {known : List CallTag} {tag : CallTag}

theorem dismiss (hm : Mirrors ρ id s t) (hρ : Faithful ρ known)
    (htags : ∀ tag ∈ s.tags, tag ∈ known) (tag : CallTag) :
    Mirrors ρ id (s.dismiss tag) (t.dismiss (ρ tag)) where
  closed := hm.closed
  active := hm.active
  live := hm.live
  cancels := hm.cancels
  tasks := by
    rw [Dispatcher.dismiss, Dispatcher.dismiss, hm.tasks]
    refine filter_mirrored fun u hu _ => ?_
    have hiff := hρ.eq_iff (htags u.tag (List.mem_map_of_mem hu)) tag
    simp [retag, eq_comm, hiff]

theorem deliver (hm : Mirrors ρ id s t) (hs : Linked s) (ht : Linked t) (hρ : Faithful ρ known)
    (htags : ∀ tag ∈ s.tags, tag ∈ known) (hcancels : ∀ tag ∈ s.cancels, tag ∈ known)
    (hid : tag.id = id) : Mirrors ρ id (s.deliver tag) (t.deliver (ρ tag)) := by
  have hmem : ρ tag ∈ t.cancels ↔ tag ∈ s.cancels := by
    rw [hm.cancels]
    exact mem_mirrored hid fun other ho he => hρ.apart other (hcancels other ho) tag he
  by_cases hin : tag ∈ s.cancels
  case neg => rwa [deliver_of_not_mem hin, deliver_of_not_mem (mt hmem.1 hin)]
  case pos =>
    rw [deliver_of_mem hin, deliver_of_mem (hmem.2 hin), hs.cancels_nodup.erase_eq_filter,
      ht.cancels_nodup.erase_eq_filter]
    refine ⟨hm.1, hm.2, hm.3, ?_, ?_⟩
    · rw [hm.cancels]
      refine filter_mirrored fun other ho _ => ?_
      have hiff := hρ.eq_iff (hcancels other ho) tag
      rw [bne, bne, Bool.beq_eq_decide_eq, Bool.beq_eq_decide_eq]
      simp [eq_comm, hiff]
    · rw [hm.tasks]
      refine map_mirrored (fun u => by rw [tag_hear]) fun u hu _ => ?_
      have hiff := hρ.eq_iff (htags u.tag (List.mem_map_of_mem hu)) tag
      by_cases he : tag = u.tag
      · simp [hear, retag, he]
      · have hne : ρ u.tag ≠ ρ tag := fun hsame => he (hiff.1 hsame.symm)
        simp [hear, retag, hne, Ne.symm he]

theorem complete (hm : Mirrors ρ id s t) (hs : Linked s) (hρ : Faithful ρ known)
    (htags : ∀ tag ∈ s.tags, tag ∈ known) (hid : tag.id = id) (o : Outcome) :
    (t.complete (ρ tag) o).1 = (s.complete tag o).1 ∧
      Mirrors ρ id (s.complete tag o).2 (t.complete (ρ tag) o).2 := by
  have hρid : (ρ tag).id = id := (hρ.id_eq tag).trans hid
  have hmem : ρ tag ∈ t.tags ↔ tag ∈ s.tags := by
    rw [hm.tags]
    exact mem_mirrored hid fun other ho he => hρ.apart other (htags other ho) tag he
  have htold : ∀ {u v : Dispatcher}, Mirrors ρ id u v →
      [v.tell (o.event (ρ tag).id)] = [u.tell (o.event tag.id)] := by
    intro u v hm'
    rw [hρid, hid, hm'.tell (o.id_event id)]
  by_cases hin : tag ∈ s.tags
  case neg =>
    rw [complete_of_not_mem hin, complete_of_not_mem (mt hmem.1 hin)]
    exact ⟨rfl, hm⟩
  case pos =>
    have hin' : ρ tag ∈ t.tags := hmem.2 hin
    have hlive : t.calls.find? (ρ tag).id = some (ρ tag) ↔ s.calls.find? tag.id = some tag := by
      rw [hρid, hid, hm.find? hρ.id_eq]
      cases hf : s.calls.find? id with
      | none => simp
      | some other =>
        have hiff := hρ.eq_iff (htags other (hs.mem_tags_of_find? hf)) tag
        simp [eq_comm, hiff]
    by_cases hf : s.calls.find? tag.id = some tag
    · have hm' : Mirrors ρ id ((s.release tag.id).dismiss tag)
          ((t.release (ρ tag).id).dismiss (ρ tag)) := by
        rw [hρid, hid]
        exact (hm.release hρ.id_eq).dismiss hρ htags tag
      rw [complete_of_live hin hf, complete_of_live hin' (hlive.2 hf)]
      exact ⟨htold hm', hm'⟩
    · have hm' := hm.dismiss hρ htags tag
      rw [complete_of_detached hin hf, complete_of_detached hin' (mt hlive.1 hf)]
      exact ⟨htold hm', hm'⟩

end Known

theorem shutdown (hm : Mirrors ρ id s t) (hρ : ∀ tag, (ρ tag).id = tag.id) (hs : Covered s)
    (ht : Covered t) : Mirrors ρ id s.shutdown t.shutdown where
  closed := (Stopped.shutdown ht).closed.trans (Stopped.shutdown hs).closed.symm
  active other := by
    simp [ActiveSet.mem_def, (Stopped.shutdown ht).inactive, (Stopped.shutdown hs).inactive]
  live := by
    rw [(Stopped.shutdown ht).uncalled, (Stopped.shutdown hs).uncalled]
    rfl
  cancels := by
    have hids : ∀ tag ∈ t.shutdown.cancels, tag.id = id := by
      intro tag htag
      have hmem : tag ∈ mirrored CallTag.id id ρ (s.cancels ++ s.calls.live) := by
        rw [mirrored_append, ← hm.cancels, ← hm.live, List.mem_append]
        exact mem_cancels_step (x := .shutdown) htag
      obtain ⟨other, ho, rfl⟩ := List.mem_map.1 hmem
      rw [hρ]
      simpa using (List.mem_filter.1 ho).2
    -- all that is queued on the smaller side is for the identity, so nothing is lost by asking so
    have hall : t.shutdown.cancels = t.shutdown.cancels.filter (·.id = id) :=
      (List.filter_eq_self.2 (by simpa using hids)).symm
    have hbefore : t.cancels.filter (·.id = id) = (s.cancels.filter (·.id = id)).map ρ := by
      rw [hm.cancels, filter_mirrored (q := fun _ => true) fun tag _ hid => by simp [hρ, hid],
        List.filter_true]
      rfl
    have hmem : id ∈ t.active.ids ↔ id ∈ s.active.ids := hm.mem_active
    have ht' : t.shutdown.cancels.filter (·.id = id) = t.cancels.filter (·.id = id) ++
        if id ∈ t.active.ids then (t.calls.find? id).toList else [] := cancels_detachAll _ _ _
    have hs' : s.shutdown.cancels.filter (·.id = id) = s.cancels.filter (·.id = id) ++
        if id ∈ s.active.ids then (s.calls.find? id).toList else [] := cancels_detachAll _ _ _
    rw [hall, ht', mirrored, hs', List.map_append, hbefore, hm.find? hρ]
    by_cases hin : id ∈ s.active.ids
    · rw [if_pos hin, if_pos (hmem.2 hin)]
      cases s.calls.find? id <;> rfl
    · rw [if_neg hin, if_neg (mt hmem.1 hin)]
      rfl
  tasks := by rw [tasks_shutdown, tasks_shutdown, hm.tasks]

end Mirrors

theorem Move.concerns_iff {m : Move} {id : RequestId} :
    m.concerns id = true ↔ ∀ other, m.subject? = some other → other = id := by
  cases h : m.subject? <;> simp [concerns, h]

@[simp] theorem Move.registers_rename (ρ : CallTag → CallTag) (m : Move) :
    (m.rename ρ).registers = m.registers := by
  cases m with
  | ask id => rfl
  | take x => cases x <;> rfl

theorem Mirrors.move_of_ne (hm : Mirrors ρ id s t) (hs : Sound s) {m : Move}
    (hregisters : m.registers = false) (hother : m.concerns id = false) :
    Mirrors ρ id (s.move m).2 t := by
  cases m with
  | ask other => exact hm
  | take x =>
    have hne : ∀ other, x.subject? = some other → other ≠ id := fun other hx => by
      simpa [Move.concerns, Move.subject?, hx] using hother
    cases x with
    | submit env d =>
      have hne' : d.id ≠ id := hne d.id rfl
      exact submit_preserves (P := (Mirrors ρ id · t)) (fun _ h => h.skip)
        (fun _ sub hsub _ h => h.accept_of_ne (hsub ▸ hne')) hm
    | abort other => exact hm.abort_of_ne hs.agrees.covered (hne other rfl)
    | shutdown => cases hother
    | deliver tag => exact hm.deliver_of_ne hs.linked (hne tag.id rfl)
    | complete tag o =>
      have hne' : tag.id ≠ id := hne tag.id rfl
      exact complete_preserves (P := (Mirrors ρ id · t))
        (fun _ => (hm.release_of_ne hne').dismiss_of_ne hne') (fun _ => hm.dismiss_of_ne hne') hm
    | register other => cases hregisters

theorem Mirrors.move {known : List CallTag} (hm : Mirrors ρ id s t) (hs : Sound s) (ht : Sound t)
    (hρ : Faithful ρ known) (htags : ∀ tag ∈ s.tags, tag ∈ known)
    (hcancels : ∀ tag ∈ s.cancels, tag ∈ known) {m : Move} (hregisters : m.registers = false)
    (hown : m.concerns id = true) (hfresh : ∀ tag ∈ s.started m, ρ tag = t.calls.fresh tag.id) :
    (t.move (m.rename ρ)).1 = (s.move m).1 ∧ Mirrors ρ id (s.move m).2 (t.move (m.rename ρ)).2 := by
  have hid := Move.concerns_iff.1 hown
  cases m with
  | ask other =>
    have he : other = id := hid other rfl
    refine ⟨?_, hm⟩
    simp only [Move.rename, Dispatcher.move, hm.closed, he, (hm.refuse .shuttingDown).1]
  | take x =>
    cases x with
    | submit env d =>
      have he : d.id = id := hid d.id rfl
      have hnew : s.calls.fresh id ∉ s.tags := fun hold =>
        Nat.lt_irrefl _ (hs.linked.tags_issued _ hold)
      exact hm.submit hρ.id_eq hs.agrees he fun hin => hfresh _ (mem_started.2 ⟨hin, hnew⟩)
    | abort other =>
      obtain rfl : other = id := hid other rfl
      exact ⟨rfl, hm.abort hρ.id_eq hs.agrees.covered ht.agrees.covered⟩
    | shutdown => exact ⟨rfl, hm.shutdown hρ.id_eq hs.agrees.covered ht.agrees.covered⟩
    | deliver tag =>
      exact ⟨rfl, hm.deliver hs.linked ht.linked hρ htags hcancels (hid tag.id rfl)⟩
    | complete tag o => exact hm.complete hs.linked hρ htags (hid tag.id rfl) o
    | register other => cases hregisters

end Outbound.Dispatcher
