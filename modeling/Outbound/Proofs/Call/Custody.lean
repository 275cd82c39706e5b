import Mathlib.Data.List.Perm.Basic
import Mathlib.Data.List.Nodup
import Mathlib.Data.List.Range
import Outbound.Proofs.Call.Ledger

/-! Where tags and sending ends are. Each tag that was issued is live, released or detached; each
sending end that was detached is under a name, sent or dropped; and what the other end of a line
reads depends on its own sending end alone. The parts of every command keep it so. -/

namespace Outbound.Desk

variable {d : Desk} {h : Ledger} {tag other : CallTag} {name : String} {id : RequestId} {l : Line}

/-- Each tag that was issued is live or has left the table, once; and each sending end that was
taken out is under a name, sent or dropped. -/
structure Custody (d : Desk) (h : Ledger) : Prop where
  generations : h.issued.map (·.generation) = List.range d.table.next
  calls : (d.table.live ++ h.released ++ h.detached).Perm h.issued
  senders : (d.senders.values ++ h.sent ++ h.dropped).Perm h.detached
  names : d.senders.names.Nodup
  ids : (d.table.live.map (·.id)).Nodup
  latest : ∀ tag ∈ d.table.live, (h.issued.filter (·.id = tag.id)).getLast? = some tag
  untagged : ∀ tag ∈ h.untagged, tag ∈ h.issued ∧ tag ∉ d.table.live
  tags : ∀ tag ∈ d.tags.values, tag ∈ h.issued

namespace Custody

theorem new : Custody {} {} where
  generations := rfl
  calls := .nil
  senders := .nil
  names := .nil
  ids := .nil
  latest := by simp
  untagged := by simp
  tags := by simp [Named.values]

theorem issued_nodup (hc : Custody d h) : h.issued.Nodup :=
  .of_map _ (hc.generations ▸ List.nodup_range)

theorem fresh_not_issued (hc : Custody d h) (id : RequestId) : d.table.fresh id ∉ h.issued := by
  intro hmem
  have hrange := List.mem_map_of_mem (f := fun tag : CallTag => tag.generation) hmem
  rw [hc.generations] at hrange
  exact Nat.lt_irrefl _ (List.mem_range.1 hrange)

theorem places_nodup (hc : Custody d h) : (d.table.live ++ h.released ++
    (d.senders.values ++ h.sent ++ h.dropped)).Nodup :=
  ((hc.senders.append_left _).trans hc.calls).nodup_iff.2 hc.issued_nodup

theorem find?_eq_some_iff (hc : Custody d h) :
    d.table.find? tag.id = some tag ↔ tag ∈ d.table.live := by
  constructor
  · exact List.mem_of_find?_eq_some
  · intro hmem
    have hsome : (d.table.find? tag.id).isSome := CallTable.contains_iff.2 ⟨tag, hmem, rfl⟩
    obtain ⟨other, ho⟩ := Option.isSome_iff_exists.1 hsome
    have hsame : other = tag := List.inj_on_of_nodup_map hc.ids (List.mem_of_find?_eq_some ho) hmem
      (CallTable.find?_id ho)
    rw [ho, hsame]

theorem live_perm (hc : Custody d h) (hf : d.table.find? id = some tag) :
    d.table.live.Perm (tag :: (d.table.without id).live) := by
  have hmem : tag ∈ d.table.live := List.mem_of_find?_eq_some hf
  have hid : tag.id = id := CallTable.find?_id hf
  have hkept : (d.table.without id).live = d.table.live.filter (· != tag) := by
    apply List.filter_congr
    intro other ho
    by_cases he : other = tag
    · simp [he, hid]
    · have hother : other.id ≠ id := fun hsame =>
        he (List.inj_on_of_nodup_map hc.ids ho hmem (hsame.trans hid.symm))
      simp [he, hother]
  rw [hkept, ← hc.ids.of_map.erase_eq_filter]
  exact List.perm_cons_erase hmem

theorem freeSender (hc : Custody d h) (name : String) :
    Custody (d.freeSender name)
      { h with dropped := h.dropped ++ (Named.find? d.senders name).toList } where
  generations := by simpa using hc.generations
  calls := by simpa using hc.calls
  senders := by
    have hsenders := (Named.values_perm hc.names name).count_eq
    refine List.perm_iff_count.2 fun tag => ?_
    have hplaces := hc.senders.count_eq tag
    simp only [senders_freeSender, List.count_append, hsenders tag] at hplaces ⊢
    omega
  names := by
    rw [senders_freeSender]
    exact Named.names_erase_nodup hc.names
  ids := by simpa using hc.ids
  latest := by simpa using hc.latest
  untagged := by simpa using hc.untagged
  tags := by simpa using hc.tags

theorem push (hc : Custody d h) (hfree : d.table.contains id = false) (name : String)
    (lines : List (CallTag × Line)) (receivers : Named CallTag) :
    Custody
      { d with
        table := d.table.push id
        tags := d.tags.put name (d.table.fresh id), lines, receivers }
      { h with issued := h.issued ++ [d.table.fresh id] } where
  generations := by
    rw [List.map_append, hc.generations]
    exact List.range_succ.symm
  calls := by
    refine List.perm_iff_count.2 fun tag => ?_
    have hcalls := hc.calls.count_eq tag
    simp only [CallTable.push, List.count_append] at hcalls ⊢
    omega
  senders := hc.senders
  names := hc.names
  ids := by
    have hnew : id ∉ d.table.live.map (·.id) := by
      intro hmem
      obtain ⟨tag, ht, hid⟩ := List.mem_map.1 hmem
      exact CallTable.id_ne_of_mem hfree ht hid
    have hids : (d.table.push id).live.map (·.id) = d.table.live.map (·.id) ++ [id] :=
      List.map_append
    rw [hids]
    exact hc.ids.append (List.nodup_singleton _) (by simpa using hnew)
  latest tag ht := by
    rcases List.mem_append.1 ht with ht | ht
    · have hne : id ≠ tag.id := (CallTable.id_ne_of_mem hfree ht).symm
      have hother : [d.table.fresh id].filter (·.id = tag.id) = [] := by
        simp [CallTable.fresh, hne]
      rw [List.filter_append, hother, List.append_nil]
      exact hc.latest tag ht
    · obtain rfl := List.mem_singleton.1 ht
      have hself : [d.table.fresh id].filter (·.id = (d.table.fresh id).id) =
          [d.table.fresh id] := by simp
      rw [List.filter_append, hself, List.getLast?_concat]
  untagged tag ht := by
    obtain ⟨hissued, hdead⟩ := hc.untagged tag ht
    refine ⟨List.mem_append_left _ hissued, fun hmem => ?_⟩
    rcases List.mem_append.1 hmem with hmem | hmem
    · exact hdead hmem
    · exact hc.fresh_not_issued id (List.mem_singleton.1 hmem ▸ hissued)
  tags tag ht := by
    rcases List.mem_cons.1 ht with rfl | ht
    · exact List.mem_append_right _ (List.mem_singleton.2 rfl)
    · exact List.mem_append_left _ (hc.tags tag (Named.values_erase_sublist.subset ht))

theorem release (hc : Custody d h) (hlive : tag ∈ d.table.live)
    (lines : List (CallTag × Line)) :
    Custody { d with table := d.table.without tag.id, lines }
      { h with untagged := h.untagged ++ [tag], released := h.released ++ [tag] } where
  generations := hc.generations
  calls := by
    have hlost := (hc.live_perm (hc.find?_eq_some_iff.2 hlive)).count_eq
    refine List.perm_iff_count.2 fun other => ?_
    have hcalls := hc.calls.count_eq other
    simp only [List.count_append, List.count_cons, hlost other, List.count_nil] at hcalls ⊢
    omega
  senders := hc.senders
  names := hc.names
  ids := hc.ids.sublist (List.filter_sublist.map _)
  latest other ho := hc.latest other (CallTable.mem_without.1 ho).1
  untagged other ho := by
    rcases List.mem_append.1 ho with ho | ho
    · obtain ⟨hissued, hdead⟩ := hc.untagged other ho
      exact ⟨hissued, fun hmem => hdead (CallTable.mem_without.1 hmem).1⟩
    · obtain rfl := List.mem_singleton.1 ho
      refine ⟨hc.calls.subset ?_, fun hmem => (CallTable.mem_without.1 hmem).2 rfl⟩
      exact List.mem_append_left _ (List.mem_append_left _ hlive)
  tags := hc.tags

theorem spent (hc : Custody d h) (hissued : tag ∈ h.issued) (hdead : tag ∉ d.table.live) :
    Custody d { h with untagged := h.untagged ++ [tag] } where
  generations := hc.generations
  calls := hc.calls
  senders := hc.senders
  names := hc.names
  ids := hc.ids
  latest := hc.latest
  untagged other ho := by
    rcases List.mem_append.1 ho with ho | ho
    · exact hc.untagged other ho
    · rw [List.mem_singleton.1 ho]
      exact ⟨hissued, hdead⟩
  tags := hc.tags

theorem of_lines (hc : Custody d h) (lines : List (CallTag × Line)) (heard : List CallTag) :
    Custody { d with lines } { h with heard } :=
  ⟨hc.1, hc.2, hc.3, hc.4, hc.5, hc.6, hc.7, hc.8⟩

theorem detach (hc : Custody d h) (hf : d.table.find? id = some tag) (name : String)
    (hname : Named.erase d.senders name = d.senders) :
    Custody { d with table := d.table.without id, senders := d.senders.put name tag }
      { h with detached := h.detached ++ [tag] } where
  generations := hc.generations
  calls := by
    have hlost := (hc.live_perm hf).count_eq
    refine List.perm_iff_count.2 fun other => ?_
    have hcalls := hc.calls.count_eq other
    simp only [List.count_append, List.count_cons, hlost other, List.count_nil] at hcalls ⊢
    omega
  senders := by
    refine List.perm_iff_count.2 fun other => ?_
    have hsenders := hc.senders.count_eq other
    simp only [Named.put, hname, Named.values, List.map_cons, List.count_append, List.count_cons,
      List.count_nil] at hsenders ⊢
    omega
  names := Named.names_put_nodup hc.names
  ids := hc.ids.sublist (List.filter_sublist.map _)
  latest other ho := hc.latest other (CallTable.mem_without.1 ho).1
  untagged other ho := by
    obtain ⟨hissued, hdead⟩ := hc.untagged other ho
    exact ⟨hissued, fun hmem => hdead (CallTable.mem_without.1 hmem).1⟩
  tags := hc.tags

theorem send (hc : Custody d h) (hf : Named.find? d.senders name = some tag)
    (lines : List (CallTag × Line)) :
    Custody { d with senders := Named.erase d.senders name, lines }
      { h with sent := h.sent ++ [tag] } where
  generations := hc.generations
  calls := hc.calls
  senders := by
    have hsenders := (Named.values_perm hc.names name).count_eq
    refine List.perm_iff_count.2 fun other => ?_
    have hplaces := hc.senders.count_eq other
    simp only [hf, Option.toList_some, List.count_append, hsenders other] at hplaces ⊢
    omega
  names := Named.names_erase_nodup hc.names
  ids := hc.ids
  latest := hc.latest
  untagged := hc.untagged
  tags := hc.tags

theorem values_nodup (hc : Custody d h) : d.senders.values.Nodup :=
  ((hc.places_nodup.of_append_right).of_append_left).of_append_left

theorem not_held_of_live (hc : Custody d h) (hlive : tag ∈ d.table.live) :
    tag ∉ d.senders.values := by
  intro hheld
  have hdisjoint := List.disjoint_of_nodup_append hc.places_nodup
  exact hdisjoint (List.mem_append_left _ hlive)
    (List.mem_append_left _ (List.mem_append_left _ hheld))

theorem not_sent_of_held (hc : Custody d h) (hheld : tag ∈ d.senders.values) : tag ∉ h.sent :=
  List.disjoint_of_nodup_append
    ((hc.places_nodup.of_append_right).of_append_left) hheld

theorem issued_of_sent (hc : Custody d h) (hsent : tag ∈ h.sent) : tag ∈ h.issued :=
  hc.calls.subset (List.mem_append_right _
    (hc.senders.subset (List.mem_append_left _ (List.mem_append_right _ hsent))))

theorem mem_without (hc : Custody d h) (hf : d.table.find? id = some tag) (hne : other ≠ tag) :
    other ∈ (d.table.without id).live ↔ other ∈ d.table.live := by
  rw [(hc.live_perm hf).mem_iff, List.mem_cons]
  exact (or_iff_right hne).symm

end Custody

/-- A line waits as long as its sending end can still be sent, and carries the signal from when that
is sent until it is heard. -/
def Reads (d : Desk) (h : Ledger) (tag : CallTag) : Prop :=
  ((d.line tag).state = .waiting ↔ tag ∈ d.table.live ∨ tag ∈ d.senders.values) ∧
    ((d.line tag).state = .signalled ↔ tag ∈ h.sent ∧ tag ∉ h.heard)

/-- The lines of the calls that were issued, and the receiving ends that are held under names. -/
structure Wired (d : Desk) (h : Ledger) : Prop where
  keys : d.lines.map (·.1) = h.issued.reverse
  names : d.receivers.names.Nodup
  nodup : d.receivers.values.Nodup
  receivers : ∀ tag ∈ d.receivers.values, tag ∈ h.issued ∧ (d.line tag).heard = true
  reads : ∀ tag ∈ h.issued, (d.line tag).heard = true → d.Reads h tag
  heard : ∀ tag ∈ h.heard, tag ∈ h.sent

theorem Reads.of_same {d' : Desk} {h' : Ledger} (hr : d.Reads h tag)
    (hline : d'.line tag = d.line tag)
    (hkept : (tag ∈ d'.table.live ∨ tag ∈ d'.senders.values) ↔
      (tag ∈ d.table.live ∨ tag ∈ d.senders.values))
    (hsent : tag ∈ h'.sent ↔ tag ∈ h.sent) (hheard : tag ∈ h'.heard ↔ tag ∈ h.heard) :
    d'.Reads h' tag := by
  rw [Reads, hline, hkept, hsent, hheard]
  exact hr

namespace Wired

theorem new : Wired {} {} where
  keys := rfl
  names := .nil
  nodup := .nil
  receivers := by simp [Named.values]
  reads := by simp
  heard := by simp

theorem mem_keys (hw : Wired d h) (ht : tag ∈ h.issued) : tag ∈ d.lines.map (·.1) := by
  rw [hw.keys]
  exact List.mem_reverse.2 ht

theorem freeReceiver (hw : Wired d h) (name : String) : Wired (d.freeReceiver name) h where
  keys := (keys_freeReceiver d name).trans hw.keys
  names := by
    rw [receivers_freeReceiver]
    exact Named.names_erase_nodup hw.names
  nodup := by
    rw [receivers_freeReceiver]
    exact hw.nodup.sublist Named.values_erase_sublist
  receivers tag ht := by
    rw [receivers_freeReceiver] at ht
    obtain ⟨hissued, hheard⟩ := hw.receivers tag (Named.values_erase_sublist.subset ht)
    have hother : Named.find? d.receivers name ≠ some tag := fun hf =>
      Named.not_mem_values_erase hw.names hw.nodup hf ht
    rw [line_freeReceiver (hw.mem_keys hissued) name, if_neg hother]
    exact ⟨hissued, hheard⟩
  reads tag ht hheard := by
    have hline := line_freeReceiver (hw.mem_keys ht) name
    split at hline
    · rw [hline] at hheard
      cases hheard
    · rw [hline] at hheard
      exact (hw.reads tag ht hheard).of_same hline (by simp) .rfl .rfl
  heard := hw.heard

theorem freeSender (hw : Wired d h) (hc : Custody d h) (name : String) :
    Wired (d.freeSender name)
      { h with dropped := h.dropped ++ (Named.find? d.senders name).toList } where
  keys := (keys_freeSender d name).trans hw.keys
  names := by simpa using hw.names
  nodup := by simpa using hw.nodup
  receivers tag ht := by
    rw [receivers_freeSender] at ht
    obtain ⟨hissued, hheard⟩ := hw.receivers tag ht
    refine ⟨hissued, ?_⟩
    rw [line_freeSender (hw.mem_keys hissued) name]
    split <;> exact hheard
  reads tag ht hheard := by
    have hline := line_freeSender (hw.mem_keys ht) name
    by_cases hf : Named.find? d.senders name = some tag
    · rw [if_pos hf] at hline
      have hr := hw.reads tag ht (by rwa [hline] at hheard)
      have hheld : tag ∈ d.senders.values := Named.mem_values_of_find? hf
      obtain ⟨hnotwaiting, hsignalled⟩ := (d.line tag).dropSender_state
      rw [Reads, hline]
      refine ⟨iff_of_false hnotwaiting ?_, hsignalled.trans hr.2⟩
      rw [table_freeSender, senders_freeSender]
      rintro (hlive | hleft)
      · exact hc.not_held_of_live hlive hheld
      · exact Named.not_mem_values_erase hc.names hc.values_nodup hf hleft
    · rw [if_neg hf] at hline
      have hr := hw.reads tag ht (by rwa [hline] at hheard)
      refine hr.of_same hline ?_ .rfl .rfl
      rw [table_freeSender, senders_freeSender, Named.mem_values_erase hc.names hf]
  heard := hw.heard

theorem push (hw : Wired d h) (hc : Custody d h) (id : RequestId) (name : String)
    (tags : Named CallTag) :
    Wired
      { d with
        table := d.table.push id, tags
        lines := (d.table.fresh id, {}) :: d.lines
        receivers := d.receivers.put name (d.table.fresh id) }
      { h with issued := h.issued ++ [d.table.fresh id] } where
  keys := by
    rw [List.reverse_append, List.map_cons, hw.keys]
    rfl
  names := Named.names_put_nodup hw.names
  nodup := by
    have hnew : d.table.fresh id ∉ (Named.erase d.receivers name).values := fun hmem =>
      hc.fresh_not_issued id (hw.receivers _ (Named.values_erase_sublist.subset hmem)).1
    exact List.nodup_cons.2 ⟨hnew, hw.nodup.sublist Named.values_erase_sublist⟩
  receivers tag ht := by
    rcases List.mem_cons.1 ht with rfl | ht
    · refine ⟨List.mem_append_right _ (List.mem_singleton.2 rfl), ?_⟩
      exact congrArg Line.heard (line_cons_self d _ {} d.lines)
    · obtain ⟨hissued, hheard⟩ := hw.receivers tag (Named.values_erase_sublist.subset ht)
      have hne : tag ≠ d.table.fresh id := fun he => hc.fresh_not_issued id (he ▸ hissued)
      refine ⟨List.mem_append_left _ hissued, ?_⟩
      exact (congrArg Line.heard (line_cons_of_ne hne {})).trans hheard
  reads tag ht hheard := by
    by_cases he : tag = d.table.fresh id
    · subst he
      have hline := line_cons_self d (d.table.fresh id) {} d.lines
      refine ⟨iff_of_true (congrArg Line.state hline) (.inl ?_), iff_of_false ?_ fun hsent => ?_⟩
      · exact List.mem_append_right _ (List.mem_singleton.2 rfl)
      · exact fun hstate => absurd ((congrArg Line.state hline).symm.trans hstate) (by decide)
      · exact hc.fresh_not_issued id (hc.issued_of_sent hsent.1)
    · have hissued : tag ∈ h.issued := by simpa [he] using ht
      have hline := line_cons_of_ne (d := d) he {}
      have hr := hw.reads tag hissued ((congrArg Line.heard hline).symm.trans hheard)
      refine hr.of_same hline ?_ .rfl .rfl
      simp [CallTable.push, he]
  heard := hw.heard

theorem setLine (hw : Wired d h) (ht : tag ∈ h.issued) (hheard : l.heard = (d.line tag).heard)
    {d' : Desk} {h' : Ledger} (hlines : d'.lines = (d.setLine tag l).lines)
    (hreceivers : d'.receivers = d.receivers) (hissued : h'.issued = h.issued)
    (hself : (d.line tag).heard = true → d'.line tag = l → d'.Reads h' tag)
    (hother : ∀ other, other ≠ tag → d'.line other = d.line other → d.Reads h other →
      d'.Reads h' other)
    (hheards : ∀ other ∈ h'.heard, other ∈ h'.sent) : Wired d' h' := by
  have hline : d'.line tag = l := by
    rw [line, hlines]
    exact line_setLine_self (hw.mem_keys ht)
  have hlines' : ∀ other, other ≠ tag → d'.line other = d.line other := by
    intro other hne
    rw [line, hlines]
    exact line_setLine_of_ne hne
  have hheard' : ∀ other, (d'.line other).heard = (d.line other).heard := by
    intro other
    by_cases he : other = tag
    · rw [he, hline, hheard]
    · rw [hlines' other he]
  constructor
  case keys => rw [hlines, keys_setLine, hissued, hw.keys]
  case names => rw [hreceivers]; exact hw.names
  case nodup => rw [hreceivers]; exact hw.nodup
  case receivers =>
    intro other ho
    rw [hreceivers] at ho
    rw [hissued, hheard']
    exact hw.receivers other ho
  case reads =>
    intro other ho hopen
    rw [hissued] at ho
    rw [hheard'] at hopen
    by_cases he : other = tag
    · rw [he] at hopen ⊢
      exact hself hopen hline
    · exact hother other he (hlines' other he) (hw.reads other ho hopen)
  case heard => exact hheards

theorem release (hw : Wired d h) (hc : Custody d h) (hlive : tag ∈ d.table.live) :
    Wired (dropSenderOf { d with table := d.table.without tag.id } tag)
      { h with untagged := h.untagged ++ [tag], released := h.released ++ [tag] } := by
  have hissued : tag ∈ h.issued :=
    hc.calls.subset (List.mem_append_left _ (List.mem_append_left _ hlive))
  have hf : d.table.find? tag.id = some tag := hc.find?_eq_some_iff.2 hlive
  refine hw.setLine hissued (l := (d.line tag).dropSender) rfl rfl rfl rfl ?_ ?_ hw.heard
  · intro hheard hline
    obtain ⟨hnotwaiting, hsignalled⟩ := (d.line tag).dropSender_state
    rw [Reads, hline]
    refine ⟨iff_of_false hnotwaiting ?_, hsignalled.trans (hw.reads tag hissued hheard).2⟩
    rintro (hleft | hheld)
    · exact (CallTable.mem_without.1 hleft).2 rfl
    · exact hc.not_held_of_live hlive hheld
  · intro other hne hline hr
    exact hr.of_same hline (or_congr_left (hc.mem_without hf hne)) .rfl .rfl

theorem detach (hw : Wired d h) (hc : Custody d h) (hf : d.table.find? id = some tag)
    (name : String) (hname : Named.erase d.senders name = d.senders) :
    Wired { d with table := d.table.without id, senders := d.senders.put name tag }
      { h with detached := h.detached ++ [tag] } where
  keys := hw.keys
  names := hw.names
  nodup := hw.nodup
  receivers := hw.receivers
  reads other ho hheard := by
    have hlive : tag ∈ d.table.live := List.mem_of_find?_eq_some hf
    have hvalues : (d.senders.put name tag).values = tag :: d.senders.values := by
      rw [Named.put, hname]
      rfl
    refine (hw.reads other ho hheard).of_same rfl ?_ .rfl .rfl
    simp only [hvalues, List.mem_cons]
    by_cases he : other = tag
    · simp [he, hlive]
    · simp [he, hc.mem_without hf he]
  heard := hw.heard

theorem send (hw : Wired d h) (hc : Custody d h) (hf : Named.find? d.senders name = some tag) :
    Wired { d.setLine tag (d.line tag).send.2 with senders := Named.erase d.senders name }
      { h with sent := h.sent ++ [tag] } := by
  have hheld : tag ∈ d.senders.values := Named.mem_values_of_find? hf
  have hissued : tag ∈ h.issued := hc.calls.subset (List.mem_append_right _
    (hc.senders.subset (List.mem_append_left _ (List.mem_append_left _ hheld))))
  have hunsent : tag ∉ h.sent := hc.not_sent_of_held hheld
  refine hw.setLine hissued (l := (d.line tag).send.2) (Line.heard_send _) rfl rfl rfl ?_ ?_ ?_
  · intro hheard hline
    have hstate := Line.send_state hheard
    rw [Reads, hline, hstate]
    refine ⟨iff_of_false (by decide) ?_, iff_of_true rfl ⟨?_, fun hin => ?_⟩⟩
    · rintro (hlive | hleft)
      · exact hc.not_held_of_live hlive hheld
      · exact Named.not_mem_values_erase hc.names hc.values_nodup hf hleft
    · exact List.mem_append_right _ (List.mem_singleton.2 rfl)
    · exact hunsent (hw.heard tag hin)
  · intro other hne hline hr
    have hother : Named.find? d.senders name ≠ some other := fun hsome =>
      hne (Option.some.inj (hsome.symm.trans hf))
    exact hr.of_same hline (or_congr_right (Named.mem_values_erase hc.names hother))
      (by simp [hne]) .rfl
  · exact fun other ho => List.mem_append_left _ (hw.heard other ho)

theorem check (hw : Wired d h) (hf : Named.find? d.receivers name = some tag) :
    Wired (d.setLine tag (d.line tag).read.2)
      (if (d.line tag).state = .signalled then { h with heard := h.heard ++ [tag] } else h) := by
  obtain ⟨hissued, hopen⟩ := hw.receivers tag (Named.mem_values_of_find? hf)
  have hr := hw.reads tag hissued hopen
  obtain ⟨hwaiting, hquiet⟩ := (d.line tag).read_state
  by_cases hsignal : (d.line tag).state = .signalled
  · rw [if_pos hsignal]
    refine hw.setLine hissued (l := (d.line tag).read.2) rfl rfl rfl rfl ?_ ?_ ?_
    · intro _ hline
      rw [Reads, hline]
      exact ⟨hwaiting.trans hr.1, iff_of_false hquiet fun h' => h'.2 (by simp)⟩
    · exact fun other hne hline hr => hr.of_same hline .rfl .rfl (by simp [hne])
    · intro other ho
      rcases List.mem_append.1 ho with ho | ho
      · exact hw.heard other ho
      · rw [List.mem_singleton.1 ho]
        exact (hr.2.1 hsignal).1
  · rw [if_neg hsignal]
    refine hw.setLine hissued (l := (d.line tag).read.2) rfl rfl rfl rfl ?_ ?_ hw.heard
    · intro _ hline
      rw [Reads, hline]
      exact ⟨hwaiting.trans hr.1, iff_of_false hquiet fun h' => hsignal (hr.2.2 h')⟩
    · exact fun other _ hline hr => hr.of_same hline .rfl .rfl .rfl

end Wired

end Outbound.Desk
