import Mathlib.Data.List.Infix
import Mathlib.Data.List.Nodup
import Outbound.Proofs.Traffic.Books

/-! Calls that alternate in any order. The call table is safe whatever comes in between, since a call
is released by its own tag. The active set knows identities only: a completion that is between its
two operations when an abort of its identity is, too, will take out the next call instead of its own.
As long as the two do not meet, every operation takes effect, and the tables agree. -/

namespace Outbound

namespace Phase

def id : Phase → RequestId
  | .registering tag | .withdrawing tag | .running tag | .unregistering tag => tag.id
  | .detaching id => id

def tag? : Phase → Option CallTag
  | .registering tag | .withdrawing tag | .running tag | .unregistering tag => some tag
  | .detaching _ => none

def completes? : Phase → Option CallTag
  | .running tag | .unregistering tag => some tag
  | _ => none

end Phase

namespace Traffic

open Phase

variable {s : Traffic} {p : Phase} {id : RequestId} {tag : CallTag}

/-- No identity has a completion and an abort that are both between their operations. -/
def Apart (s : Traffic) : Prop := ∀ p ∈ s.phases, s.leaving p.id = 0 ∨ s.detaching p.id = 0

instance (s : Traffic) : Decidable s.Apart :=
  inferInstanceAs (Decidable (∀ p ∈ s.phases, s.leaving p.id = 0 ∨ s.detaching p.id = 0))

theorem Apart.leaving_or_detaching (h : s.Apart) (id : RequestId) :
    s.leaving id = 0 ∨ s.detaching id = 0 := by
  by_contra hboth
  obtain ⟨hleaving, -⟩ := not_or.1 hboth
  obtain ⟨p, hp, hid⟩ := List.countP_pos_iff.1 (Nat.pos_of_ne_zero hleaving)
  cases p with
  | unregistering tag =>
    obtain rfl : id = tag.id := by simpa using hid
    exact hboth (h _ hp)
  | _ => cases hid

theorem kind_eq_false {ps : List Phase} {kind : Phase → Bool} (h : ps.countP kind = 0)
    (hp : p ∈ ps) : kind p = false := Bool.eq_false_iff.2 (List.countP_eq_zero.1 h p hp)

theorem entering_pos (hp : p ∈ s.phases) (h : p.enters id = true) : 0 < s.entering id :=
  List.countP_pos_iff.2 ⟨p, hp, h⟩

theorem leaving_pos (hp : .unregistering tag ∈ s.phases) : 0 < s.leaving tag.id :=
  List.countP_pos_iff.2 ⟨_, hp, by simp⟩

theorem detaching_pos (hp : .detaching id ∈ s.phases) : 0 < s.detaching id :=
  List.countP_pos_iff.2 ⟨_, hp, by simp⟩

def tags (s : Traffic) : List CallTag := s.phases.filterMap tag?

/-- No two phases carry one tag, and none carries a tag that is still to come. -/
structure Numbered (s : Traffic) : Prop where
  nodup : s.tags.Nodup
  issued : ∀ tag ∈ s.tags, tag.generation < s.calls.next

theorem tags_perm (hp : p ∈ s.phases) :
    s.tags.Perm (p.tag?.toList ++ (s.phases.erase p).filterMap tag?) := by
  refine ((List.perm_cons_erase hp).filterMap tag?).trans ?_
  cases h : p.tag? <;> simp [h]

theorem exists_advance (s : Traffic) (p : Phase) :
    ∃ next, (s.advance p).2.phases = next ++ s.phases.erase p ∧
      (next = [] ∨ ∃ q, next = [q] ∧ q.tag? = p.tag?) := by
  cases p with
  | registering tag =>
    refine ⟨_, rfl, .inr ⟨_, rfl, ?_⟩⟩
    split <;> rfl
  | running tag =>
    refine ⟨_, rfl, ?_⟩
    split
    · exact .inr ⟨_, rfl, rfl⟩
    · exact .inl rfl
  | _ => exact ⟨[], rfl, .inl rfl⟩

theorem tags_advance (s : Traffic) (p : Phase) :
    (s.advance p).2.tags.Sublist (p.tag?.toList ++ (s.phases.erase p).filterMap tag?) := by
  obtain ⟨next, hphases, rfl | ⟨q, rfl, hq⟩⟩ := exists_advance s p
  · rw [tags, hphases]
    exact List.sublist_append_right _ _
  · rw [tags, hphases, List.filterMap_append, ← hq]
    cases h : q.tag? <;> simp [h]

theorem next_advance (s : Traffic) (p : Phase) : (s.advance p).2.calls.next = s.calls.next := by
  cases p with
  | withdrawing tag => exact CallTable.next_untag s.calls tag
  | running tag => exact CallTable.next_untag s.calls tag
  | _ => rfl

namespace Numbered

theorem new : Numbered {} := ⟨.nil, by simp [tags]⟩

theorem perform (hn : s.Numbered) (m : Move) : (s.perform m).2.Numbered := by
  cases m with
  | dispatch id =>
    cases hcalled : s.calls.contains id with
    | true => rwa [perform_dispatch_of_contains hcalled]
    | false =>
      rw [perform_dispatch_of_free hcalled]
      have hnew : s.calls.fresh id ∉ s.tags := fun hmem => Nat.lt_irrefl _ (hn.issued _ hmem)
      refine ⟨List.nodup_cons.2 ⟨hnew, hn.nodup⟩, fun tag htag => ?_⟩
      rcases List.mem_cons.1 htag with rfl | htag
      · exact Nat.lt_succ_self _
      · exact Nat.lt_succ_of_lt (hn.issued tag htag)
  | abort id =>
    cases hin : s.active.contains id with
    | true =>
      rw [perform_abort_of_contains hin]
      exact ⟨hn.nodup, hn.issued⟩
    | false => rwa [perform_abort_of_not_contains hin]
  | advance p =>
    by_cases hp : p ∈ s.phases
    · rw [perform_advance_of_mem hp]
      have hsub := tags_advance s p
      refine ⟨((tags_perm hp).nodup_iff.1 hn.nodup).sublist hsub, fun tag htag => ?_⟩
      rw [next_advance]
      exact hn.issued tag ((tags_perm hp).mem_iff.2 (hsub.subset htag))
    · rwa [perform_advance_of_not_mem hp]

theorem eq_of_tag (hn : s.Numbered) (hp : p ∈ s.phases) (htag : p.tag? = some tag) {q : Phase}
    (hmem : q ∈ s.phases) (hq : q.tag? = some tag) : q = p := by
  by_contra hne
  have hnodup := (tags_perm hp).nodup_iff.1 hn.nodup
  rw [htag, Option.toList_some, List.singleton_append, List.nodup_cons] at hnodup
  exact hnodup.1 (List.mem_filterMap.2 ⟨q, (List.mem_erase_of_ne hne).2 hmem, hq⟩)

end Numbered

/-- A call that is entering is live, one that is leaving is active, and one that is to be detached
is not. -/
def Fits (active : ActiveSet) (calls : CallTable) : Phase → Prop
  | .registering tag | .withdrawing tag => calls.find? tag.id = some tag
  | .running _ => True
  | .unregistering tag => active.contains tag.id = true
  | .detaching id => active.contains id = false

namespace Fits

variable {active : ActiveSet} {calls : CallTable}

theorem insert (h : Fits active calls p) (hp : p.detaches id = false) :
    Fits (active.insert id) calls p := by
  cases p with
  | unregistering tag => simpa [Fits, ActiveSet.contains_insert] using .inl h
  | detaching other =>
    have hne : other ≠ id := fun e => by simp [e] at hp
    simpa [Fits, ActiveSet.contains_insert, hne] using h
  | _ => exact h

theorem erase (h : Fits active calls p) (hp : p.leaves id = false) :
    Fits (active.erase id) calls p := by
  cases p with
  | unregistering tag =>
    have hne : tag.id ≠ id := fun e => by simp [e] at hp
    simpa [Fits, ActiveSet.contains_erase, hne] using h
  | detaching other =>
    have hout : active.contains other = false := h
    simp [Fits, ActiveSet.contains_erase, hout]
  | _ => exact h

theorem without (h : Fits active calls p) (hp : p.enters id = false) :
    Fits active (calls.without id) p := by
  have hkeep (tag : CallTag) (hne : id ≠ tag.id) (htag : calls.find? tag.id = some tag) :
      (calls.without id).find? tag.id = some tag :=
    (CallTable.find?_without_of_ne calls hne.symm).trans htag
  cases p with
  | registering tag => exact hkeep tag (by simpa using hp) h
  | withdrawing tag => exact hkeep tag (by simpa using hp) h
  | _ => exact h

theorem push (h : Fits active calls p) (hid : calls.contains id = false) :
    Fits active (calls.push id) p := by
  have hkeep (tag : CallTag) (htag : calls.find? tag.id = some tag) :
      (calls.push id).find? tag.id = some tag := by
    have hne : tag.id ≠ id := fun e => by simp [CallTable.contains, ← e, htag] at hid
    exact (CallTable.find?_push_of_ne hne).trans htag
  cases p with
  | registering tag => exact hkeep tag h
  | withdrawing tag => exact hkeep tag h
  | _ => exact h

end Fits

structure Settled (s : Traffic) : Prop where
  numbered : s.Numbered
  fits : ∀ p ∈ s.phases, Fits s.active s.calls p
  balance : ∀ id, s.debit id = s.credit id

namespace Settled

theorem new : Settled {} := ⟨.new, by simp, fun _ => rfl⟩

theorem books (hs : s.Settled) (id : RequestId) :
    (s.active.contains id).toNat + s.entering id + s.detaching id =
      (s.calls.contains id).toNat + s.leaving id := hs.balance id

theorem fits_erase (hs : s.Settled) {q : Phase} (hq : q ∈ s.phases.erase p) :
    Fits s.active s.calls q := hs.fits q (List.mem_of_mem_erase hq)

theorem find?_of_enters (hs : s.Settled) (hp : p ∈ s.phases) (h : p.enters id = true) :
    ∃ tag, p.tag? = some tag ∧ s.calls.find? id = some tag := by
  have hfits := hs.fits p hp
  cases p with
  | registering tag =>
    obtain rfl : id = tag.id := by simpa using h
    exact ⟨tag, rfl, hfits⟩
  | withdrawing tag =>
    obtain rfl : id = tag.id := by simpa using h
    exact ⟨tag, rfl, hfits⟩
  | _ => cases h

theorem contains_of_entering (hs : s.Settled) (h : 0 < s.entering id) :
    s.calls.contains id = true := by
  obtain ⟨p, hp, hid⟩ := List.countP_pos_iff.1 h
  obtain ⟨tag, -, hfind⟩ := hs.find?_of_enters hp hid
  exact CallTable.contains_of_find? hfind

theorem entering_le_one (hs : s.Settled) (id : RequestId) : s.entering id ≤ 1 := by
  rcases Nat.eq_zero_or_pos (s.entering id) with hzero | hpos
  · omega
  obtain ⟨p, hp, hid⟩ := List.countP_pos_iff.1 hpos
  obtain ⟨tag, -, hfind⟩ := hs.find?_of_enters hp hid
  have hsame : ∀ q ∈ s.phases, q.enters id = true →
      (q.tag?.map (· == tag)).getD false = true := by
    intro q hq hqid
    obtain ⟨other, hother, hfind'⟩ := hs.find?_of_enters hq hqid
    obtain rfl : tag = other := Option.some.inj (hfind.symm.trans hfind')
    simp [hother]
  calc s.entering id ≤ s.phases.countP (fun q => (q.tag?.map (· == tag)).getD false) :=
        List.countP_mono_left hsame
    _ = s.tags.count tag := List.countP_filterMap.symm
    _ ≤ 1 := List.nodup_iff_count_le_one.1 hs.numbered.nodup tag

theorem entering_of_running (hs : s.Settled) (hp : .running tag ∈ s.phases)
    (hlive : s.calls.find? tag.id = some tag) : s.entering tag.id = 0 := by
  by_contra hne
  obtain ⟨q, hq, hid⟩ := List.countP_pos_iff.1 (Nat.pos_of_ne_zero hne)
  obtain ⟨other, hother, hfind⟩ := hs.find?_of_enters hq hid
  obtain rfl : tag = other := Option.some.inj (hlive.symm.trans hfind)
  obtain rfl : q = .running tag := hs.numbered.eq_of_tag hp rfl hq hother
  cases hid

theorem of_leaving (hs : s.Settled) (ha : s.Apart) (h : 0 < s.leaving id) :
    s.detaching id = 0 ∧ s.leaving id = 1 ∧ s.active.contains id = true := by
  have hdetaching : s.detaching id = 0 := (ha.leaving_or_detaching id).resolve_left h.ne'
  have hbooks := hs.books id
  have hentering := hs.entering_le_one id
  have hlive : 0 < s.entering id → (s.calls.contains id).toNat = 1 := fun hpos =>
    Bool.toNat_eq_one.2 (hs.contains_of_entering hpos)
  have hactive : (s.active.contains id).toNat ≤ 1 := Bool.toNat_le _
  exact ⟨hdetaching, by omega, Bool.toNat_eq_one.1 (by omega)⟩

theorem of_detaching (hs : s.Settled) (ha : s.Apart) (h : 0 < s.detaching id) :
    s.entering id = 0 ∧ s.calls.contains id = true := by
  have hleaving : s.leaving id = 0 := (ha.leaving_or_detaching id).resolve_right h.ne'
  have hbooks := hs.books id
  have hlive : (s.calls.contains id).toNat ≤ 1 := Bool.toNat_le _
  exact ⟨by omega, Bool.toNat_eq_one.1 (by omega)⟩

theorem contains_of_running (hs : s.Settled) (hp : .running tag ∈ s.phases)
    (hlive : s.calls.find? tag.id = some tag) (hdetaching : s.detaching tag.id = 0) :
    s.active.contains tag.id = true := by
  have hentering := hs.entering_of_running hp hlive
  have hcalls : s.calls.contains tag.id = true := CallTable.contains_of_find? hlive
  have hbooks := hs.books tag.id
  rw [hcalls, Bool.toNat_true] at hbooks
  have hactive : (s.active.contains tag.id).toNat ≤ 1 := Bool.toNat_le _
  exact Bool.toNat_eq_one.1 (by omega)

theorem fits_advance (hs : s.Settled) (ha : s.Apart) (ha' : (s.advance p).2.Apart)
    (hp : p ∈ s.phases) :
    ∀ q ∈ (s.advance p).2.phases, Fits (s.advance p).2.active (s.advance p).2.calls q := by
  have hfits := hs.fits p hp
  cases p with
  | registering tag =>
    have hentering : 0 < s.entering tag.id := entering_pos hp (by simp)
    have hdetaching : s.detaching tag.id = 0 := by
      by_contra hne
      have hnone := (hs.of_detaching ha (Nat.pos_of_ne_zero hne)).1
      omega
    cases hin : s.active.contains tag.id with
    | false =>
      rw [advance_registering_of_free hin]
      refine List.forall_mem_append.2 ⟨by simp [Fits], fun q hq => (hs.fits_erase hq).insert ?_⟩
      exact kind_eq_false hdetaching (List.mem_of_mem_erase hq)
    | true =>
      rw [advance_registering_of_taken hin]
      refine List.forall_mem_append.2 ⟨?_, fun q hq => hs.fits_erase hq⟩
      simpa [Fits] using hfits
  | withdrawing tag =>
    rw [advance_withdrawing_of_find? hfits]
    refine List.forall_mem_append.2 ⟨by simp, fun q hq => (hs.fits_erase hq).without ?_⟩
    have hone := hs.entering_le_one tag.id
    rw [entering, countP_phases hp] at hone
    exact kind_eq_false (by simpa using hone) hq
  | running tag =>
    by_cases hlive : s.calls.find? tag.id = some tag
    · have hentering := hs.entering_of_running hp hlive
      rw [advance_running_of_find? hlive] at ha' ⊢
      refine List.forall_mem_append.2 ⟨?_, fun q hq => (hs.fits_erase hq).without ?_⟩
      · -- an abort of this identity would now be between its operations together with this call
        have hdetaching : s.detaching tag.id = 0 := by
          have hapart := ha' (.unregistering tag) (by simp)
          simpa [leaving, detaching, List.countP_cons, Phase.id, countP_phases hp] using hapart
        have hin : s.active.contains tag.id = true := hs.contains_of_running hp hlive hdetaching
        simpa [Fits] using hin
      · exact kind_eq_false hentering (List.mem_of_mem_erase hq)
    · rw [advance_running_of_find?_ne hlive]
      exact List.forall_mem_append.2 ⟨by simp, fun q hq => hs.fits_erase hq⟩
  | unregistering tag =>
    rw [advance_unregistering]
    refine List.forall_mem_append.2 ⟨by simp, fun q hq => (hs.fits_erase hq).erase ?_⟩
    have hone := (hs.of_leaving ha (leaving_pos hp)).2.1
    rw [leaving, countP_phases hp] at hone
    exact kind_eq_false (by simpa using hone) hq
  | detaching id =>
    rw [advance_detaching]
    refine List.forall_mem_append.2 ⟨by simp, fun q hq => (hs.fits_erase hq).without ?_⟩
    have hentering := (hs.of_detaching ha (detaching_pos hp)).1
    exact kind_eq_false hentering (List.mem_of_mem_erase hq)

theorem advance_fst (hs : s.Settled) (ha : s.Apart) (hp : p ∈ s.phases) (id : RequestId)
    (h : (p.withdraws id || p.leaves id || p.detaches id) = true) : (s.advance p).1 = true := by
  have hfits := hs.fits p hp
  cases p with
  | withdrawing tag => rw [advance_withdrawing_of_find? hfits]
  | unregistering tag => exact hfits
  | detaching other => exact (hs.of_detaching ha (detaching_pos hp)).2
  | _ => cases h

theorem missed_advance (hs : s.Settled) (ha : s.Apart) (hp : p ∈ s.phases) (id : RequestId)
    {kind : Phase → Bool}
    (hkind : kind p = true → (p.withdraws id || p.leaves id || p.detaches id) = true) :
    missed kind [(p, (s.advance p).1)] = 0 := by
  cases h : kind p with
  | false => simp [missed, h]
  | true => simp [missed, hs.advance_fst ha hp id (hkind h)]

protected theorem advance (hs : s.Settled) (ha : s.Apart) (ha' : (s.advance p).2.Apart)
    (hp : p ∈ s.phases) : (s.advance p).2.Settled where
  numbered := by simpa [perform_advance_of_mem hp] using hs.numbered.perform (.advance p)
  fits := hs.fits_advance ha ha' hp
  balance id := by
    refine (balances_advance hp id).eq ?_ ?_ ?_ (hs.balance id) <;>
      exact hs.missed_advance ha hp id (by simp +contextual)

protected theorem perform (hs : s.Settled) (m : Move) (ha : s.Apart)
    (ha' : (s.perform m).2.Apart) : (s.perform m).2.Settled := by
  have hnumbered := hs.numbered.perform m
  have hbalance := balances_perform s m
  cases m with
  | dispatch id =>
    cases hcalled : s.calls.contains id with
    | true => rwa [perform_dispatch_of_contains hcalled]
    | false =>
      rw [perform_dispatch_of_free hcalled] at hnumbered hbalance ⊢
      have hfits : ∀ q ∈ s.phases, Fits s.active (s.calls.push id) q := fun q hq =>
        (hs.fits q hq).push hcalled
      exact ⟨hnumbered, List.forall_mem_cons.2 ⟨CallTable.find?_push_self hcalled, hfits⟩,
        fun other => (hbalance other).eq rfl rfl rfl (hs.balance other)⟩
  | abort id =>
    cases hin : s.active.contains id with
    | true =>
      rw [perform_abort_of_contains hin] at hnumbered hbalance ha' ⊢
      have hleaving : s.leaving id = 0 := by
        have hapart := ha' (.detaching id) (by simp)
        simpa [leaving, detaching, List.countP_cons, Phase.id] using hapart
      have hfits : ∀ q ∈ s.phases, Fits (s.active.erase id) s.calls q := fun q hq =>
        (hs.fits q hq).erase (kind_eq_false hleaving hq)
      exact ⟨hnumbered, List.forall_mem_cons.2 ⟨by simp [Fits, ActiveSet.contains_erase], hfits⟩,
        fun other => (hbalance other).eq rfl rfl rfl (hs.balance other)⟩
    | false => rwa [perform_abort_of_not_contains hin]
  | advance p =>
    by_cases hp : p ∈ s.phases
    · rw [perform_advance_of_mem hp] at ha' ⊢
      exact hs.advance ha ha' hp
    · rwa [perform_advance_of_not_mem hp]

theorem performAll (hs : s.Settled) (ms : List Move)
    (ha : ∀ before, before <+: ms → (s.performAll before).2.Apart) :
    (s.performAll ms).2.Settled := by
  induction ms generalizing s with
  | nil => exact hs
  | cons m ms ih =>
    have hbefore : s.Apart := ha [] List.nil_prefix
    have hafter : (s.perform m).2.Apart := ha [m] (by simp)
    exact ih (hs.perform m hbefore hafter) fun before hinit =>
      ha (m :: before) (List.cons_prefix_cons.2 ⟨rfl, hinit⟩)

end Settled

theorem find?_advance_of_completes {other : CallTag} (hp : p.completes? = some other)
    (hne : other ≠ tag) (hlive : s.calls.find? tag.id = some tag) :
    (s.advance p).2.calls.find? tag.id = some tag := by
  cases p with
  | running own =>
    obtain rfl : own = other := Option.some.inj hp
    by_cases hown : s.calls.find? own.id = some own
    · have hid : tag.id ≠ own.id := fun e =>
        hne (Option.some.inj (hown.symm.trans (e ▸ hlive)))
      rw [advance_running_of_find? hown]
      exact (CallTable.find?_without_of_ne s.calls hid).trans hlive
    · rwa [advance_running_of_find?_ne hown]
  | unregistering own => exact hlive
  | _ => cases hp

theorem Settled.contains_advance_of_completes (hs : s.Settled) (ha : s.Apart) (hmem : p ∈ s.phases)
    {other : CallTag} (hp : p.completes? = some other) (hrunning : .running tag ∈ s.phases)
    (hlive : s.calls.find? tag.id = some tag) (hin : s.active.contains tag.id = true) :
    (s.advance p).2.active.contains tag.id = true := by
  cases p with
  | running own =>
    by_cases hown : s.calls.find? own.id = some own
    · rwa [advance_running_of_find? hown]
    · rwa [advance_running_of_find?_ne hown]
  | unregistering own =>
    have hid : tag.id ≠ own.id := by
      intro e
      -- the entry that the other call still has would be one too many
      have hleaving : 0 < s.leaving tag.id := e ▸ leaving_pos hmem
      have hdetaching := (hs.of_leaving ha hleaving).1
      have hentering := hs.entering_of_running hrunning hlive
      have hbooks := hs.books tag.id
      have hcalls : s.calls.contains tag.id = true := CallTable.contains_of_find? hlive
      rw [hin, hcalls] at hbooks
      omega
    simpa [advance_unregistering, ActiveSet.contains_erase, hid] using hin
  | _ => cases hp

/-- Whatever alternates, the tables agree at rest about the identities whose misses cancel out, and
a completion releases no other call. If in addition no completion and no abort of one identity are
ever between their operations together, the tables agree at rest about all identities, and a
completion unregisters no other call. -/
theorem interleaved_tables_agree (moves : List Move) :
    let notes := (performAll {} moves).1
    let s := (performAll {} moves).2
    (s.AtRest → ∀ id, (s.active.contains id = s.calls.contains id ↔
      missed (leaves id) notes = missed (withdraws id) notes + missed (detaches id) notes)) ∧
    (∀ p ∈ s.phases, ∀ other tag, p.completes? = some other → other ≠ tag →
      s.calls.find? tag.id = some tag → (s.advance p).2.calls.find? tag.id = some tag) ∧
    ((∀ before ∈ moves.inits, (performAll {} before).2.Apart) →
      (s.AtRest → ∀ id, s.active.contains id = s.calls.contains id) ∧
      ∀ p ∈ s.phases, ∀ other tag, p.completes? = some other → other ≠ tag →
        .running tag ∈ s.phases → s.calls.find? tag.id = some tag →
        s.active.contains tag.id = true → (s.advance p).2.active.contains tag.id = true) := by
  intro notes s
  refine ⟨fun hrest id => hrest.agree_iff (balances_performAll {} moves id),
    fun p _ other tag hp hne hlive => find?_advance_of_completes hp hne hlive, fun hapart => ?_⟩
  have hs : s.Settled := Settled.new.performAll moves fun before hinit =>
    hapart before ((List.mem_inits _ _).2 hinit)
  have ha : s.Apart := hapart moves ((List.mem_inits _ _).2 List.prefix_rfl)
  refine ⟨fun hrest id => ?_, fun p hmem other tag hp _ hrunning hlive hin =>
    hs.contains_advance_of_completes ha hmem hp hrunning hlive hin⟩
  have hbalance := hs.balance id
  rwa [hrest.debit_eq, hrest.credit_eq, toNat_inj] at hbalance

def reuse (id : RequestId) : List Move :=
  [.dispatch id, .advance (.registering ⟨id, 0⟩), .abort id, .advance (.detaching id),
    .dispatch id, .advance (.registering ⟨id, 1⟩)]

theorem interleaved_tables_agree_of_reuse :
    (performAll {} (reuse ⟨1, by decide⟩)).2.active.contains ⟨1, by decide⟩ =
        (performAll {} (reuse ⟨1, by decide⟩)).2.calls.contains ⟨1, by decide⟩ ∧
      ((performAll {} (reuse ⟨1, by decide⟩)).2.advance
        (.running ⟨⟨1, by decide⟩, 0⟩)).2.active.contains ⟨1, by decide⟩ = true := by
  have h := (interleaved_tables_agree (reuse ⟨1, by decide⟩)).2.2 (by decide)
  exact ⟨h.1 (by decide) ⟨1, by decide⟩,
    h.2 (.running ⟨⟨1, by decide⟩, 0⟩) (by decide) ⟨⟨1, by decide⟩, 0⟩ ⟨⟨1, by decide⟩, 1⟩ rfl
      (by decide) (by decide) (by decide) (by decide)⟩

/-- An abort comes between the two operations of a completion and finds nothing to detach. The
identity is taken on again before the completion goes on. -/
def overtaken (id : RequestId) : List Move :=
  [.dispatch id, .advance (.registering ⟨id, 0⟩), .advance (.running ⟨id, 0⟩), .abort id,
    .advance (.detaching id), .dispatch id, .advance (.registering ⟨id, 1⟩)]

/-- The completion then takes the call that was accepted after the abort out of the active set. -/
theorem overtaken_completion_unregisters_next :
    (performAll {} (overtaken ⟨1, by decide⟩)).2.phases =
        [.running ⟨⟨1, by decide⟩, 1⟩, .unregistering ⟨⟨1, by decide⟩, 0⟩] ∧
      (performAll {} (overtaken ⟨1, by decide⟩)).2.active.contains ⟨1, by decide⟩ = true ∧
      ∃ s, s = ((performAll {} (overtaken ⟨1, by decide⟩)).2.advance
          (.unregistering ⟨⟨1, by decide⟩, 0⟩)).2 ∧
        s.AtRest ∧ s.calls.find? ⟨1, by decide⟩ = some ⟨⟨1, by decide⟩, 1⟩ ∧
        s.active.contains ⟨1, by decide⟩ = false :=
  ⟨by decide, by decide, _, rfl, by decide, by decide, by decide⟩

end Traffic
end Outbound
