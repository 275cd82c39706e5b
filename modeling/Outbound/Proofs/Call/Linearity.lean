import Outbound.Proofs.Call.Custody

/-! Each call's tag is issued once, and the sending end of its line is in one place: with the live
call, under a name, sent, or dropped. A call leaves the table once, by the first release of its own
tag or by a detach of its identity, and a receiving end hears of its own call only. -/

namespace Outbound.Desk

variable {d : Desk} {h : Ledger} {tag : CallTag} {name : String} {id : RequestId}

theorem perform_tag_of_contains (hlive : d.table.contains id = true) :
    d.perform (.tag name id) = (.refused, d) := by
  simp [perform, CallTable.tag_of_contains hlive]

def issue (d : Desk) (name : String) (id : RequestId) : Desk :=
  let tag := d.table.fresh id
  { d with
    table := d.table.push id
    lines := (tag, {}) :: d.lines
    tags := d.tags.put name tag
    receivers := d.receivers.put name tag }

theorem perform_tag_of_free (hfree : d.table.contains id = false) :
    d.perform (.tag name id) = (.tagged id, (d.freeReceiver name).issue name id) := by
  simp [perform, CallTable.tag_of_not_contains hfree, issue]

theorem perform_untag_of_live (hname : Named.find? d.tags name = some tag)
    (hf : d.table.find? tag.id = some tag) :
    d.perform (.untag name) =
      (.flag true, dropSenderOf { d with table := d.table.without tag.id } tag) := by
  simp [perform, hname, CallTable.untag_of_find? hf]

theorem perform_untag_of_dead (hname : Named.find? d.tags name = some tag)
    (hf : d.table.find? tag.id ≠ some tag) : d.perform (.untag name) = (.flag false, d) := by
  simp [perform, hname, CallTable.untag_of_find?_ne hf]

theorem perform_detach_of_free (hf : d.table.find? id = none) :
    d.perform (.detach name id) = (.flag false, d) := by
  simp [perform, CallTable.detach, hf]

def take (d : Desk) (name : String) (id : RequestId) (tag : CallTag) : Desk :=
  { d with table := d.table.without id, senders := d.senders.put name tag }

theorem table_freeSender_take (d : Desk) (name : String) (id : RequestId) (tag : CallTag) :
    ((d.freeSender name).take name id tag).table = d.table.without id :=
  congrArg (·.without id) (table_freeSender d name)

theorem perform_detach_of_live (hf : d.table.find? id = some tag) :
    d.perform (.detach name id) = (.flag true, (d.freeSender name).take name id tag) := by
  have htable : ({ d with table := d.table.without id } : Desk).freeSender name =
      { d.freeSender name with table := d.table.without id } := by
    unfold freeSender
    cases Named.find? d.senders name <;> rfl
  simp [perform, CallTable.detach, hf, htable, take]

theorem perform_send (hname : Named.find? d.senders name = some tag) :
    d.perform (.send name) = (.flag (d.line tag).send.1,
      { d.setLine tag (d.line tag).send.2 with senders := Named.erase d.senders name }) := by
  simp [perform, hname]

theorem perform_check (hname : Named.find? d.receivers name = some tag) :
    d.perform (.check name) = (.line (d.line tag).state, d.setLine tag (d.line tag).read.2) := by
  simp [perform, hname, Line.read]

theorem Custody.freeReceiver (hc : Custody d h) (name : String) :
    Custody (d.freeReceiver name) h where
  generations := by simpa using hc.generations
  calls := by simpa using hc.calls
  senders := by simpa using hc.senders
  names := by simpa using hc.names
  ids := by simpa using hc.ids
  latest := by simpa using hc.latest
  untagged := by simpa using hc.untagged
  tags := by simpa using hc.tags

/-- A desk whose tags, sending ends and lines are as its ledger says. -/
structure Kept (d : Desk) (h : Ledger) : Prop where
  custody : Custody d h
  wired : Wired d h

namespace Kept

theorem tagged (hk : Kept d h) (name : String) (id : RequestId) :
    Kept (d.perform (.tag name id)).2 (h.enter d (.tag name id)) := by
  cases hcon : d.table.contains id with
  | true => simpa [Ledger.enter, perform_tag_of_contains hcon] using hk
  | false =>
    have hcustody := hk.custody.freeReceiver name
    have hfree : (d.freeReceiver name).table.contains id = false := by simpa using hcon
    have henter : h.enter d (.tag name id) =
        { h with issued := h.issued ++ [(d.freeReceiver name).table.fresh id] } := by
      simp [Ledger.enter, perform_tag_of_free hcon, issue, Named.find?_put_self]
    rw [henter, perform_tag_of_free hcon]
    exact ⟨hcustody.push hfree name _ _, (hk.wired.freeReceiver name).push hcustody id name _⟩

theorem untag (hk : Kept d h) (name : String) :
    Kept (d.perform (.untag name)).2 (h.enter d (.untag name)) := by
  cases hname : Named.find? d.tags name with
  | none => simpa [Ledger.enter, perform, hname] using hk
  | some tag =>
    by_cases hlive : tag ∈ d.table.live
    · have hperform := perform_untag_of_live hname (hk.custody.find?_eq_some_iff.2 hlive)
      have henter : h.enter d (.untag name) =
          { h with untagged := h.untagged ++ [tag], released := h.released ++ [tag] } := by
        simp [Ledger.enter, hperform, hname]
      rw [henter, hperform]
      exact ⟨hk.custody.release hlive _, hk.wired.release hk.custody hlive⟩
    · have hperform := perform_untag_of_dead hname (mt hk.custody.find?_eq_some_iff.1 hlive)
      have henter : h.enter d (.untag name) = { h with untagged := h.untagged ++ [tag] } := by
        simp [Ledger.enter, hperform, hname]
      rw [henter, hperform]
      have hissued : tag ∈ h.issued := hk.custody.tags tag (Named.mem_values_of_find? hname)
      exact ⟨hk.custody.spent hissued hlive, ⟨hk.wired.1, hk.wired.2, hk.wired.3, hk.wired.4,
        hk.wired.5, hk.wired.6⟩⟩

theorem detach (hk : Kept d h) (name : String) (id : RequestId) :
    Kept (d.perform (.detach name id)).2 (h.enter d (.detach name id)) := by
  cases hf : d.table.find? id with
  | none => simpa [Ledger.enter, perform_detach_of_free hf] using hk
  | some tag =>
    have hcustody := hk.custody.freeSender name
    have hwired := hk.wired.freeSender hk.custody name
    have hlive : (d.freeSender name).table.find? id = some tag := by simpa using hf
    have hname : Named.erase (d.freeSender name).senders name = (d.freeSender name).senders := by
      rw [senders_freeSender]
      exact Named.erase_of_forall_ne fun x hx => by simpa using (List.mem_filter.1 hx).2
    have henter : h.enter d (.detach name id) =
        { h with
          detached := h.detached ++ [tag]
          dropped := h.dropped ++ (Named.find? d.senders name).toList } := by
      simp [Ledger.enter, perform_detach_of_live hf, take, Named.find?_put_self]
    rw [henter, perform_detach_of_live hf]
    exact ⟨hcustody.detach hlive name hname, hwired.detach hcustody hlive name hname⟩

theorem send (hk : Kept d h) (name : String) :
    Kept (d.perform (.send name)).2 (h.enter d (.send name)) := by
  cases hname : Named.find? d.senders name with
  | none => simpa [Ledger.enter, perform, hname] using hk
  | some tag =>
    have henter : h.enter d (.send name) = { h with sent := h.sent ++ [tag] } := by
      simp [Ledger.enter, perform_send hname, hname]
    rw [henter, perform_send hname]
    exact ⟨hk.custody.send hname _, hk.wired.send hk.custody hname⟩

theorem check (hk : Kept d h) (name : String) :
    Kept (d.perform (.check name)).2 (h.enter d (.check name)) := by
  cases hname : Named.find? d.receivers name with
  | none => simpa [Ledger.enter, perform, hname] using hk
  | some tag =>
    have hwired := hk.wired.check hname
    have henter : h.enter d (.check name) = if (d.line tag).state = .signalled then
        { h with heard := h.heard ++ [tag] } else h := by
      cases hstate : (d.line tag).state <;> simp [Ledger.enter, perform_check hname, hname, hstate]
    rw [← henter] at hwired
    rw [perform_check hname]
    refine ⟨?_, hwired⟩
    rw [henter]
    split
    · exact hk.custody.of_lines _ _
    · exact hk.custody.of_lines _ h.heard

theorem perform (hk : Kept d h) (c : Command) : Kept (d.perform c).2 (h.enter d c) := by
  cases c with
  | tag name id => exact hk.tagged name id
  | untag name => exact hk.untag name
  | same name other => exact hk
  | detach name id => exact hk.detach name id
  | send name => exact hk.send name
  | dropSender name => exact ⟨hk.custody.freeSender name, hk.wired.freeSender hk.custody name⟩
  | dropReceiver name => exact ⟨hk.custody.freeReceiver name, hk.wired.freeReceiver name⟩
  | check name => exact hk.check name

theorem history (hk : Kept d h) (cs : List Command) :
    Kept (d.history h cs).1 (d.history h cs).2 := by
  induction cs generalizing d h with
  | nil => exact hk
  | cons c cs ih => exact ih (hk.perform c)

theorem refused_iff :
    (d.perform (.tag name id)).1 = .refused ↔ ∃ tag ∈ d.table.live, tag.id = id := by
  rw [← CallTable.contains_iff]
  cases hcon : d.table.contains id with
  | true => simp [perform_tag_of_contains hcon]
  | false => simp [perform_tag_of_free hcon]

theorem tagged_of_free (hk : Kept d h) (hfree : ∀ tag ∈ d.table.live, tag.id ≠ id) :
    let after := (d.perform (.tag name id)).2
    ∃ tag, tag.id = id ∧ tag ∉ h.issued ∧ tag ∈ after.table.live ∧
      Named.find? after.tags name = some tag ∧ Named.find? after.receivers name = some tag := by
  have hcon : d.table.contains id = false := by
    rw [← Bool.not_eq_true, CallTable.contains_iff]
    rintro ⟨tag, ht, hid⟩
    exact hfree tag ht hid
  refine ⟨d.table.fresh id, rfl, hk.custody.fresh_not_issued id, ?_⟩
  simp [perform_tag_of_free hcon, Desk.issue, CallTable.push, Named.find?_put_self]

/-- A call leaves the table by the first release of its tag, or by a detach of its identity. -/
theorem leaves (hk : Kept d h) {c : Command} (hlive : tag ∈ d.table.live)
    (hgone : tag ∉ (d.perform c).2.table.live) :
    (∃ name, c = .untag name ∧ Named.find? d.tags name = some tag ∧ tag ∉ h.untagged) ∨
      ∃ name, c = .detach name tag.id := by
  cases c with
  | tag name id =>
    refine absurd ?_ hgone
    cases hcon : d.table.contains id with
    | true => rwa [perform_tag_of_contains hcon]
    | false => simp [perform_tag_of_free hcon, Desk.issue, CallTable.push, hlive]
  | untag name =>
    cases hname : Named.find? d.tags name with
    | none => exact absurd hlive (by simpa [Desk.perform, hname] using hgone)
    | some other =>
      by_cases ho : other ∈ d.table.live
      · have hf := hk.custody.find?_eq_some_iff.2 ho
        rw [perform_untag_of_live hname hf] at hgone
        have hsame : tag = other := by
          by_contra hne
          exact hgone ((hk.custody.mem_without hf hne).2 hlive)
        subst hsame
        exact .inl ⟨name, rfl, hname, fun hin => (hk.custody.untagged tag hin).2 hlive⟩
      · rw [perform_untag_of_dead hname (mt hk.custody.find?_eq_some_iff.1 ho)] at hgone
        exact absurd hlive hgone
  | detach name id =>
    cases hf : d.table.find? id with
    | none =>
      rw [perform_detach_of_free hf] at hgone
      exact absurd hlive hgone
    | some other =>
      rw [perform_detach_of_live hf, table_freeSender_take] at hgone
      have hsame : tag = other := by
        by_contra hne
        exact hgone ((hk.custody.mem_without hf hne).2 hlive)
      subst hsame
      rw [CallTable.find?_id hf]
      exact .inr ⟨name, rfl⟩
  | same name other => exact absurd hlive hgone
  | send name =>
    refine absurd ?_ hgone
    cases hname : Named.find? d.senders name with
    | none => simpa [Desk.perform, hname] using hlive
    | some other => rwa [perform_send hname]
  | dropSender name =>
    refine absurd ?_ hgone
    simpa [Desk.perform] using hlive
  | dropReceiver name =>
    refine absurd ?_ hgone
    simpa [Desk.perform] using hlive
  | check name =>
    refine absurd ?_ hgone
    cases hname : Named.find? d.receivers name with
    | none => simpa [Desk.perform, hname] using hlive
    | some other => rwa [perform_check hname]

theorem untag_answer (hk : Kept d h) (hname : Named.find? d.tags name = some tag) :
    (tag ∈ d.table.live → tag ∉ h.untagged ∧ (d.perform (.untag name)).1 = .flag true ∧
      tag ∉ (d.perform (.untag name)).2.table.live) ∧
    (tag ∉ d.table.live → d.perform (.untag name) = (.flag false, d)) := by
  constructor
  · intro hlive
    rw [perform_untag_of_live hname (hk.custody.find?_eq_some_iff.2 hlive)]
    exact ⟨fun hin => (hk.custody.untagged tag hin).2 hlive, rfl,
      fun hleft => (CallTable.mem_without.1 hleft).2 rfl⟩
  · exact fun hdead => perform_untag_of_dead hname (mt hk.custody.find?_eq_some_iff.1 hdead)

theorem detach_answer (hk : Kept d h) (name : String) (hlive : tag ∈ d.table.live) :
    let after := d.perform (.detach name tag.id)
    after.1 = .flag true ∧ Named.find? after.2.senders name = some tag ∧
      (h.issued.filter (·.id = tag.id)).getLast? = some tag ∧ tag ∉ after.2.table.live := by
  rw [perform_detach_of_live (hk.custody.find?_eq_some_iff.2 hlive)]
  exact ⟨rfl, Named.find?_put_self, hk.custody.latest tag hlive,
    fun hleft => (CallTable.mem_without.1 hleft).2 rfl⟩

theorem check_answer (hk : Kept d h) (hname : Named.find? d.receivers name = some tag) :
    ((d.perform (.check name)).1 = .line .signalled ↔ tag ∈ h.sent ∧ tag ∉ h.heard) ∧
    ((d.perform (.check name)).1 = .line .waiting ↔
      tag ∈ d.table.live ∨ tag ∈ d.senders.values) := by
  obtain ⟨hissued, hopen⟩ := hk.wired.receivers tag (Named.mem_values_of_find? hname)
  obtain ⟨hwaiting, hsignalled⟩ := hk.wired.reads tag hissued hopen
  rw [perform_check hname]
  simpa using ⟨hsignalled, hwaiting⟩

end Kept

/-- After any commands: the tags that were issued differ, by the generations they were given in
turn, and each is live, released or detached, and only one of these; a tag is refused to an identity
that has a live call and to no other; a call leaves the table by the first release of its own tag
or by a detach of its identity, and a release of any other tag does nothing; the sending end that a
detach hands out belongs to the tag issued last for the identity, and is then under a name, sent or
dropped; and the receiving end handed out with a tag reads the signal when the sending end of that
tag was sent, and only then. -/
theorem tags_owned_once (cs : List Command) :
    let d := (history {} {} cs).1
    let h := (history {} {} cs).2
    (h.issued.Nodup ∧ h.issued.map (·.generation) = List.range h.issued.length) ∧
    (d.table.live ++ h.released ++ h.detached).Perm h.issued ∧
    (d.senders.values ++ h.sent ++ h.dropped).Perm h.detached ∧
    (∀ name id,
      ((d.perform (.tag name id)).1 = .refused ↔ ∃ tag ∈ d.table.live, tag.id = id) ∧
      ((∃ tag ∈ d.table.live, tag.id = id) → (d.perform (.tag name id)).2 = d) ∧
      ((∀ tag ∈ d.table.live, tag.id ≠ id) →
        let after := (d.perform (.tag name id)).2
        ∃ tag, tag.id = id ∧ tag ∉ h.issued ∧ tag ∈ after.table.live ∧
          Named.find? after.tags name = some tag ∧
          Named.find? after.receivers name = some tag)) ∧
    (∀ c, ∀ tag ∈ d.table.live, tag ∉ (d.perform c).2.table.live →
      (∃ name, c = .untag name ∧ Named.find? d.tags name = some tag ∧ tag ∉ h.untagged) ∨
        ∃ name, c = .detach name tag.id) ∧
    (∀ name tag, Named.find? d.tags name = some tag →
      (tag ∈ d.table.live → tag ∉ h.untagged ∧ (d.perform (.untag name)).1 = .flag true ∧
        tag ∉ (d.perform (.untag name)).2.table.live) ∧
      (tag ∉ d.table.live → d.perform (.untag name) = (.flag false, d))) ∧
    (∀ name, ∀ tag ∈ d.table.live,
      let after := d.perform (.detach name tag.id)
      after.1 = .flag true ∧ Named.find? after.2.senders name = some tag ∧
        (h.issued.filter (·.id = tag.id)).getLast? = some tag ∧ tag ∉ after.2.table.live) ∧
    (∀ name id, (∀ tag ∈ d.table.live, tag.id ≠ id) →
      d.perform (.detach name id) = (.flag false, d)) ∧
    (∀ name tag, Named.find? d.receivers name = some tag →
      ((d.perform (.check name)).1 = .line .signalled ↔ tag ∈ h.sent ∧ tag ∉ h.heard) ∧
      ((d.perform (.check name)).1 = .line .waiting ↔
        tag ∈ d.table.live ∨ tag ∈ d.senders.values)) := by
  intro d h
  have hk : Kept d h := Kept.history ⟨.new, .new⟩ cs
  have hnext : d.table.next = h.issued.length := by
    have hlength := congrArg List.length hk.custody.generations
    simpa using hlength.symm
  refine ⟨⟨hk.custody.issued_nodup, hnext ▸ hk.custody.generations⟩, hk.custody.calls,
    hk.custody.senders, fun name id => ⟨Kept.refused_iff, fun hlive => ?_, hk.tagged_of_free⟩,
    fun c tag hlive hgone => hk.leaves hlive hgone, fun name tag hname => hk.untag_answer hname,
    fun name tag hlive => hk.detach_answer name hlive, fun name id hfree => ?_,
    fun name tag hname => hk.check_answer hname⟩
  · rw [perform_tag_of_contains (CallTable.contains_iff.2 hlive)]
  · refine perform_detach_of_free (CallTable.find?_eq_none_iff.2 ?_)
    rw [← Bool.not_eq_true, CallTable.contains_iff]
    rintro ⟨tag, ht, hid⟩
    exact hfree tag ht hid

/-- An identity that is used again, with the tag and the sending end of its first call still there:
the tag releases nothing, and the sending end is heard by the first call only. -/
theorem tags_owned_once_of_reuse :
    let one : RequestId := ⟨1, by decide⟩
    let d := (history {} {}
      [.tag "a" one, .detach "s" one, .tag "b" one, .send "s"]).1
    d.perform (.untag "a") = (.flag false, d) ∧
      (d.perform (.tag "c" one)).1 = .refused ∧
      Named.find? (d.perform (.detach "t" one)).2.senders "t" = some ⟨one, 1⟩ ∧
      (d.perform (.check "a")).1 = .line .signalled ∧
      (d.perform (.check "b")).1 = .line .waiting := by
  intro one d
  obtain ⟨-, -, -, htag, -, huntag, hdetach, -, hcheck⟩ := tags_owned_once
    [.tag "a" one, .detach "s" one, .tag "b" one, .send "s"]
  have hlive : (⟨one, 1⟩ : CallTag) ∈ d.table.live := by decide +kernel
  have ha : Named.find? d.tags "a" = some ⟨one, 0⟩ := by decide +kernel
  have hra : Named.find? d.receivers "a" = some ⟨one, 0⟩ := by decide +kernel
  have hrb : Named.find? d.receivers "b" = some ⟨one, 1⟩ := by decide +kernel
  exact ⟨(huntag "a" ⟨one, 0⟩ ha).2 (by decide +kernel),
    (htag "c" one).1.2 ⟨⟨one, 1⟩, hlive, rfl⟩,
    (hdetach "t" ⟨one, 1⟩ hlive).2.1,
    (hcheck "a" ⟨one, 0⟩ hra).1.2 (by decide +kernel),
    (hcheck "b" ⟨one, 1⟩ hrb).2.2 (.inl hlive)⟩

end Outbound.Desk
