import Outbound.Call.Desk

/-! What is done at a desk, kept as a ledger of tags, and what each part of a command leaves alone:
the names that tags are held under, the lines, and the ends of a line that are given up. -/

namespace Outbound

namespace Named

variable {α : Type} {l : Named α} {name : String} {a : α}

def names (l : Named α) : List String := l.map (·.1)

def values (l : Named α) : List α := l.map (·.2)

theorem erase_of_forall_ne (h : ∀ x ∈ l, x.1 ≠ name) : Named.erase l name = l :=
  List.filter_eq_self.2 (by simpa using h)

theorem erase_of_find?_eq_none (h : Named.find? l name = none) : Named.erase l name = l :=
  erase_of_forall_ne (by simpa [Named.find?] using h)

theorem names_erase_nodup (h : l.names.Nodup) : (Named.erase l name).names.Nodup :=
  h.sublist (List.filter_sublist.map _)

theorem values_erase_sublist : (Named.erase l name).values.Sublist l.values :=
  List.filter_sublist.map _

theorem names_put_nodup (h : l.names.Nodup) : (l.put name a).names.Nodup := by
  refine List.nodup_cons.2 ⟨fun hmem => ?_, names_erase_nodup h⟩
  obtain ⟨x, hx, hname⟩ := List.mem_map.1 hmem
  have hne : x.1 ≠ name := by simpa using (List.mem_filter.1 hx).2
  exact hne hname

theorem find?_put_self : Named.find? (l.put name a) name = some a := by simp [put, Named.find?]

theorem values_perm (h : l.names.Nodup) (name : String) :
    l.values.Perm ((Named.find? l name).toList ++ (Named.erase l name).values) := by
  induction l with
  | nil => exact .nil
  | cons x l ih =>
    obtain ⟨hx, hl⟩ := List.nodup_cons.1 h
    by_cases hname : x.1 = name
    · have hnone : ∀ y ∈ l, y.1 ≠ name := fun y hy he =>
        hx (List.mem_map.2 ⟨y, hy, he.trans hname.symm⟩)
      have herase : Named.erase (x :: l) name = l :=
        (List.filter_cons_of_neg (by simp [hname])).trans (erase_of_forall_ne hnone)
      have hfind : Named.find? (x :: l) name = some x.2 := by simp [Named.find?, hname]
      rw [herase, hfind]
      rfl
    · have herase : Named.erase (x :: l) name = x :: Named.erase l name :=
        List.filter_cons_of_pos (by simp [hname])
      have hfind : Named.find? (x :: l) name = Named.find? l name := by
        simp [Named.find?, hname]
      rw [herase, hfind]
      exact ((ih hl).cons x.2).trans List.perm_middle.symm

theorem not_mem_values_erase (h : l.names.Nodup) (hv : l.values.Nodup)
    (hf : Named.find? l name = some a) : a ∉ (Named.erase l name).values := by
  have hperm := values_perm h name
  rw [hf] at hperm
  exact (List.nodup_cons.1 (hperm.nodup_iff.1 hv)).1

theorem mem_values_erase (h : l.names.Nodup) (hne : Named.find? l name ≠ some a) :
    a ∈ (Named.erase l name).values ↔ a ∈ l.values := by
  rw [(values_perm h name).mem_iff, List.mem_append, Option.mem_toList]
  exact (or_iff_right hne).symm

theorem mem_values_of_find? (h : Named.find? l name = some a) : a ∈ l.values := by
  obtain ⟨x, hx, rfl⟩ := Option.map_eq_some_iff.1 h
  exact List.mem_map_of_mem (List.mem_of_find?_eq_some hx)

end Named

namespace Line

theorem dropSender_state (l : Line) :
    l.dropSender.state ≠ .waiting ∧ (l.dropSender.state = .signalled ↔ l.state = .signalled) := by
  obtain ⟨_ | _ | _, heard⟩ := l <;> simp [dropSender]

theorem send_state {l : Line} (h : l.heard = true) : l.send.2.state = .signalled := by
  simp [send, h]

@[simp] theorem heard_send (l : Line) : l.send.2.heard = l.heard := by
  unfold send
  split <;> rfl

theorem read_state (l : Line) :
    (l.read.2.state = .waiting ↔ l.state = .waiting) ∧ l.read.2.state ≠ .signalled := by
  obtain ⟨_ | _ | _, heard⟩ := l <;> simp [read]

end Line

namespace Desk

variable {d : Desk} {tag other : CallTag} {name : String} {l : Line}

theorem line_setLine_of_ne (h : other ≠ tag) : (d.setLine tag l).line other = d.line other := by
  have hsame : ((fun x : CallTag × Line => decide (x.1 = other)) ∘
      fun x : CallTag × Line => (x.1, if x.1 = tag then l else x.2)) =
        fun x : CallTag × Line => decide (x.1 = other) := rfl
  simp only [line, setLine, List.find?_map, hsame]
  cases hfind : d.lines.find? (·.1 = other) with
  | none => rfl
  | some x =>
    have hx : x.1 = other := by simpa using List.find?_some hfind
    simp [hx, h]

theorem line_setLine_self (h : tag ∈ d.lines.map (·.1)) : (d.setLine tag l).line tag = l := by
  have hsame : ((fun x : CallTag × Line => decide (x.1 = tag)) ∘
      fun x : CallTag × Line => (x.1, if x.1 = tag then l else x.2)) =
        fun x : CallTag × Line => decide (x.1 = tag) := rfl
  have hsome : (d.lines.find? (·.1 = tag)).isSome := by
    simpa [List.find?_isSome] using h
  obtain ⟨x, hx⟩ := Option.isSome_iff_exists.1 hsome
  have hkey : x.1 = tag := by simpa using List.find?_some hx
  simp only [line, setLine, List.find?_map, hsame]
  simp [hx, hkey]

theorem line_cons_self (d : Desk) (tag : CallTag) (l : Line) (lines : List (CallTag × Line)) :
    ({ d with lines := (tag, l) :: lines } : Desk).line tag = l := by
  simp [line]

theorem line_cons_of_ne {d : Desk} {tag other : CallTag} (h : other ≠ tag) (l : Line) :
    ({ d with lines := (tag, l) :: d.lines } : Desk).line other = d.line other := by
  simp [line, h.symm]

theorem keys_setLine (d : Desk) (tag : CallTag) (l : Line) :
    (d.setLine tag l).lines.map (·.1) = d.lines.map (·.1) := List.map_map

/-- What has been done at a desk. A tag that is released was live when its release was asked for. -/
structure Ledger where
  issued : List CallTag := []
  untagged : List CallTag := []
  released : List CallTag := []
  detached : List CallTag := []
  sent : List CallTag := []
  dropped : List CallTag := []
  heard : List CallTag := []
  deriving DecidableEq, Repr, Inhabited

/-- Notes a command by its answer, with the tag that stands under its name. -/
def Ledger.enter (h : Ledger) (d : Desk) (c : Command) : Ledger :=
  let (answer, after) := d.perform c
  match c, answer with
  | .tag name _, .tagged _ =>
    { h with issued := h.issued ++ (after.tags.find? name).toList }
  | .untag name, .flag released =>
    { h with
      untagged := h.untagged ++ (d.tags.find? name).toList
      released := h.released ++ if released then (d.tags.find? name).toList else [] }
  | .detach name _, .flag true =>
    { h with
      detached := h.detached ++ (after.senders.find? name).toList
      dropped := h.dropped ++ (d.senders.find? name).toList }
  | .send name, .flag _ => { h with sent := h.sent ++ (d.senders.find? name).toList }
  | .dropSender name, _ => { h with dropped := h.dropped ++ (d.senders.find? name).toList }
  | .check name, .line .signalled =>
    { h with heard := h.heard ++ (d.receivers.find? name).toList }
  | _, _ => h

def history (d : Desk) (h : Ledger) : List Command → Desk × Ledger
  | [] => (d, h)
  | c :: cs => history (d.perform c).2 (h.enter d c) cs

variable {h : Ledger} {id : RequestId}

@[simp] theorem table_freeReceiver (d : Desk) (name : String) :
    (d.freeReceiver name).table = d.table := by
  unfold freeReceiver
  split <;> rfl

@[simp] theorem tags_freeReceiver (d : Desk) (name : String) :
    (d.freeReceiver name).tags = d.tags := by
  unfold freeReceiver
  split <;> rfl

@[simp] theorem senders_freeReceiver (d : Desk) (name : String) :
    (d.freeReceiver name).senders = d.senders := by
  unfold freeReceiver
  split <;> rfl

@[simp] theorem table_freeSender (d : Desk) (name : String) :
    (d.freeSender name).table = d.table := by
  unfold freeSender
  split <;> rfl

@[simp] theorem tags_freeSender (d : Desk) (name : String) :
    (d.freeSender name).tags = d.tags := by
  unfold freeSender
  split <;> rfl

@[simp] theorem receivers_freeSender (d : Desk) (name : String) :
    (d.freeSender name).receivers = d.receivers := by
  unfold freeSender
  split <;> rfl

theorem receivers_freeReceiver (d : Desk) (name : String) :
    (d.freeReceiver name).receivers = Named.erase d.receivers name := by
  unfold freeReceiver
  split
  · rfl
  · next hnone => exact (Named.erase_of_find?_eq_none hnone).symm

theorem senders_freeSender (d : Desk) (name : String) :
    (d.freeSender name).senders = Named.erase d.senders name := by
  unfold freeSender
  split
  · rfl
  · next hnone => exact (Named.erase_of_find?_eq_none hnone).symm

theorem keys_freeReceiver (d : Desk) (name : String) :
    (d.freeReceiver name).lines.map (·.1) = d.lines.map (·.1) := by
  unfold freeReceiver
  split
  · exact keys_setLine ..
  · rfl

theorem keys_freeSender (d : Desk) (name : String) :
    (d.freeSender name).lines.map (·.1) = d.lines.map (·.1) := by
  unfold freeSender
  split
  · exact keys_setLine ..
  · rfl

theorem line_freeReceiver (hkey : tag ∈ d.lines.map (·.1)) (name : String) :
    (d.freeReceiver name).line tag =
      if Named.find? d.receivers name = some tag then (d.line tag).dropReceiver
      else d.line tag := by
  unfold freeReceiver
  cases hf : Named.find? d.receivers name with
  | none => simp
  | some other =>
    by_cases he : other = tag
    · rw [he, if_pos rfl]
      exact line_setLine_self hkey
    · rw [if_neg (by simpa using he)]
      exact line_setLine_of_ne (Ne.symm he)

theorem line_freeSender (hkey : tag ∈ d.lines.map (·.1)) (name : String) :
    (d.freeSender name).line tag =
      if Named.find? d.senders name = some tag then (d.line tag).dropSender
      else d.line tag := by
  unfold freeSender
  cases hf : Named.find? d.senders name with
  | none => simp
  | some other =>
    by_cases he : other = tag
    · rw [he, if_pos rfl]
      exact line_setLine_self hkey
    · rw [if_neg (by simpa using he)]
      exact line_setLine_of_ne (Ne.symm he)

end Desk
end Outbound
