import Outbound.Proofs.Dispatch.Mirror

/-! Identities do not interfere. If the moves of all other identities are taken out of a run, what
is left goes as before: the same requests are taken on or refused for the same reasons, the same
events are told, and the same calls are live or sent their signal. Only the generations differ,
since all identities draw them from one counter; in the shorter run the calls of the identity that
is left are numbered in turn. -/

namespace Outbound.Dispatcher

variable {ρ : CallTag → CallTag} {id : RequestId} {s t : Dispatcher}

/-- Numbers the calls of each identity in the order in which they were started. -/
def number (started : List CallTag) (tag : CallTag) : CallTag :=
  ⟨tag.id, (started.filter (·.id = tag.id)).idxOf tag⟩

theorem faithful_number (started : List CallTag) : Faithful (number started) started where
  id_eq _ := rfl
  apart tag ht other he := by
    have hid : other.id = tag.id := by simpa [number] using congrArg CallTag.id he
    have hmem : tag ∈ started.filter (·.id = tag.id) := by simpa using ht
    have hidx : (started.filter (·.id = tag.id)).idxOf tag =
        (started.filter (·.id = tag.id)).idxOf other := by
      have hgeneration := (congrArg CallTag.generation he).symm
      rwa [number, number, hid] at hgeneration
    exact ((List.idxOf_inj hmem).1 hidx).symm

theorem number_of_new {before after : List CallTag} {tag : CallTag} (hnew : tag ∉ before) :
    number (before ++ tag :: after) tag =
      ⟨tag.id, (before.filter (·.id = tag.id)).length⟩ := by
  have hout : tag ∉ before.filter (·.id = tag.id) := fun hmem => hnew (List.mem_of_mem_filter hmem)
  rw [number, List.filter_append, List.idxOf_append_of_notMem hout]
  simp

def shorten (ρ : CallTag → CallTag) (id : RequestId) (ms : List Move) : List Move :=
  (ms.filter (·.concerns id)).map (·.rename ρ)

/-- A move with what is seen of it, and the tags of the tasks it starts. -/
structure Turn where
  move : Move
  entries : List Entry
  started : List CallTag

namespace Turn

def events (u : Turn) : List Event := u.entries.filterMap Entry.event?

def rename (ρ : CallTag → CallTag) (u : Turn) : Turn :=
  { u with move := u.move.rename ρ, started := u.started.map ρ }

end Turn

def turn (s : Dispatcher) (m : Move) : Turn := ⟨m, (s.move m).1, s.started m⟩

def turns (s : Dispatcher) : List Move → List Turn
  | [] => []
  | m :: ms => s.turn m :: turns (s.move m).2 ms

def issued (s : Dispatcher) (ms : List Move) : List CallTag := (s.turns ms).flatMap (·.started)

/-- Two dispatchers side by side, after a run that has started some tasks. -/
structure Abreast (ρ : CallTag → CallTag) (id : RequestId) (before : List CallTag)
    (s t : Dispatcher) : Prop extends Mirrors ρ id s t where
  whole : Sound s
  part : Sound t
  tags_known : ∀ tag ∈ s.tags, tag ∈ before
  cancels_known : ∀ tag ∈ s.cancels, tag ∈ before
  issued_before : ∀ tag ∈ before, tag.generation < s.calls.next
  next_eq : s.active.shuttingDown = false → t.calls.next = (before.filter (·.id = id)).length

namespace Abreast

variable {before after all : List CallTag} {m : Move}

theorem ofClient (ρ : CallTag → CallTag) (id : RequestId) (c : Client) :
    Abreast ρ id [] (.ofClient c) (.ofClient c) where
  closed := rfl
  active := by simp [Dispatcher.ofClient, ActiveSet.mem_def]
  live := rfl
  cancels := rfl
  tasks := rfl
  whole := .ofClient c
  part := .ofClient c
  tags_known := by simp [Dispatcher.ofClient, Dispatcher.tags]
  cancels_known := by simp [Dispatcher.ofClient]
  issued_before := by simp
  next_eq _ := rfl

theorem tags_known_move (h : Abreast ρ id before s t) :
    ∀ tag ∈ (s.move m).2.tags, tag ∈ before ++ s.started m := by
  intro tag ht
  by_cases hold : tag ∈ s.tags
  · exact List.mem_append_left _ (h.tags_known tag hold)
  · exact List.mem_append_right _ (mem_started.2 ⟨ht, hold⟩)

theorem cancels_known_move (h : Abreast ρ id before s t) :
    ∀ tag ∈ (s.move m).2.cancels, tag ∈ before ++ s.started m := by
  intro tag ht
  apply List.mem_append_left
  rcases mem_cancels_move ht with ht | ht
  · exact h.cancels_known tag ht
  · exact h.tags_known tag (h.whole.linked.mem_tags_of_find?
      (h.whole.linked.find?_eq_some_iff.2 ⟨ht, rfl⟩))

theorem issued_before_move (h : Abreast ρ id before s t) (hregisters : m.registers = false) :
    ∀ tag ∈ before ++ s.started m, tag.generation < (s.move m).2.calls.next := by
  intro tag ht
  rcases List.mem_append.1 ht with ht | ht
  · exact Nat.lt_of_lt_of_le (h.issued_before tag ht) (next_le_move s m)
  · exact (h.whole.move hregisters).linked.tags_issued tag (mem_started.1 ht).1

theorem move_of_ne (h : Abreast ρ id before s t) (hregisters : m.registers = false)
    (hother : m.concerns id = false) : Abreast ρ id (before ++ s.started m) (s.move m).2 t where
  toMirrors := h.toMirrors.move_of_ne h.whole hregisters hother
  whole := h.whole.move hregisters
  part := h.part
  tags_known := h.tags_known_move
  cancels_known := h.cancels_known_move
  issued_before := h.issued_before_move hregisters
  next_eq hopen := by
    have hnone : (s.started m).filter (·.id = id) = [] := by
      refine List.filter_eq_nil_iff.2 fun tag ht => ?_
      have hid := id_of_started h.whole hregisters ht
      simpa [Move.concerns, hid] using hother
    rw [List.filter_append, hnone, List.append_nil, h.next_eq (open_of_move hopen)]

theorem number_started (h : Abreast ρ id before s t) (hregisters : m.registers = false)
    (hown : m.concerns id = true) {tag : CallTag} (ht : tag ∈ s.started m) :
    number (before ++ s.started m ++ after) tag = t.calls.fresh tag.id := by
  rcases started_cases h.whole hregisters with
    ⟨hnone, -⟩ | ⟨hopen, other, hsubject, hone, -⟩
  · rw [hnone] at ht
    cases ht
  · obtain rfl : other = id := Move.concerns_iff.1 hown other hsubject
    have hnew : s.calls.fresh other ∉ before := fun hmem =>
      Nat.lt_irrefl _ (h.issued_before _ hmem)
    rw [hone] at ht ⊢
    rw [List.mem_singleton.1 ht, List.append_assoc, List.singleton_append, number_of_new hnew]
    exact congrArg (CallTag.mk other) (h.next_eq hopen).symm

theorem started_rename {known : List CallTag} (h : Abreast ρ id before s t)
    (hρ : Faithful ρ known) (hknown : ∀ tag ∈ before, tag ∈ known)
    (hregisters : m.registers = false) (hown : m.concerns id = true)
    (hm : Mirrors ρ id (s.move m).2 (t.move (m.rename ρ)).2) :
    t.started (m.rename ρ) = (s.started m).map ρ := by
  have hids : ∀ tag ∈ s.started m, tag.id = id := fun tag ht =>
    Move.concerns_iff.1 hown _ (id_of_started h.whole hregisters ht)
  rw [started, hm.tags, ← mirrored_of_forall_eq hids, started]
  refine filter_mirrored fun tag _ hid => ?_
  have hmem : ρ tag ∈ t.tags ↔ tag ∈ s.tags := by
    rw [h.tags]
    exact mem_mirrored hid fun other ho he =>
      hρ.apart other (hknown other (h.tags_known other ho)) tag he
  simp [hmem]

theorem move (h : Abreast (number all) id before s t) (hall : all = before ++ s.started m ++ after)
    (hregisters : m.registers = false) (hown : m.concerns id = true) :
    t.turn (m.rename (number all)) = (s.turn m).rename (number all) ∧
      Abreast (number all) id (before ++ s.started m) (s.move m).2
        (t.move (m.rename (number all))).2 := by
  have hρ : Faithful (number all) all := faithful_number all
  have hknown : ∀ tag ∈ before, tag ∈ all := fun tag ht => by
    rw [hall]
    exact List.mem_append_left _ (List.mem_append_left _ ht)
  have hregisters' : (m.rename (number all)).registers = false := by simpa using hregisters
  obtain ⟨hentries, hmirrors⟩ := h.toMirrors.move h.whole h.part hρ
    (fun tag ht => hknown tag (h.tags_known tag ht))
    (fun tag ht => hknown tag (h.cancels_known tag ht)) hregisters hown
    (fun tag ht => hall ▸ h.number_started hregisters hown ht)
  have hstarted := h.started_rename hρ hknown hregisters hown hmirrors
  refine ⟨?_, ⟨hmirrors, h.whole.move hregisters, h.part.move hregisters', h.tags_known_move,
    h.cancels_known_move, h.issued_before_move hregisters, fun hopen => ?_⟩⟩
  · rw [turn, hentries, hstarted]
    rfl
  · have hopen' : s.active.shuttingDown = false := open_of_move hopen
    have hids : (s.started m).filter (·.id = id) = s.started m := by
      refine List.filter_eq_self.2 fun tag ht => ?_
      have hsubject := id_of_started h.whole hregisters ht
      simpa using Move.concerns_iff.1 hown _ hsubject
    rw [next_move h.part hregisters' (h.closed.trans hopen'), hstarted,
      h.next_eq hopen', List.length_map, List.filter_append, hids, List.length_append]

theorem turns (h : Abreast (number all) id before s t) {ms : List Move}
    (hms : ∀ m ∈ ms, m.registers = false) (hall : all = before ++ s.issued ms) :
    t.turns (shorten (number all) id ms) =
        ((s.turns ms).filter (·.move.concerns id)).map (·.rename (number all)) ∧
      Mirrors (number all) id (s.moveAll ms).2 (t.moveAll (shorten (number all) id ms)).2 := by
  -- the tasks started so far and those that the rest of the run starts make up all of them, so the
  -- numbers are the same throughout
  induction ms generalizing before s t with
  | nil => exact ⟨rfl, h.toMirrors⟩
  | cons m ms ih =>
    obtain ⟨hm, hms⟩ := List.forall_mem_cons.1 hms
    have hall' : all = before ++ s.started m ++ (s.move m).2.issued ms := by
      rw [hall, List.append_assoc]
      rfl
    cases hc : m.concerns id with
    | false =>
      have hrest := ih (h.move_of_ne hm hc) hms hall'
      have hshorter : shorten (number all) id (m :: ms) = shorten (number all) id ms := by
        simp [shorten, hc]
      have hturns : (s.turns (m :: ms)).filter (·.move.concerns id) =
          ((s.move m).2.turns ms).filter (·.move.concerns id) :=
        List.filter_cons_of_neg (by simp [turn, hc])
      rw [hshorter, hturns]
      exact hrest
    | true =>
      obtain ⟨hturn, hafter⟩ := h.move hall' hm hc
      obtain ⟨hrest, hmirrors⟩ := ih hafter hms hall'
      have hshorter : shorten (number all) id (m :: ms) =
          m.rename (number all) :: shorten (number all) id ms := by
        simp [shorten, hc]
      have hturns : (s.turns (m :: ms)).filter (·.move.concerns id) =
          s.turn m :: ((s.move m).2.turns ms).filter (·.move.concerns id) :=
        List.filter_cons_of_pos hc
      rw [hshorter, hturns, List.map_cons, ← hturn, ← hrest]
      exact ⟨rfl, hmirrors⟩

end Abreast

theorem entries_moveAll (s : Dispatcher) (ms : List Move) :
    (s.moveAll ms).1 = (s.turns ms).flatMap (·.entries) := by
  induction ms generalizing s with
  | nil => rfl
  | cons m ms ih => rw [moveAll, ih, turns, List.flatMap_cons, turn]

theorem events_moveAll (s : Dispatcher) (ms : List Move) :
    (s.moveAll ms).1.filterMap Entry.event? = (s.turns ms).flatMap Turn.events := by
  rw [entries_moveAll, List.filterMap_flatMap]
  rfl

theorem id_of_events {ms : List Move} {u : Turn} (hu : u ∈ s.turns ms) {e : Event}
    (he : e ∈ u.events) : u.move.subject? = some e.id := by
  induction ms generalizing s with
  | nil => cases hu
  | cons m ms ih =>
    rcases List.mem_cons.1 hu with rfl | hu
    · exact id_of_told he
    · exact ih hu

theorem events_filter {us : List Turn}
    (h : ∀ u ∈ us, ∀ e ∈ u.events, u.move.subject? = some e.id) :
    (us.flatMap Turn.events).filter (·.id = id) =
      (us.filter (·.move.concerns id)).flatMap Turn.events := by
  induction us with
  | nil => rfl
  | cons u us ih =>
    obtain ⟨hu, hus⟩ := List.forall_mem_cons.1 h
    rw [List.flatMap_cons, List.filter_append, ih hus]
    cases hc : u.move.concerns id with
    | false =>
      have hnone : u.events.filter (·.id = id) = [] := by
        refine List.filter_eq_nil_iff.2 fun e he => ?_
        simpa [Move.concerns, hu e he] using hc
      have hleft : (u :: us).filter (·.move.concerns id) = us.filter (·.move.concerns id) :=
        List.filter_cons_of_neg (by simp [hc])
      rw [hnone, hleft, List.nil_append]
    | true =>
      have hall : u.events.filter (·.id = id) = u.events := by
        refine List.filter_eq_self.2 fun e he => ?_
        simpa [Move.concerns, hu e he] using hc
      have hkept : (u :: us).filter (·.move.concerns id) = u :: us.filter (·.move.concerns id) :=
        List.filter_cons_of_pos hc
      rw [hall, hkept, List.flatMap_cons]

/-- Every history is a list of moves; and if of any list of moves those of all other identities are
taken out, and the calls of the identity that is left are numbered in turn, the moves that are left
go as before, turn by turn: what is seen of them is the same, and they start the same tasks. So the
same events are told of the identity in the same order, and in the end it is active or not, its call
is live or not, and the signals on their way to its calls and its tasks are the same. -/
theorem identities_apart (c : Client) :
    (∀ as, Orderly as →
      (∀ m ∈ movesAll (.ofClient c) as, m.registers = false) ∧
        moveAll (.ofClient c) (movesAll (.ofClient c) as) = performAll (.ofClient c) as) ∧
    ∀ (ms : List Move) (id : RequestId), (∀ m ∈ ms, m.registers = false) →
      let ρ := number (issued (.ofClient c) ms)
      let ns := shorten ρ id ms
      let s := (moveAll (.ofClient c) ms).2
      let t := (moveAll (.ofClient c) ns).2
      Faithful ρ (issued (.ofClient c) ms) ∧
      turns (.ofClient c) ns =
        ((turns (.ofClient c) ms).filter (·.move.concerns id)).map (·.rename ρ) ∧
      (moveAll (.ofClient c) ns).1.filterMap Entry.event? =
        ((moveAll (.ofClient c) ms).1.filterMap Entry.event?).filter (·.id = id) ∧
      (id ∈ t.active ↔ id ∈ s.active) ∧
      t.calls.find? id = (s.calls.find? id).map ρ ∧
      t.cancels = (s.cancels.filter (·.id = id)).map ρ ∧
      t.tasks = (s.tasks.filter (·.tag.id = id)).map (retag ρ) := by
  refine ⟨fun as has => ⟨registers_movesAll as _ has, moveAll_movesAll as _⟩, ?_⟩
  intro ms id hms ρ ns s t
  have hρ : Faithful ρ (issued (.ofClient c) ms) := faithful_number _
  obtain ⟨hturns, hmirrors⟩ := (Abreast.ofClient ρ id c).turns hms rfl
  refine ⟨hρ, hturns, ?_, hmirrors.mem_active, hmirrors.find? hρ.id_eq, hmirrors.cancels,
    hmirrors.tasks⟩
  rw [events_moveAll, events_moveAll, hturns, List.flatMap_map,
    events_filter fun u hu e he => id_of_events hu he]
  rfl

/-- An identity in its second use, while its first task and a request of another identity are not
over: the other request is left out, and the signal goes to the first call as before. -/
theorem identities_apart_of_reuse :
    let one : RequestId := ⟨1, by decide⟩
    let two : RequestId := ⟨2, by decide⟩
    let env : Environment := { resolve := fun _ => none, boundary := "" }
    let get : RequestId → Descriptor := fun id => { id, method := "GET", url := "http://a/" }
    let ms := movesAll (.ofClient {}) [.dispatch env (get two) [], .dispatch env (get one) [],
      .abort one, .dispatch env (get one) [], .complete ⟨two, 0⟩ .finished]
    let ns := shorten (number (issued (.ofClient {}) ms)) one ms
    (moveAll (.ofClient {}) ms).2.calls.find? one = some ⟨one, 2⟩ ∧
      (moveAll (.ofClient {}) ns).2.calls.find? one = some ⟨one, 1⟩ ∧
      (moveAll (.ofClient {}) ms).2.cancels = [⟨one, 1⟩] ∧
      (moveAll (.ofClient {}) ns).2.cancels = [⟨one, 0⟩] ∧
      (moveAll (.ofClient {}) ns).1.filterMap Entry.event? = [] := by
  intro one two env get ms ns
  have hms : ∀ m ∈ ms, m.registers = false :=
    ((identities_apart {}).1 [.dispatch env (get two) [], .dispatch env (get one) [],
      .abort one, .dispatch env (get one) [], .complete ⟨two, 0⟩ .finished] (by decide)).1
  obtain ⟨-, -, hevents, -, hfind, hcancels, -⟩ := (identities_apart {}).2 ms one hms
  have hlive : (moveAll (.ofClient {}) ms).2.calls.find? one = some ⟨one, 2⟩ := by decide +kernel
  have hqueued : (moveAll (.ofClient {}) ms).2.cancels = [⟨one, 1⟩] := by decide +kernel
  have hfirst : number (issued (.ofClient {}) ms) ⟨one, 1⟩ = ⟨one, 0⟩ := by decide +kernel
  have hsecond : number (issued (.ofClient {}) ms) ⟨one, 2⟩ = ⟨one, 1⟩ := by decide +kernel
  refine ⟨hlive, ?_, hqueued, ?_, hevents.trans (by decide +kernel)⟩
  · rw [hfind, hlive, Option.map_some, hsecond]
  · rw [hcancels, hqueued]
    exact congrArg (fun tag => [tag]) hfirst

end Outbound.Dispatcher
