import Outbound.Proofs.Dispatch.Ownership

/-! What is told of a request, from the start of its task to its closing event. The head of the
response comes first, if one came; reports of the body follow, of one kind only; the body as a whole
is told at a clean end, unless it was told as text while it came; and the closing event is last. A
signal to cancel may come between any two arrivals. -/

namespace Outbound

inductive Fault
  | broke (e : ExchangeError)
  | timedOut
  deriving DecidableEq, Repr, Inhabited

namespace Fault

def arrival : Fault → Arrival
  | .broke e => .broke e
  | .timedOut => .timedOut

def failure : Fault → Failure
  | .broke e => .ofExchange e
  | .timedOut => .timeout

end Fault

/-- What a transport does with a request, each thing at its time. A body ends with a fault or
without one. -/
inductive Reply
  | refused (now : Time) (fault : Fault)
  | answered (now : Time) (head : ResponseHead) (chunks : List (Time × Bytes)) (last : Time)
      (fault : Option Fault)
  deriving DecidableEq, Repr, Inhabited

namespace Reply

def chunkArrivals (chunks : List (Time × Bytes)) : List (Time × Arrival) :=
  chunks.map fun c => (c.1, .chunk c.2)

def lastArrival (fault : Option Fault) : Arrival := fault.elim .ended Fault.arrival

def arrivals : Reply → List (Time × Arrival)
  | .refused now fault => [(now, fault.arrival)]
  | .answered now head chunks last fault =>
    (now, .head head) :: (chunkArrivals chunks ++ [(last, lastArrival fault)])

def fault? : Reply → Option Fault
  | .refused _ fault => some fault
  | .answered _ _ _ _ fault => fault

def body : Reply → Bytes
  | .refused _ _ => []
  | .answered _ _ chunks _ _ => (chunks.map (·.2)).flatten

variable (reply : Reply) (cancel : Option (Nat × Time))

/-- What a task sees of a reply, if a signal to cancel reaches it behind so many arrivals. -/
def seen : List (Time × Arrival) :=
  match cancel with
  | none => reply.arrivals
  | some (k, now) => reply.arrivals.take k ++ [(now, .cancelled)]

/-- The reply is over before the signal comes, if one comes. -/
def settled : Bool := cancel.all fun c => reply.arrivals.length ≤ c.1

def outcome : Outcome :=
  if reply.settled cancel then reply.fault?.elim .finished fun f => .failed f.failure
  else .cancelled

def head? : Option ResponseHead :=
  match reply with
  | .refused _ _ => none
  | .answered _ head _ _ _ => if cancel.any (·.1 = 0) then none else some head

theorem outcome_eq_finished_iff :
    reply.outcome cancel = .finished ↔ reply.fault? = none ∧ reply.settled cancel = true := by
  unfold outcome
  cases reply.settled cancel <;> cases reply.fault? <;> simp

theorem outcome_eq_cancelled_iff :
    reply.outcome cancel = .cancelled ↔ reply.settled cancel = false := by
  unfold outcome
  cases reply.settled cancel <;> cases reply.fault? <;> simp

end Reply

def Event.TellsBody : Event → Prop
  | .dataReceived _ _ => True
  | _ => False

namespace Submission

variable (sub : Submission)

def streams : Bool := sub.incremental && sub.responseType.isText

def Reports : Event → Prop
  | .incrementalDataReceived id _ _ _ => id = sub.id ∧ sub.streams = true
  | .dataReceivedProgress id _ _ => id = sub.id ∧ sub.incremental = true ∧ sub.streams = false
  | _ => False

def tellHead (head : Option ResponseHead) : List Event :=
  head.toList.map fun h =>
    .responseReceived sub.id h.status (Response.headers h.fields) h.url.text

/-- The body is told where the exchange comes to its end, unless it was told before. -/
def tellBody (body : Bytes) (o : Outcome) : List Event :=
  if o = .finished ∧ sub.streams = false then
    [.dataReceived sub.id (Response.encodeBody sub.responseType body)]
  else []

theorem not_tellsBody_of_mem_tellHead {head : Option ResponseHead} {e : Event}
    (h : e ∈ sub.tellHead head) : ¬ e.TellsBody := by
  obtain ⟨_, -, rfl⟩ := List.mem_map.1 h
  exact not_false

theorem Reports.not_tellsBody {sub : Submission} {e : Event} (h : sub.Reports e) :
    ¬ e.TellsBody := by
  cases e with
  | dataReceived => exact h.elim
  | _ => exact not_false

theorem pairwise_told {sub : Submission} {front : List Event}
    (hfront : ∀ e ∈ front, ¬ e.TellsBody) (body : Bytes) (o : Outcome) :
    (front ++ sub.tellBody body o ++ [o.event sub.id]).Pairwise fun e later =>
      e.TellsBody → later = .requestComplete sub.id := by
  rw [List.append_assoc, List.pairwise_append]
  refine ⟨List.pairwise_of_forall_mem_list fun e he _ _ htells => absurd htells (hfront e he), ?_,
    fun e he _ _ htells => absurd htells (hfront e he)⟩
  unfold tellBody
  split
  · next hend =>
    rw [hend.1]
    simp [Outcome.event]
  · simp

/-- The download of a request is reported only if that was asked for. -/
def Configured : Prop := sub.effective.reportsDownload = true → sub.incremental = true

end Submission

namespace Intake

variable {sub : Submission} {total : Option Nat} {body : Bytes} {intake : Intake} {now : Time}

def Holds (sub : Submission) (body : Bytes) : Intake → Prop
  | .text _ _ => sub.streams = true
  | .whole taken meter => sub.streams = false ∧ taken = body ∧ (meter.isSome → sub.incremental)

theorem holds_start (h : sub.Configured) : (start sub now total).Holds sub [] := by
  unfold start
  split
  · next hstreams => exact hstreams
  · next hstreams =>
    have hwhole : sub.streams = false := by simpa [Submission.streams] using hstreams
    refine ⟨hwhole, rfl, fun hmeter => ?_⟩
    split at hmeter
    · next hreports => exact h hreports
    · cases hmeter

theorem reports_tellText {read : Nat} {decoded : List Char} (h : sub.streams = true) :
    ∀ e ∈ tellText sub.id total read decoded, sub.Reports e := by
  unfold tellText
  split
  · simp
  · simpa using ⟨rfl, h⟩

theorem reports_readPieces (h : sub.streams = true) (pieces : List Bytes) (decoder : Decoder)
    (read : Nat) : ∀ e ∈ (readPieces sub.id total decoder read pieces).1, sub.Reports e := by
  induction pieces generalizing decoder read with
  | nil => simp [readPieces]
  | cons piece pieces ih =>
    intro e he
    rcases List.mem_append.1 he with hfirst | hrest
    · exact reports_tellText h e hfirst
    · exact ih _ _ e hrest

theorem reports_tellProgress {report : Option Progress} (hincremental : sub.incremental = true)
    (hwhole : sub.streams = false) :
    ∀ e ∈ tellProgress sub.id report, sub.Reports e := by
  intro e he
  obtain ⟨p, -, rfl⟩ := List.mem_map.1 he
  exact ⟨rfl, hincremental, hwhole⟩

theorem Holds.chunk (h : intake.Holds sub body) (total : Option Nat) (now : Time) (data : Bytes) :
    (∀ e ∈ (intake.chunk sub.id total now data).1, sub.Reports e) ∧
      (intake.chunk sub.id total now data).2.Holds sub (body ++ data) := by
  cases intake with
  | text decoder read => exact ⟨reports_readPieces h _ _ _, h⟩
  | whole taken meter =>
    obtain ⟨hwhole, rfl, hmeter⟩ := h
    cases meter with
    | none => exact ⟨by simp [Intake.chunk], hwhole, rfl, hmeter⟩
    | some meter =>
      exact ⟨reports_tellProgress (hmeter rfl) hwhole, hwhole, rfl, fun _ => hmeter rfl⟩

theorem Holds.finish (h : intake.Holds sub body) (total : Option Nat) :
    ∃ progress, (∀ e ∈ progress, sub.Reports e) ∧
      intake.finish sub.id sub.responseType total =
        progress ++ sub.tellBody body .finished := by
  cases intake with
  | text decoder read =>
    have hstreams : sub.streams = true := h
    refine ⟨tellText sub.id total read decoder.finish.1, reports_tellText hstreams, ?_⟩
    simp [Intake.finish, Submission.tellBody, hstreams]
  | whole taken meter =>
    obtain ⟨hwhole, rfl, hmeter⟩ := h
    refine ⟨tellProgress sub.id (meter.bind (·.close.1)), ?_, by
      simp [Intake.finish, Submission.tellBody, hwhole]⟩
    cases meter with
    | none => simp [tellProgress]
    | some meter => exact reports_tellProgress (hmeter rfl) hwhole

end Intake

namespace Arrival

def outcome? : Arrival → Option Outcome
  | .ended => some .finished
  | .broke e => some (.failed (.ofExchange e))
  | .timedOut => some (.failed .timeout)
  | .cancelled => some .cancelled
  | _ => none

end Arrival

namespace Exchange

variable {sub : Submission} {total : Option Nat} {body : Bytes} {intake : Intake} {now : Time}
  {a : Arrival} {o : Outcome} {rest : List (Time × Arrival)}

theorem run_cons (x : Exchange) :
    run sub x ((now, a) :: rest) =
      ((x.step sub now a).1 ++ (run sub (x.step sub now a).2 rest).1,
        (run sub (x.step sub now a).2 rest).2) := rfl

theorem run_waiting_of_outcome (h : a.outcome? = some o) (hend : o ≠ .finished) :
    run sub .waiting ((now, a) :: rest) = ([], .closed o) := by
  rw [run_cons]
  cases a <;> cases h <;> simp_all [step, run_closed]

theorem exists_run_receiving_of_outcome (hi : intake.Holds sub body) (h : a.outcome? = some o) :
    ∃ progress, (∀ e ∈ progress, sub.Reports e) ∧
      run sub (.receiving total intake) ((now, a) :: rest) =
        (progress ++ sub.tellBody body o, .closed o) := by
  obtain ⟨progress, hprogress, hfinish⟩ := hi.finish total
  cases a <;> cases h
  case ended =>
    refine ⟨progress, hprogress, ?_⟩
    rw [run_cons]
    simp only [step, run_closed, hfinish, List.append_nil]
  all_goals
    refine ⟨[], by simp, ?_⟩
    rw [run_cons]
    simp [step, run_closed, Submission.tellBody]

theorem exists_run_receiving (hi : intake.Holds sub body) (h : a.outcome? = some o)
    (chunks : List (Time × Bytes)) (now : Time) (rest : List (Time × Arrival)) :
    ∃ progress, (∀ e ∈ progress, sub.Reports e) ∧
      run sub (.receiving total intake) (Reply.chunkArrivals chunks ++ (now, a) :: rest) =
        (progress ++ sub.tellBody (body ++ (chunks.map (·.2)).flatten) o, .closed o) := by
  -- on the chunks to come; those that have come are in the intake, which holds their bytes
  induction chunks generalizing intake body with
  | nil =>
    rw [List.map_nil, List.flatten_nil, List.append_nil]
    exact exists_run_receiving_of_outcome hi h
  | cons c chunks ih =>
    obtain ⟨time, data⟩ := c
    obtain ⟨hreports, hholds⟩ := hi.chunk total time data
    obtain ⟨progress, hprogress, hrun⟩ := ih hholds
    refine ⟨_, List.forall_mem_append.2 ⟨hreports, hprogress⟩, ?_⟩
    rw [List.map_cons, List.flatten_cons, ← List.append_assoc body, List.append_assoc _ progress]
    have hstep : step sub time (.receiving total intake) (.chunk data) =
        ((intake.chunk sub.id total time data).1,
          .receiving total (intake.chunk sub.id total time data).2) := rfl
    rw [Reply.chunkArrivals, List.map_cons, List.cons_append, run_cons, hstep]
    rw [Reply.chunkArrivals] at hrun
    rw [hrun]

theorem exists_run_head (hsub : sub.Configured) (h : a.outcome? = some o) (head : ResponseHead)
    (chunks : List (Time × Bytes)) (time now : Time) (rest : List (Time × Arrival)) :
    ∃ progress, (∀ e ∈ progress, sub.Reports e) ∧
      run sub .waiting
          ((time, .head head) :: (Reply.chunkArrivals chunks ++ (now, a) :: rest)) =
        (sub.tellHead (some head) ++ progress ++ sub.tellBody (chunks.map (·.2)).flatten o,
          .closed o) := by
  have hi : (Intake.start sub time head.length).Holds sub [] := Intake.holds_start hsub
  obtain ⟨progress, hprogress, hrun⟩ :=
    exists_run_receiving hi h chunks now rest
  have hstep : step sub time .waiting (.head head) =
      (sub.tellHead (some head), .receiving head.length (.start sub time head.length)) := rfl
  refine ⟨progress, hprogress, ?_⟩
  rw [run_cons, hstep, hrun, List.append_assoc]
  rfl

end Exchange

namespace Fault

@[simp] theorem outcome?_arrival (f : Fault) : f.arrival.outcome? = some (.failed f.failure) := by
  cases f <;> rfl

end Fault

namespace Reply

variable {sub : Submission}

theorem outcome?_lastArrival (fault : Option Fault) :
    (lastArrival fault).outcome? =
      some (fault.elim .finished fun f => .failed f.failure) := by
  cases fault with
  | none => rfl
  | some f => exact f.outcome?_arrival

theorem exists_seen_of_settled {reply : Reply} {cancel : Option (Nat × Time)}
    (h : reply.settled cancel = true) : ∃ rest, reply.seen cancel = reply.arrivals ++ rest := by
  cases cancel with
  | none => exact ⟨[], (List.append_nil _).symm⟩
  | some c =>
    have hlength : reply.arrivals.length ≤ c.1 := by simpa [settled] using h
    exact ⟨[(c.2, .cancelled)], by rw [seen, List.take_of_length_le hlength]⟩

theorem head?_of_settled {now last : Time} {head : ResponseHead} {chunks : List (Time × Bytes)}
    {fault : Option Fault} {cancel : Option (Nat × Time)}
    (h : (answered now head chunks last fault).settled cancel = true) :
    (answered now head chunks last fault).head? cancel = some head := by
  cases cancel with
  | none => rfl
  | some c =>
    have hpos : c.1 ≠ 0 := by
      intro hzero
      simp [settled, arrivals, hzero] at h
    simp [head?, hpos]

theorem exists_run_of_settled (hsub : sub.Configured) {reply : Reply}
    {cancel : Option (Nat × Time)} (h : reply.settled cancel = true) :
    ∃ progress, (∀ e ∈ progress, sub.Reports e) ∧ (reply.head? cancel = none → progress = []) ∧
      Exchange.run sub .waiting (reply.seen cancel) =
        (sub.tellHead (reply.head? cancel) ++ progress ++
          sub.tellBody reply.body (reply.outcome cancel), .closed (reply.outcome cancel)) := by
  -- a signal that is late is part of the rest, which a closed exchange does not look at
  obtain ⟨rest, hseen⟩ := exists_seen_of_settled h
  rw [hseen, outcome, if_pos h]
  cases reply with
  | refused now f =>
    have hrun : Exchange.run sub .waiting ((now, f.arrival) :: rest) =
        ([], .closed (.failed f.failure)) :=
      Exchange.run_waiting_of_outcome f.outcome?_arrival (by simp)
    exact ⟨[], by simp, fun _ => rfl, hrun⟩
  | answered now head chunks last fault =>
    obtain ⟨progress, hprogress, hrun⟩ :=
      Exchange.exists_run_head hsub (outcome?_lastArrival fault) head chunks now last rest
    refine ⟨progress, hprogress, fun hnone => ?_, ?_⟩
    · rw [head?_of_settled h] at hnone
      cases hnone
    · rw [head?_of_settled h, arrivals, List.cons_append, List.append_assoc]
      exact hrun

theorem exists_run_of_not_settled (hsub : sub.Configured) {reply : Reply}
    {cancel : Option (Nat × Time)} (h : reply.settled cancel = false) :
    ∃ progress, (∀ e ∈ progress, sub.Reports e) ∧ (reply.head? cancel = none → progress = []) ∧
      Exchange.run sub .waiting (reply.seen cancel) =
        (sub.tellHead (reply.head? cancel) ++ progress, .closed .cancelled) := by
  cases cancel with
  | none => cases h
  | some c =>
    obtain ⟨k, time⟩ := c
    have hfew : k < reply.arrivals.length := by simpa [settled] using h
    have hearly : Exchange.run sub .waiting [(time, .cancelled)] = ([], .closed .cancelled) :=
      Exchange.run_waiting_of_outcome rfl (by simp)
    cases reply with
    | refused now f =>
      obtain rfl : k = 0 := by simpa [arrivals] using hfew
      exact ⟨[], by simp, fun _ => rfl, hearly⟩
    | answered now head chunks last fault =>
      cases k with
      | zero => exact ⟨[], by simp, fun _ => rfl, hearly⟩
      | succ k =>
        -- the last arrival is not among those in front of the signal, only chunks are
        have hk : k ≤ (chunkArrivals chunks).length := by
          simpa [arrivals, Nat.lt_succ_iff] using hfew
        have htaken : (chunkArrivals chunks ++ [(last, lastArrival fault)]).take k =
            chunkArrivals (chunks.take k) := by
          rw [List.take_append_of_le_length hk, chunkArrivals, chunkArrivals, List.map_take]
        have hsignal : Arrival.cancelled.outcome? = some .cancelled := rfl
        obtain ⟨progress, hprogress, hrun⟩ :=
          Exchange.exists_run_head hsub hsignal head (chunks.take k) now time []
        have hhead : (answered now head chunks last fault).head? (some (k + 1, time)) =
            some head := rfl
        refine ⟨progress, hprogress, fun hnone => ?_, ?_⟩
        · rw [hhead] at hnone
          cases hnone
        · rw [hhead, seen, arrivals, List.take_succ_cons, htaken, List.cons_append, hrun]
          exact congrArg (·, _) (List.append_nil _)

theorem exists_run_seen (hsub : sub.Configured) (reply : Reply) (cancel : Option (Nat × Time)) :
    ∃ progress, (∀ e ∈ progress, sub.Reports e) ∧ (reply.head? cancel = none → progress = []) ∧
      Exchange.run sub .waiting (reply.seen cancel) =
        (sub.tellHead (reply.head? cancel) ++ progress ++
          sub.tellBody reply.body (reply.outcome cancel), .closed (reply.outcome cancel)) := by
  cases h : reply.settled cancel with
  | true => exact exists_run_of_settled hsub h
  | false =>
    obtain ⟨progress, hprogress, hnone, hrun⟩ := exists_run_of_not_settled hsub h
    refine ⟨progress, hprogress, hnone, ?_⟩
    have hcancelled : reply.outcome cancel = .cancelled := (outcome_eq_cancelled_iff ..).2 h
    rw [hrun, hcancelled]
    exact congrArg (·, _) (List.append_nil _).symm

end Reply

namespace Dispatcher

theorem holdsOfStarted_configured :
    HoldsOfStarted fun tag sub => tag.id = sub.id ∧ sub.Configured := by
  intro s env d sub hsub
  obtain ⟨r, -, hr⟩ := Trial.andThen_eq_ok_iff.1 hsub
  cases hr
  refine ⟨rfl, fun hreports => ?_⟩
  exact (Bool.and_eq_true_iff.1 hreports).1

theorem events_complete {s : Dispatcher} {t : Task} (ht : t ∈ s.tasks) (o : Outcome) :
    (s.complete t.tag o).1.filterMap Entry.event? = [o.event t.tag.id] := by
  rw [complete_of_mem (List.mem_map_of_mem ht)]
  rfl

/-- Whatever has happened, and whatever the transport does with the request of a task: what is told
of it is the head that is seen, then reports of the body, all of the one kind that the request asks
for, then the body where it came to its end, and last the one closing event. It is the good one
exactly if the reply ends without a fault before a signal to cancel is seen. -/
theorem trace_of_task (c : Client) (as : List Action) (t : Task) (reply : Reply)
    (cancel : Option (Nat × Time)) (ht : t ∈ (performAll (.ofClient c) as).2.tasks) :
    let s := (performAll (.ofClient c) as).2
    let sub := t.submission
    let o := reply.outcome cancel
    let told := (Exchange.run sub .waiting (reply.seen cancel)).1 ++
      (s.complete t.tag o).1.filterMap Entry.event?
    (Exchange.run sub .waiting (reply.seen cancel)).2 = .closed o ∧
      (∃ progress, (∀ e ∈ progress, sub.Reports e) ∧
        (reply.head? cancel = none → progress = []) ∧
        told = sub.tellHead (reply.head? cancel) ++ progress ++ sub.tellBody reply.body o ++
          [o.event sub.id]) ∧
      (o = .finished ↔ reply.fault? = none ∧ reply.settled cancel = true) ∧
      (o = .cancelled ↔ reply.settled cancel = false) ∧
      told.Pairwise fun e later => e.TellsBody → later = .requestComplete sub.id := by
  intro s sub o told
  obtain ⟨hid, hsub⟩ := forall_tasks_performAll holdsOfStarted_configured c as t ht
  obtain ⟨progress, hprogress, hnone, hrun⟩ := Reply.exists_run_seen hsub reply cancel
  have htold : told = sub.tellHead (reply.head? cancel) ++ progress ++ sub.tellBody reply.body o ++
      [o.event sub.id] := by
    simp only [told]
    rw [hrun, events_complete ht, hid]
  refine ⟨congrArg Prod.snd hrun, ⟨progress, hprogress, hnone, htold⟩,
    reply.outcome_eq_finished_iff cancel, reply.outcome_eq_cancelled_iff cancel, ?_⟩
  rw [htold]
  refine Submission.pairwise_told (List.forall_mem_append.2 ⟨fun e he => ?_, fun e he => ?_⟩) _ _
  · exact sub.not_tellsBody_of_mem_tellHead he
  · exact (hprogress e he).not_tellsBody

theorem trace_of_task_of_two_chunks :
    let one : RequestId := ⟨1, by decide⟩
    let d : Descriptor := {
      id := one
      method := "GET"
      url := "http://a/"
      responseType := .base64
      incremental := true }
    let s := (performAll (.ofClient {})
      [.dispatch { resolve := fun _ => none, boundary := "" } d []]).2
    ∃ t ∈ s.tasks,
      let sub := t.submission
      let head : ResponseHead := { status := 200, url := sub.request.url }
      let reply : Reply := .answered 0 head [(1, [1, 2]), (2, [3])] 3 none
      (∃ progress,
        (Exchange.run sub .waiting (reply.seen none)).1 ++
            (s.complete t.tag .finished).1.filterMap Entry.event? =
          sub.tellHead (some head) ++ progress ++
            [.dataReceived one "AQID", .requestComplete one] ∧
        ∀ e ∈ progress, sub.Reports e) ∧
      ∃ progress,
        (Exchange.run sub .waiting (reply.seen (some (2, 2)))).1 ++
            (s.complete t.tag .cancelled).1.filterMap Entry.event? =
          sub.tellHead (some head) ++ progress ++ [.requestCancelled one] ∧
        ∀ e ∈ progress, sub.Reports e := by
  intro one d s
  have hsome : s.tasks ≠ [] := by decide +kernel
  have hasked : ∀ t ∈ s.tasks, t.submission.id = one ∧ t.submission.responseType = .base64 := by
    decide +kernel
  obtain ⟨t, ht⟩ := List.exists_mem_of_ne_nil _ hsome
  obtain ⟨hid, htype⟩ := hasked t ht
  refine ⟨t, ht, ?_⟩
  intro sub head reply
  have hwhole : sub.streams = false := by
    simp only [Submission.streams, sub, htype, ResponseType.isText, Bool.and_false]
  constructor
  · obtain ⟨-, ⟨progress, hprogress, -, htold⟩, -⟩ := trace_of_task {} _ t reply none ht
    have hencoded : Response.encodeBody .base64 [1, 2, 3] = "AQID" := by decide
    have hbody : sub.tellBody reply.body .finished = [.dataReceived one "AQID"] := by
      rw [Submission.tellBody, if_pos ⟨rfl, hwhole⟩, htype, hid, ← hencoded]
      rfl
    refine ⟨progress, htold.trans ?_, hprogress⟩
    have hend : reply.outcome none = .finished := rfl
    rw [hend, hbody, hid, List.append_assoc]
    rfl
  · obtain ⟨-, ⟨progress, hprogress, -, htold⟩, -⟩ := trace_of_task {} _ t reply (some (2, 2)) ht
    refine ⟨progress, htold.trans ?_, hprogress⟩
    have hend : reply.outcome (some (2, 2)) = .cancelled := rfl
    rw [hend, hid]
    exact congrArg (· ++ _) (List.append_nil _)

end Dispatcher

end Outbound
