import Outbound.Proofs.Dispatch.Step
import Outbound.Proofs.Request.Room

/-! A dispatch starts a task, or it is refused, or it overruns. A refusal tells one event and changes
nothing; an overrun tells none. What it comes to is decided by the first check that is not passed, in
a fixed order, and each check is said here of the descriptor as the caller wrote it. -/

namespace Outbound

/-- What is wrong with a body. Of several parts the first that is invalid decides. -/
def Body.fault? (resolve : FileResolver) (typed : Bool) : Body → Option Failure
  | .empty => none
  | .text _ => if typed then none else some .missingContentType
  | .file uri =>
    if !typed then some .missingContentType
    else if (resolve uri).isNone then some (.fileNotFound uri)
    else none
  | .multipart parts => parts.findSome? (Part.fault? resolve)

namespace Dispatcher

inductive Check
  | accepting
  | method
  | url
  | headers
  | body
  | size
  | host
  | identity
  deriving DecidableEq, Repr

namespace Check

def ofDescriptor : List Check := [.method, .url, .headers, .body, .size, .host]

def all : List Check := .accepting :: ofDescriptor ++ [.identity]

end Check

/-- What halts a dispatch at a check. All but one fail. -/
def fault? (s : Dispatcher) (env : Environment) (d : Descriptor) : Check → Option Halt
  | .accepting => if s.active.shuttingDown then some (.failure .shuttingDown) else none
  | .method => if Token.valid d.method then none else some (.failure (.invalidMethod d.method))
  | .url =>
    match Url.parse d.url with
    | .error e => some (.failure (.invalidUrl e.message))
    | .ok _ => none
  | .headers => if RawField.wellFormed d.headers then none else some (.failure .invalidHeaders)
  | .body =>
    (d.body.fault? env.resolve
      ((RawField.pairs d.headers).any (Field.named Header.contentType))).map .failure
  | .size => if d.oversized env then some .overrun else none
  | .host =>
    match Url.parse d.url with
    | .error _ => none
    | .ok u =>
      if u.host?.isNone then
        some (.failure (.invalidUrl ("builder error for url (" ++ u.text ++ ")")))
      else none
  | .identity =>
    if s.active.contains d.id || s.calls.contains d.id then
      some (.failure (.alreadyInFlight d.id))
    else none

def firstFault? (s : Dispatcher) (env : Environment) (d : Descriptor) : Option Halt :=
  Check.all.findSome? (s.fault? env d)

end Dispatcher

theorem Payload.resolve_fault? (means : Means) (method : String) (body : Body) (l : FieldList)
    (pack : Bytes → Bytes) :
    (resolve means method body l pack).fault? =
      body.fault? means.resolve l.contentType?.isSome := by
  cases body with
  | empty => rfl
  | text content =>
    rw [resolve, Body.fault?]
    cases l.contentType? <;> rfl
  | file uri =>
    rw [resolve, Body.fault?]
    cases l.contentType? with
    | none => rfl
    | some type =>
      simp only [Option.isNone_some, Option.isSome_some, Bool.not_true, Bool.false_eq_true,
        ite_false]
      rw [Trial.fault?_andThen_succeed, Trial.fault?_ask]
  | multipart parts =>
    rw [resolve, Trial.fault?_andThen_succeed, Multipart.assemble, Trial.fault?_andThen_succeed,
      Multipart.readParts_fault?, Body.fault?]

namespace Descriptor

variable {env : Environment} {d : Descriptor}

theorem addressed_fault? {α : Type} (next : Request → α) (method : String) (u : Url) :
    (match Request.start method u with
      | .error f => Trial.fail (.failure f)
      | .ok r => Trial.succeed (next r) : Trial α Halt).fault? =
      if u.host?.isNone then
        some (.failure (.invalidUrl ("builder error for url (" ++ u.text ++ ")")))
      else none := by
  unfold Request.start
  cases u.host?.isNone with
  | true => rfl
  | false => cases u.authority.bind Request.basic? <;> rfl

theorem draft_of_method {f : Failure} (h : d.parseMethod = .error f) :
    d.draft env = .fail (.failure f) := by
  rw [draft, h]
  rfl

theorem draft_of_url {f : Failure} {method : String} (hmethod : d.parseMethod = .ok method)
    (h : d.parseUrl = .error f) : d.draft env = .fail (.failure f) := by
  rw [draft, hmethod, h]
  rfl

theorem draft_of_fields {f : Failure} {method : String} {u : Url}
    (hmethod : d.parseMethod = .ok method) (hurl : d.parseUrl = .ok u)
    (h : d.parseFields env.client.settings = .error f) : d.draft env = .fail (.failure f) := by
  rw [draft, hmethod, hurl, h]
  rfl

theorem resolved_fault? (env : Environment) (d : Descriptor) :
    (d.resolved env).fault? = d.body.fault? env.resolve
      ((RawField.pairs d.headers).any (Field.named Header.contentType)) := by
  rw [resolved, Payload.resolve_fault?]
  exact congrArg (d.body.fault? env.resolve) (FieldList.isSome_contentType?_arranged _ _ _)

theorem parseFields_of_wellFormed (h : RawField.wellFormed d.headers = true) :
    d.parseFields env.client.settings = .ok (d.fieldList env (RawField.pairs d.headers)) := by
  obtain ⟨own, hraw, hvalid⟩ := FieldList.wellFormed_iff.1 h
  rw [parseFields, hraw, FieldList.build?_toRaw _ _ hvalid, FieldList.pairs_map_toRaw]
  rfl

theorem draft_fault?_of_read {u : Url} (hmethod : d.parseMethod = .ok d.method)
    (hurl : d.parseUrl = .ok u)
    (hfields : d.parseFields env.client.settings =
      .ok (d.fieldList env (RawField.pairs d.headers))) :
    (d.draft env).fault? = ((d.resolved env).fault?.map .failure).or
      ((if d.oversized env then some .overrun else none).or
        (if u.host?.isNone then
          some (.failure (.invalidUrl ("builder error for url (" ++ u.text ++ ")")))
        else none)) := by
  rw [draft, hmethod, hurl, hfields, ← Trial.fault?_halting]
  change (((d.resolved env).halting.andThen _).fault?) = _
  cases hbody : (d.resolved env).outcome with
  | error f =>
    have hhalted : (d.resolved env).halting.outcome = .error (.failure f) := by
      rw [Trial.halting, hbody]
      rfl
    rw [Trial.fault?_eq_some_iff.2 hhalted, Option.some_or]
    exact Trial.fault?_andThen_of_error hhalted
  | ok payload =>
    have hready : (d.resolved env).halting.outcome = .ok payload :=
      Trial.halting_eq_ok_iff.2 hbody
    rw [Trial.fault?_eq_none_iff.2 ⟨payload, hready⟩, Option.none_or,
      Trial.fault?_andThen_of_ok hready, oversized_of_ok hbody]
    cases env.holds payload (d.fieldList env (RawField.pairs d.headers)) with
    | false => rfl
    | true => exact addressed_fault? _ d.method u

theorem draft_fault? (s : Dispatcher) (env : Environment) (d : Descriptor) :
    (d.draft env).fault? = Dispatcher.Check.ofDescriptor.findSome? (s.fault? env d) := by
  simp only [Dispatcher.Check.ofDescriptor, List.findSome?_cons, List.findSome?_nil]
  cases hvalid : Token.valid d.method with
  | false =>
    have hmethod : d.parseMethod = .error (.invalidMethod d.method) := by
      simp [parseMethod, Method.valid, hvalid]
    rw [draft_of_method hmethod]
    simp [Dispatcher.fault?, hvalid, Trial.fault?_fail]
  | true =>
    have hmethod : d.parseMethod = .ok d.method := by simp [parseMethod, Method.valid, hvalid]
    cases hparse : Url.parse d.url with
    | error e =>
      have hurl : d.parseUrl = .error (.invalidUrl e.message) := by
        rw [parseUrl, hparse]
        rfl
      rw [draft_of_url hmethod hurl]
      simp [Dispatcher.fault?, hvalid, hparse, Trial.fault?_fail]
    | ok u =>
      have hurl : d.parseUrl = .ok u := by
        rw [parseUrl, hparse]
        rfl
      cases hform : RawField.wellFormed d.headers with
      | false =>
        have hfields : d.parseFields env.client.settings = .error .invalidHeaders := by
          rw [parseFields, FieldList.build?_of_not_wellFormed hform]
        rw [draft_of_fields hmethod hurl hfields]
        simp [Dispatcher.fault?, hvalid, hparse, hform, Trial.fault?_fail]
      | true =>
        have hfields : d.parseFields env.client.settings =
            .ok (d.fieldList env (RawField.pairs d.headers)) := parseFields_of_wellFormed hform
        rw [draft_fault?_of_read hmethod hurl hfields, resolved_fault?]
        simp only [Dispatcher.fault?, hvalid, hparse, hform, ite_true]
        cases d.body.fault? env.resolve _ with
        | some f => rfl
        | none => cases d.oversized env <;> cases u.host?.isNone <;> rfl

theorem prepare_fault? (s : Dispatcher) (env : Environment) (d : Descriptor) :
    (d.prepare env).fault? = Dispatcher.Check.ofDescriptor.findSome? (s.fault? env d) := by
  rw [← draft_fault?, prepare, Trial.fault?_andThen_succeed]

theorem prepare_overruns_iff : (d.prepare env).outcome = .error .overrun ↔ d.overruns env = true := by
  rw [← Trial.fault?_eq_some_iff, prepare_fault? {}]
  simp only [Dispatcher.Check.ofDescriptor, List.findSome?_cons, List.findSome?_nil,
    Dispatcher.fault?, ← resolved_fault?, overruns]
  cases Token.valid d.method with
  | false => simp
  | true =>
    cases Url.parse d.url with
    | error e => simp [Except.isOk, Except.toBool]
    | ok u =>
      cases RawField.wellFormed d.headers with
      | false => simp
      | true =>
        cases hbody : (d.resolved env).outcome with
        | error f => simp [Trial.fault?_eq_some_iff.2 hbody, oversized_of_error hbody]
        | ok payload =>
          -- the host is asked behind the size, so a missing one does not hide an overrun
          rw [Trial.fault?_eq_none_iff.2 ⟨payload, hbody⟩]
          cases d.oversized env <;> by_cases hhost : u.host? = none <;>
            simp [hhost, Except.isOk, Except.toBool]

theorem overruns_of_ne (h : (d.prepare env).outcome ≠ .error .overrun) :
    d.overruns env = false := by
  rwa [Ne, prepare_overruns_iff, Bool.not_eq_true] at h

end Descriptor

namespace Dispatcher

variable {s t : Dispatcher} {own : List Entry} {id : RequestId} {f : Failure}

def Starts (s : Dispatcher) (id : RequestId) (own : List Entry) (t : Dispatcher) : Prop :=
  ∃ sub : Submission, sub.id = id ∧ own = [.prepared sub.request] ∧ t = s.accept sub

/-- A request is refused: that is told, and nothing else happens. -/
structure Refuses (s : Dispatcher) (id : RequestId) (f : Failure) (own : List Entry)
    (t : Dispatcher) : Prop where
  told : own.filterMap Entry.event? = [.requestError id f.message f.isTimeout]
  active : t.active = s.active
  live : t.calls.live = s.calls.live
  tasks : t.tasks = s.tasks
  cancels : t.cancels = s.cancels
  jar : t.jar = s.jar

theorem Refuses.of_tell {shown : List Entry} (hshown : shown = [] ∨ ∃ r, shown = [.prepared r])
    (ht : t = s ∨ t = s.skip) :
    Refuses s id f (shown ++ [s.tell (.ofFailure id f)]) t where
  told := by
    rcases hshown with rfl | ⟨r, rfl⟩ <;> rfl
  active := by rcases ht with rfl | rfl <;> rfl
  live := by rcases ht with rfl | rfl <;> rfl
  tasks := by rcases ht with rfl | rfl <;> rfl
  cancels := by rcases ht with rfl | rfl <;> rfl
  jar := by rcases ht with rfl | rfl <;> rfl

theorem Starts.not_refuses (hs : Starts s id own t) : ¬ Refuses s id f own t := by
  intro hr
  obtain ⟨sub, -, -, rfl⟩ := hs
  have hlength : (s.accept sub).tasks.length = s.tasks.length := congrArg List.length hr.tasks
  simp [accept] at hlength

/-- A request overruns: nothing is told, and nothing happens. -/
def Overruns (s : Dispatcher) (id : RequestId) (own : List Entry) (t : Dispatcher) : Prop :=
  own = [.overran id] ∧ t = s

theorem Overruns.not_starts (ho : Overruns s id own t) : ¬ Starts s id own t := by
  rintro ⟨sub, -, rfl, -⟩
  cases ho.1

theorem Overruns.not_refuses (ho : Overruns s id own t) : ¬ Refuses s id f own t := by
  intro hr
  have htold := hr.told
  rw [ho.1] at htold
  cases htold

theorem refuses_refuse (s : Dispatcher) (id : RequestId) (f : Failure) :
    Refuses s id f (s.refuse id f).1 (s.refuse id f).2 :=
  Refuses.of_tell (.inl rfl) (.inl rfl)

variable {env : Environment} {d : Descriptor}

def ComesTo (s : Dispatcher) (id : RequestId) (own : List Entry) (t : Dispatcher) :
    Option Halt → Prop
  | none => Starts s id own t
  | some (.failure f) => Refuses s id f own t
  | some .overrun => Overruns s id own t

namespace ComesTo

variable {halt : Option Halt}

theorem starts_iff (h : ComesTo s id own t halt) : Starts s id own t ↔ halt = none := by
  rcases halt with _ | _ | _
  · exact iff_of_true h rfl
  · exact iff_of_false (fun hs => hs.not_refuses h) nofun
  · exact iff_of_false (Overruns.not_starts h) nofun

theorem overruns_iff (h : ComesTo s id own t halt) :
    Overruns s id own t ↔ halt = some .overrun := by
  rcases halt with _ | _ | _
  · exact iff_of_false (fun ho => ho.not_starts h) nofun
  · exact iff_of_false (fun ho => ho.not_refuses h) nofun
  · exact iff_of_true h rfl

end ComesTo

theorem submit_comes_to (s : Dispatcher) (env : Environment) (d : Descriptor) :
    (Starts s d.id (s.submit env d).1 (s.submit env d).2 ∨
      (∃ f, Refuses s d.id f (s.submit env d).1 (s.submit env d).2) ∨
      Overruns s d.id (s.submit env d).1 (s.submit env d).2) ∧
    (Overruns s d.id (s.submit env d).1 (s.submit env d).2 ↔
      (d.prepare env).outcome = .error .overrun) := by
  rcases submit_cases s env d with ⟨sub, hsub, hid, -, heq⟩ |
    ⟨shown, f, t, hfits, ht, hshown, heq⟩ | ⟨hover, heq⟩
  · have hstarts : Starts s d.id (s.submit env d).1 (s.submit env d).2 := by
      rw [heq]
      exact ⟨sub, hid, rfl, rfl⟩
    exact ⟨.inl hstarts, iff_of_false (fun ho => ho.not_starts hstarts) (by simp [hsub])⟩
  · have hrefuses : Refuses s d.id f (s.submit env d).1 (s.submit env d).2 := by
      rw [heq]
      exact Refuses.of_tell hshown ht
    exact ⟨.inr (.inl ⟨f, hrefuses⟩), iff_of_false (fun ho => ho.not_refuses hrefuses) hfits⟩
  · have hoverruns : Overruns s d.id (s.submit env d).1 (s.submit env d).2 := by
      rw [heq]
      exact ⟨rfl, rfl⟩
    exact ⟨.inr (.inr hoverruns), iff_of_true hoverruns hover⟩

theorem submit_of_identity {sub : Submission} (hp : (d.prepare env).outcome = .ok sub)
    (hopen : s.active.shuttingDown = false) :
    ComesTo s d.id (s.submit env d).1 (s.submit env d).2 (s.fault? env d .identity) := by
  have hid : sub.id = d.id := id_of_prepare hp
  rw [submit_of_ok hp, ← hid, fault?, ← hid]
  cases hcalled : s.calls.contains sub.id with
  | true =>
    rw [Bool.or_true, if_pos rfl, start_of_contains hcalled]
    exact Refuses.of_tell (.inr ⟨_, rfl⟩) (.inl rfl)
  | false =>
    cases hactive : s.active.contains sub.id with
    | true =>
      rw [Bool.true_or, if_pos rfl, start_of_mem hcalled (ActiveSet.contains_iff.1 hactive)]
      exact Refuses.of_tell (.inr ⟨_, rfl⟩) (.inr rfl)
    | false =>
      have hinactive : sub.id ∉ s.active := by simpa [ActiveSet.contains] using hactive
      rw [start_of_free ⟨⟨hcalled, hinactive⟩, hopen⟩]
      exact ⟨sub, rfl, rfl, rfl⟩

theorem firstFault?_eq (s : Dispatcher) (env : Environment) (d : Descriptor) :
    s.firstFault? env d = (s.fault? env d .accepting).or
      ((d.prepare env).fault?.or (s.fault? env d .identity)) := by
  rw [firstFault?, Check.all, List.cons_append, List.findSome?_cons, List.findSome?_append,
    Descriptor.prepare_fault? s]
  cases s.fault? env d .accepting with
  | some f => rfl
  | none => cases h : s.fault? env d .identity <;> simp [h]

theorem dispatch_comes_to (s : Dispatcher) (env : Environment) (d : Descriptor) :
    ∃ own t, perform s (.dispatch env d []) = (.asked d.id :: own, t) ∧
      ComesTo s d.id own t (s.firstFault? env d) := by
  rw [firstFault?_eq]
  cases hdown : s.active.shuttingDown with
  | true =>
    have haccepting : s.fault? env d .accepting = some (.failure .shuttingDown) := by
      simp [fault?, hdown]
    rw [haccepting, Option.some_or]
    exact ⟨_, _, perform_dispatch_of_closed hdown, refuses_refuse s d.id .shuttingDown⟩
  | false =>
    have haccepting : s.fault? env d .accepting = none := by simp [fault?, hdown]
    have hperform : perform s (.dispatch env d []) = _ := perform_dispatch_of_open hdown
    refine ⟨_, _, hperform, ?_⟩
    rw [haccepting, Option.none_or, performAll_nil]
    cases hp : (d.prepare env).fault? with
    | some halt =>
      have houtcome : (d.prepare env).outcome = .error halt := Trial.fault?_eq_some_iff.1 hp
      rw [Option.some_or]
      cases halt with
      | failure f =>
        rw [submit_of_failure houtcome]
        exact refuses_refuse s d.id f
      | overrun =>
        rw [submit_of_overrun houtcome]
        exact ⟨rfl, rfl⟩
    | none =>
      obtain ⟨sub, hsub⟩ := Trial.fault?_eq_none_iff.1 hp
      rw [Option.none_or]
      exact submit_of_identity hsub hdown

theorem oversized_of_fault? {check : Check} (h : s.fault? env d check = some .overrun) :
    d.oversized env = true := by
  cases check with
  | size => simpa [fault?] using h
  | url =>
    simp only [fault?] at h
    split at h <;> cases h
  | host =>
    simp only [fault?] at h
    split at h
    · cases h
    · simp at h
  | _ => simp [fault?] at h

theorem firstFault?_of_few (s : Dispatcher) (hroom : env.hasRoom = FieldList.mappable)
    (hcount : ∀ payload, (d.resolved env).outcome = .ok payload → payload.countable = true)
    (hfew : (RawField.pairs d.headers).length + 3 ≤ FieldMap.mostFields) :
    s.firstFault? env d ≠ some .overrun := by
  intro h
  obtain ⟨check, -, hcheck⟩ := List.exists_of_findSome?_eq_some h
  have hlarge : d.oversized env = true := oversized_of_fault? hcheck
  rw [Descriptor.oversized_of_few hroom hcount hfew] at hlarge
  cases hlarge

/-- Whatever has happened, also if somebody writes to the active set, and whatever resolver and
hooks do with the dispatcher meanwhile: a dispatch starts its task; or it is refused, which is told
once and leaves everything as it was, or as resolver and hooks left it; or it overruns, which is told
to nobody, exactly if its size is the first check of its descriptor that is not passed. If resolver
and hooks do nothing, the first check of all decides, and a task is started exactly if there is none.
With three fields less than a map has room for, and a length that can be counted, none overruns. -/
theorem refusal_is_atomic_unless_overrun (c : Client) (as : List Action) (env : Environment)
    (d : Descriptor) :
    let s := (performAll (.ofClient c) as).2
    (∀ meanwhile,
      let before := if s.active.shuttingDown then ([], s) else performAll s meanwhile
      ∃ own t, perform s (.dispatch env d meanwhile) = (.asked d.id :: before.1 ++ own, t) ∧
        (Starts before.2 d.id own t ∨ (∃ f, Refuses before.2 d.id f own t) ∨
          Overruns before.2 d.id own t) ∧
        (Overruns before.2 d.id own t ↔
          s.active.shuttingDown = false ∧ d.overruns env = true)) ∧
    (∃ own t, perform s (.dispatch env d []) = (.asked d.id :: own, t) ∧
      (Starts s d.id own t ↔ s.firstFault? env d = none) ∧
      (∀ f, s.firstFault? env d = some (.failure f) → Refuses s d.id f own t) ∧
      (Overruns s d.id own t ↔ s.firstFault? env d = some .overrun)) ∧
    (env.hasRoom = FieldList.mappable →
      (∀ payload, (d.resolved env).outcome = .ok payload → payload.countable = true) →
      (RawField.pairs d.headers).length + 3 ≤ FieldMap.mostFields →
        s.firstFault? env d ≠ some .overrun) := by
  intro s
  refine ⟨fun meanwhile => ?_, ?_, firstFault?_of_few s⟩
  · cases hdown : s.active.shuttingDown with
    | true =>
      have hrefused := refuses_refuse s d.id .shuttingDown
      refine ⟨_, _, perform_dispatch_of_closed hdown, .inr (.inl ⟨_, hrefused⟩), ?_⟩
      exact iff_of_false (fun ho => ho.not_refuses hrefused) (fun h => nomatch h.1)
    | false =>
      obtain ⟨hends, hoverruns⟩ := submit_comes_to (performAll s meanwhile).2 env d
      refine ⟨_, _, perform_dispatch_of_open hdown, hends, ?_⟩
      exact hoverruns.trans (Descriptor.prepare_overruns_iff.trans (and_iff_right rfl).symm)
  · obtain ⟨own, t, hperform, hends⟩ := dispatch_comes_to s env d
    refine ⟨own, t, hperform, hends.starts_iff, fun f hf => ?_, hends.overruns_iff⟩
    rwa [hf] at hends

/-- A request whose identity is in flight is refused, and what is under way stays so; a fault of
its own comes first. -/
theorem refusal_is_atomic_unless_overrun_in_flight :
    let one : RequestId := ⟨1, by decide⟩
    let env : Environment := { resolve := fun _ => none, boundary := "" }
    let d : Descriptor := { id := one, method := "GET", url := "http://a/" }
    let s := (performAll (.ofClient {}) [.dispatch env d []]).2
    s.firstFault? env { d with body := .file "f" } = some (.failure .missingContentType) ∧
    ∃ own t, perform s (.dispatch env d []) = (.asked one :: own, t) ∧
      Refuses s one (.alreadyInFlight one) own t := by
  intro one env d s
  have hearlier : s.firstFault? env { d with body := .file "f" } =
      some (.failure .missingContentType) := by
    decide +kernel
  have hfault : s.firstFault? env d = some (.failure (.alreadyInFlight one)) := by decide +kernel
  obtain ⟨-, ⟨own, t, hperform, -, hrefused, -⟩, -⟩ :=
    refusal_is_atomic_unless_overrun {} [.dispatch env d []] env d
  exact ⟨hearlier, own, t, hperform, hrefused _ hfault⟩

def crowded (n : Nat) : Descriptor :=
  { id := default
    method := "GET"
    url := "http://a/"
    headers := some (List.replicate n [some "a", some ""]) }

section Crowded

variable {n : Nat}

theorem pairs_crowded (n : Nat) :
    RawField.pairs (crowded n).headers = List.replicate n ⟨"a", ""⟩ := by
  have hraw : (crowded n).headers = some ((List.replicate n ⟨"a", ""⟩).map Field.toRaw) := by
    rw [List.map_replicate]
    rfl
  rw [hraw, FieldList.pairs_map_toRaw]

theorem exists_parse_crowded (n : Nat) :
    ∃ u, Url.parse (crowded n).url = .ok u ∧ u.host?.isNone = false := by
  -- a closed fact about the text; the descriptor itself is too large to be evaluated
  have hhost : (Url.parse "http://a/").toOption.any (!·.host?.isNone) = true := by decide +kernel
  cases hparse : Url.parse "http://a/" with
  | error e =>
    rw [hparse] at hhost
    cases hhost
  | ok u =>
    rw [hparse] at hhost
    exact ⟨u, hparse, by simpa [Except.toOption] using hhost⟩

theorem fault?_crowded (hopen : s.active.shuttingDown = false) {check : Check}
    (hsize : check ≠ .size) (hidentity : check ≠ .identity) :
    s.fault? env (crowded n) check = none := by
  obtain ⟨u, hparse, hhost⟩ := exists_parse_crowded n
  cases check with
  | accepting => simp [fault?, hopen]
  | method =>
    have hmethod : Token.valid "GET" = true := by decide
    exact if_pos hmethod
  | url => simp [fault?, hparse]
  | headers =>
    have hform : RawField.wellFormed (crowded n).headers = true := by
      refine FieldList.wellFormed_iff.2 ⟨List.replicate n ⟨"a", ""⟩, ?_, fun f hf => ?_⟩
      · rw [List.map_replicate]
        rfl
      · rw [List.eq_of_mem_replicate hf]
        decide
    exact if_pos hform
  | body => rfl
  | size => exact absurd rfl hsize
  | host => simp [fault?, hparse, hhost]
  | identity => exact absurd rfl hidentity

theorem oversized_crowded (hroom : env.hasRoom = FieldList.mappable)
    (hn : FieldMap.mostFields < n) : (crowded n).oversized env = true := by
  have hmethod : Method.requiresBody "GET" = false := by decide
  have hbody : ((crowded n).resolved env).outcome = .ok .absent := by
    simp [Descriptor.resolved, crowded, Payload.resolve, Trial.succeed, hmethod]
  refine Descriptor.oversized_of_many hroom hbody ?_
  have hstays : Field.stays ⟨"a", ""⟩ = true := by decide
  rwa [pairs_crowded, List.filter_replicate_of_pos hstays, List.length_replicate]

theorem perform_crowded (hopen : s.active.shuttingDown = false)
    (hroom : env.hasRoom = FieldList.mappable) (hn : FieldMap.mostFields < n) :
    perform s (.dispatch env (crowded n) []) =
      ([.asked (crowded n).id, .overran (crowded n).id], s) := by
  obtain ⟨own, t, hperform, hends⟩ := dispatch_comes_to s env (crowded n)
  have hsize : s.fault? env (crowded n) .size = some .overrun :=
    if_pos (oversized_crowded hroom hn)
  have hfirst : s.firstFault? env (crowded n) = some .overrun := by
    simp [firstFault?, Check.all, Check.ofDescriptor, fault?_crowded hopen, hsize]
  rw [hfirst] at hends
  rw [hperform, hends.1, hends.2]

end Crowded

/-- With one field more than a map has room for, every check but that of the size is passed, and yet
no task is started and nobody is told why. -/
theorem overfull_list_is_unanswered :
    let env : Environment := { resolve := fun _ => none, boundary := "" }
    let d := crowded 24577
    (∀ check, check ≠ .size → ({} : Dispatcher).fault? env d check = none) ∧
      perform {} (.dispatch env d []) = ([.asked d.id, .overran d.id], {}) := by
  intro env d
  refine ⟨fun check hsize => ?_, perform_crowded rfl rfl (by decide)⟩
  by_cases hidentity : check = .identity
  · rw [hidentity]
    rfl
  · exact fault?_crowded rfl hsize hidentity

end Dispatcher
end Outbound
