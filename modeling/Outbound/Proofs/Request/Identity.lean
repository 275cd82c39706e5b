import Outbound.Proofs.Dispatch.Refusal

/-! The identity of a request is read in two ways: as a member of an object, whatever else stands
there, and as a field of a descriptor, which may also be an array. Where both give one, they give
the same. What is refused without a descriptor goes by the first way alone, so that an array that is
a descriptor but for its body has an identity and gets no answer; everything else gets one. -/

namespace Outbound

namespace Json

/-- No two members of a value have one key, which is so of every value that is read. -/
def Keyed : Json → Prop
  | .object members => (members.map Prod.fst).Nodup
  | _ => True

theorem mem_keys_insertMember {key name : String} {value : Json} {members : List (String × Json)}
    (h : name ∈ (insertMember key value members).map Prod.fst) :
    name = key ∨ name ∈ members.map Prod.fst := by
  induction members with
  | nil => simpa [insertMember] using h
  | cons m rest ih =>
    obtain ⟨k, v⟩ := m
    unfold insertMember at h
    split at h
    · simpa using h
    · split at h
      · simp_all
      · simp only [List.map_cons, List.mem_cons] at h ih ⊢
        rcases h with rfl | h
        · exact .inr (.inl rfl)
        · exact (ih h).imp_right .inr

theorem sorted_insertMember {key : String} {value : Json} {members : List (String × Json)}
    (h : (members.map Prod.fst).Pairwise (· < ·)) :
    ((insertMember key value members).map Prod.fst).Pairwise (· < ·) := by
  induction members with
  | nil => simp [insertMember]
  | cons m rest ih =>
    obtain ⟨k, v⟩ := m
    rw [List.map_cons, List.pairwise_cons] at h
    obtain ⟨hfirst, hrest⟩ := h
    unfold insertMember
    split
    · next hlt =>
      refine List.pairwise_cons.2 ⟨fun name hname => ?_, List.pairwise_cons.2 ⟨hfirst, hrest⟩⟩
      rcases List.mem_cons.1 hname with rfl | hlater
      · exact hlt
      · exact String.lt_trans hlt (hfirst name hlater)
    · next hlt =>
      split
      · next heq =>
        subst heq
        exact List.pairwise_cons.2 ⟨hfirst, hrest⟩
      · next hne =>
        refine List.pairwise_cons.2 ⟨fun name hname => ?_, ih hrest⟩
        rcases mem_keys_insertMember hname with rfl | hlater
        · exact Std.lt_of_le_of_ne (String.not_lt.1 hlt) (Ne.symm hne)
        · exact hfirst name hlater

theorem keyed_ofMembers (members : List (String × Json)) : (ofMembers members).Keyed := by
  have hsorted : ∀ sorted : List (String × Json), (sorted.map Prod.fst).Pairwise (· < ·) →
      ((members.foldl (fun sorted m => insertMember m.1 m.2 sorted) sorted).map
        Prod.fst).Pairwise (· < ·) := by
    induction members with
    | nil => exact fun _ h => h
    | cons m rest ih => exact fun _ h => ih _ (sorted_insertMember h)
  refine (hsorted [] .nil).imp fun {a b} hlt (heq : a = b) => ?_
  subst heq
  exact String.lt_irrefl _ hlt

theorem Reader.int64_eq_ok_iff {v : Json} {n : Int} :
    Reader.int64 v = .ok n ↔ v.int64? = some n := by
  unfold Reader.int64 Reader.whole int64?
  split
  · next k =>
    change (if Word.fits64 k then Except.ok k else _) = _ ↔
      (if Word.fits64 k then some k else none) = _
    cases Word.fits64 k <;> simp
  · simp_all

theorem Reader.exists_of_map {α β : Type} {read : Except DecodeError α} {f : α → β} {b : β}
    (h : read.map f = .ok b) : ∃ a, read = .ok a ∧ f a = b := by
  cases read with
  | error e => cases h
  | ok a => exact ⟨a, rfl, Except.ok.inj h⟩

theorem Reader.bind_eq_ok_iff {α β : Type} {read : Except DecodeError α}
    {next : α → Except DecodeError β} {b : β} :
    (read >>= next) = .ok b ↔ ∃ a, read = .ok a ∧ next a = .ok b := by
  cases read <;> simp [bind, Except.bind]

section Fields

variable {δ : Type} {put : δ → String → Json → Except DecodeError δ} {d e : δ}

theorem Reader.fields_append {before behind : List (String × Json)} :
    Reader.fields d put (before ++ behind) = .ok e ↔
      ∃ mid, Reader.fields d put before = .ok mid ∧ Reader.fields mid put behind = .ok e := by
  rw [Reader.fields, List.foldlM_append]
  exact Reader.bind_eq_ok_iff

theorem Reader.fields_cons {name : String} {v : Json} {members : List (String × Json)} :
    Reader.fields d put ((name, v) :: members) = .ok e ↔
      ∃ mid, put d name v = .ok mid ∧ Reader.fields mid put members = .ok e := by
  rw [Reader.fields, List.foldlM_cons]
  exact Reader.bind_eq_ok_iff

end Fields

theorem Keyed.not_mem_behind {before behind : List (String × Json)} {key : String} {value : Json}
    (h : (object (before ++ (key, value) :: behind)).Keyed) : ∀ m ∈ behind, m.1 ≠ key := by
  intro m hm hkey
  rw [Keyed, List.map_append, List.map_cons] at h
  have hnotMem := (List.nodup_cons.1 (List.nodup_append.1 h).2.1).1
  exact hnotMem (List.mem_map.2 ⟨m, hm, hkey⟩)

end Json

namespace Descriptor

open Json (DecodeError Reader)

variable {v : Json} {id : RequestId}

theorem readId_eq_ok_iff : readId v = .ok id ↔ v.int64?.bind RequestId.ofInt? = some id := by
  unfold readId
  rw [Reader.bind_eq_ok_iff, Option.bind_eq_some_iff]
  refine exists_congr fun n => and_congr Reader.int64_eq_ok_iff ?_
  cases RequestId.ofInt? n with
  | none => simp [throw, throwThe, MonadExceptOf.throw]
  | some read => simp [pure, Except.pure]

namespace Draft

variable {d e : Draft} {name : String} {members : List (String × Json)}

def identity? (d : Draft) : Option RequestId :=
  if d.method.isSome && d.url.isSome then d.requestId else none

theorem requestId_of_identity? (h : d.identity? = some id) : d.requestId = some id := by
  unfold identity? at h
  split at h
  · exact h
  · cases h

theorem requestId_put (h : d.put "requestId" v = .ok e) :
    ∃ id, readId v = .ok id ∧ e.requestId = some id := by
  obtain ⟨id, hid, rfl⟩ := Reader.exists_of_map h
  exact ⟨id, hid, rfl⟩

theorem requestId_put_of_ne (hname : name ≠ "requestId") (h : d.put name v = .ok e) :
    e.requestId = d.requestId := by
  unfold put at h
  split at h
  case h_3 => exact absurd rfl hname
  case h_9 =>
    cases h
    rfl
  all_goals
    obtain ⟨x, -, rfl⟩ := Reader.exists_of_map h
    rfl

theorem requestId_fields (hmembers : ∀ m ∈ members, m.1 ≠ "requestId")
    (h : Reader.fields d put members = .ok e) : e.requestId = d.requestId := by
  induction members generalizing d with
  | nil =>
    cases h
    rfl
  | cons m rest ih =>
    obtain ⟨name, value⟩ := m
    obtain ⟨mid, hput, hrest⟩ := Reader.fields_cons.1 h
    rw [List.forall_mem_cons] at hmembers
    rw [ih hmembers.2 hrest, requestId_put_of_ne hmembers.1 hput]

end Draft

/-- The identity of a value that has all that a descriptor must have, whatever its body. -/
def fieldId? (v : Json) : Option RequestId :=
  match Draft.read v with
  | .ok draft => draft.identity?
  | .error _ => none

/-- The identity of a value, read in one of the two ways. -/
def usableId? (v : Json) : Option RequestId := (readableId? v).or (fieldId? v)

theorem readableId?_of_fieldId? {members : List (String × Json)}
    (h : fieldId? (.object members) = some id) :
    ∃ read, readableId? (.object members) = some read ∧
      ((Json.object members).Keyed → read = id) := by
  unfold fieldId? at h
  split at h
  case h_2 => cases h
  case h_1 draft hread =>
    have hid := Draft.requestId_of_identity? h
    cases hmember : members.find? (·.1 = "requestId") with
    | none =>
      rw [List.find?_eq_none] at hmember
      rw [Draft.requestId_fields (by simpa using hmember) hread] at hid
      cases hid
    | some m =>
      -- the first member of the name is looked up, and the last one stays in the draft
      obtain ⟨hname, before, behind, rfl, hbefore⟩ := List.find?_eq_some_iff_append.1 hmember
      obtain ⟨name, value⟩ := m
      obtain rfl : name = "requestId" := by simpa using hname
      obtain ⟨earlier, -, hlater⟩ := Reader.fields_append.1 hread
      obtain ⟨mid, hput, hbehind⟩ := Reader.fields_cons.1 hlater
      obtain ⟨read, hvalue, hmid⟩ := Draft.requestId_put hput
      refine ⟨read, ?_, fun hkeyed => ?_⟩
      · rw [readableId?, Json.get?, Json.member?, hmember]
        exact readId_eq_ok_iff.1 hvalue
      · have hsame : draft.requestId = mid.requestId :=
          Draft.requestId_fields hkeyed.not_mem_behind hbehind
        rw [hid, hmid] at hsame
        exact (Option.some.inj hsame).symm

theorem readBody_eq_error {data : Option (List (String × Json))} {f : Failure}
    (h : readBody data = .error f) : f = .unrecognizedBody := by
  unfold readBody at h
  split at h
  · cases h
  · split at h <;> cases h
    rfl

theorem identity?_of_ofDraft (draft : Draft) :
    match ofDraft draft with
    | .ok d => draft.identity? = some d.id
    | .error f => draft.identity?.isSome ↔ f = .unrecognizedBody := by
  unfold ofDraft Draft.identity?
  cases draft.method with
  | none => simp [throw, throwThe, MonadExceptOf.throw]
  | some method =>
    cases draft.url with
    | none => simp [throw, throwThe, MonadExceptOf.throw]
    | some url =>
      cases draft.requestId with
      | none => simp [throw, throwThe, MonadExceptOf.throw]
      | some id =>
        cases hbody : readBody draft.data with
        | ok body => rfl
        | error f => exact iff_of_true rfl (readBody_eq_error hbody)

theorem fieldId?_of_ofJson (v : Json) :
    match ofJson v with
    | .ok d => fieldId? v = some d.id
    | .error f => (fieldId? v).isSome ↔ f = .unrecognizedBody := by
  unfold ofJson fieldId?
  cases Draft.read v with
  | ok draft => exact identity?_of_ofDraft draft
  | error e => simp

theorem fieldId?_of_ok {d : Descriptor} (h : ofJson v = .ok d) : fieldId? v = some d.id := by
  have hspec := fieldId?_of_ofJson v
  rwa [h] at hspec

theorem isSome_fieldId?_iff {f : Failure} (h : ofJson v = .error f) :
    (fieldId? v).isSome ↔ f = .unrecognizedBody := by
  have hspec := fieldId?_of_ofJson v
  rwa [h] at hspec

theorem shape_of_fieldId? (h : fieldId? v = some id) :
    (∃ members, v = .object members) ∨ ∃ items, v = .array items := by
  cases v with
  | object members => exact .inl ⟨members, rfl⟩
  | array items => exact .inr ⟨items, rfl⟩
  | null => cases h
  | bool b => cases h
  | number n => cases h
  | string s => cases h

/-- An array that is a descriptor but for its body. -/
def LacksBody (v : Json) : Prop := ∃ items, v = .array items ∧ ofJson v = .error .unrecognizedBody

theorem LacksBody.isSome_usableId? (h : LacksBody v) : (usableId? v).isSome := by
  obtain ⟨items, rfl, hbody⟩ := h
  exact (isSome_fieldId?_iff hbody).2 rfl

theorem usableId?_of_ok {d : Descriptor} (h : ofJson v = .ok d) :
    ∃ id, usableId? v = some id ∧ (v.Keyed → d.id = id) := by
  have hfield := fieldId?_of_ok h
  rcases shape_of_fieldId? hfield with ⟨members, rfl⟩ | ⟨items, rfl⟩
  · obtain ⟨id, hread, hsame⟩ := readableId?_of_fieldId? hfield
    exact ⟨id, by rw [usableId?, hread, Option.some_or], fun hkeyed => (hsame hkeyed).symm⟩
  · exact ⟨d.id, hfield, fun _ => rfl⟩

theorem usableId?_of_error {f : Failure} (h : ofJson v = .error f) (hread : readableId? v = none) :
    usableId? v = none ∨ LacksBody v := by
  cases hfield : fieldId? v with
  | none => exact .inl (by rw [usableId?, hread, hfield, Option.none_or])
  | some id =>
    obtain rfl := (isSome_fieldId?_iff h).1 (by rw [hfield]; rfl)
    rcases shape_of_fieldId? hfield with ⟨members, rfl⟩ | ⟨items, rfl⟩
    · -- an object whose fields have an identity has it as a member, too
      obtain ⟨read, hsome, -⟩ := readableId?_of_fieldId? hfield
      rw [hsome] at hread
      cases hread
    · exact .inr ⟨items, rfl, h⟩

end Descriptor

namespace Dispatcher

variable {env : Environment} {s : Dispatcher} {d : Descriptor} {v : Json} {id : RequestId}
  {own : List Entry} {t : Dispatcher}

/-- Nothing is told, nothing overruns, and no task is started. -/
def Silent (s : Dispatcher) (own : List Entry) (t : Dispatcher) : Prop :=
  own.filterMap Entry.event? = [] ∧ (∀ id, .overran id ∉ own) ∧ t.tasks = s.tasks

theorem Refuses.not_silent {f : Failure} (h : Refuses s id f own t) : ¬ Silent s own t := by
  rintro ⟨htold, -⟩
  rw [h.told] at htold
  cases htold

theorem Starts.not_silent (h : Starts s id own t) : ¬ Silent s own t := by
  rintro ⟨-, -, htasks⟩
  obtain ⟨sub, -, -, rfl⟩ := h
  simpa [accept] using congrArg List.length htasks

theorem Overruns.not_silent (h : Overruns s id own t) : ¬ Silent s own t := by
  rintro ⟨-, hnone, -⟩
  exact hnone id (by simp [h.1])

theorem Silent.of_cons {e : Entry} (h : Silent s (e :: own) t) (he : e.event? = none) :
    Silent s own t where
  left := by simpa [he] using h.1
  right := ⟨fun id hin => h.2.1 id (List.mem_cons_of_mem _ hin), h.2.2⟩

theorem dispatch_not_silent (env : Environment) (s : Dispatcher) (d : Descriptor) :
    ¬ Silent s (s.dispatch env d).1 (s.dispatch env d).2 := by
  rw [dispatch]
  intro h
  have hown := h.of_cons rfl
  cases hdown : s.active.shuttingDown with
  | true =>
    rw [hdown] at hown
    exact (refuses_refuse s d.id .shuttingDown).not_silent hown
  | false =>
    rw [hdown] at hown
    rcases (submit_comes_to s env d).1 with hstarts | ⟨f, hrefuses⟩ | hoverruns
    · exact hstarts.not_silent hown
    · exact hrefuses.not_silent hown
    · exact hoverruns.not_silent hown

theorem dispatchJson_of_ok (h : Descriptor.ofJson v = .ok d) :
    s.dispatchJson env v = s.dispatch env d := by
  rw [dispatchJson, h]

theorem dispatchJson_of_error {f : Failure} (h : Descriptor.ofJson v = .error f) :
    s.dispatchJson env v = match Descriptor.readableId? v with
      | some id => s.refuse id f
      | none => ([], s) := by
  rw [dispatchJson, h]
  cases Descriptor.readableId? v <;> rfl

open Descriptor (ofJson readableId? usableId? LacksBody)

theorem answered_of_usableId? (env : Environment) (s : Dispatcher) (hid : usableId? v = some id)
    (hbody : ¬ LacksBody v) :
    (∃ d, ofJson v = .ok d ∧ (v.Keyed → d.id = id) ∧ s.dispatchJson env v = s.dispatch env d) ∨
    ∃ f, ofJson v = .error f ∧
      Refuses s id f (s.dispatchJson env v).1 (s.dispatchJson env v).2 := by
  cases hv : ofJson v with
  | ok d =>
    obtain ⟨id', hid', hkeyed⟩ := Descriptor.usableId?_of_ok hv
    obtain rfl : id' = id := Option.some.inj (hid'.symm.trans hid)
    exact .inl ⟨d, rfl, hkeyed, dispatchJson_of_ok hv⟩
  | error f =>
    cases hread : readableId? v with
    | some read =>
      obtain rfl : read = id := by
        rw [usableId?, hread, Option.some_or] at hid
        exact Option.some.inj hid
      have hrefused : s.dispatchJson env v = s.refuse read f := by
        rw [dispatchJson_of_error hv, hread]
      exact .inr ⟨f, rfl, hrefused ▸ refuses_refuse s read f⟩
    | none =>
      rcases Descriptor.usableId?_of_error hv hread with hnone | hlacks
      · rw [hid] at hnone
        cases hnone
      · exact absurd hlacks hbody

theorem dispatchJson_of_unusable (h : usableId? v = none ∨ LacksBody v) :
    s.dispatchJson env v = ([], s) := by
  have hread : readableId? v = none := by
    rcases h with hnone | ⟨items, rfl, -⟩
    · exact (Option.or_eq_none_iff.1 hnone).1
    · rfl
  cases hv : ofJson v with
  | error f => rw [dispatchJson_of_error hv, hread]
  | ok d =>
    rcases h with hnone | ⟨items, -, hlacks⟩
    · obtain ⟨id, hid, -⟩ := Descriptor.usableId?_of_ok hv
      rw [hid] at hnone
      cases hnone
    · rw [hv] at hlacks
      cases hlacks

/-- A value with an identity is dispatched as the descriptor that it is, or it is refused once under
that identity; only of an array that is a descriptor but for its body nothing is seen, as of a value
without identity. -/
theorem identity_is_answered (env : Environment) (s : Dispatcher) (v : Json) :
    let own := (s.dispatchJson env v).1
    let t := (s.dispatchJson env v).2
    (∀ id, usableId? v = some id → ¬ LacksBody v →
      (∃ d, ofJson v = .ok d ∧ (v.Keyed → d.id = id) ∧
        s.dispatchJson env v = s.dispatch env d) ∨
      ∃ f, ofJson v = .error f ∧ Refuses s id f own t) ∧
    (Silent s own t ↔ usableId? v = none ∨ LacksBody v) ∧
    (Silent s own t → own = [] ∧ t = s) ∧
    (LacksBody v → (usableId? v).isSome) := by
  intro own t
  have hnothing : usableId? v = none ∨ LacksBody v → own = [] ∧ t = s := fun h => by
    simp only [own, t, dispatchJson_of_unusable h, and_self]
  have hsilent : Silent s own t → usableId? v = none ∨ LacksBody v := fun h => by
    cases hid : usableId? v with
    | none => exact .inl rfl
    | some id =>
      refine .inr (Classical.byContradiction fun hbody => ?_)
      rcases answered_of_usableId? env s hid hbody with ⟨d, -, -, hsame⟩ | ⟨f, -, hrefuses⟩
      · simp only [own, t, hsame] at h
        exact dispatch_not_silent env s d h
      · exact hrefuses.not_silent h
  refine ⟨fun id hid hbody => answered_of_usableId? env s hid hbody, ⟨hsilent, fun h => ?_⟩,
    fun h => hnothing (hsilent h), Descriptor.LacksBody.isSome_usableId?⟩
  obtain ⟨hown, ht⟩ := hnothing h
  rw [hown, ht]
  exact ⟨rfl, fun _ => List.not_mem_nil, rfl⟩

theorem identity_is_answered_of_two_bodies :
    let env : Environment := { resolve := fun _ => none, boundary := "" }
    let v : Json := .object [("data", .object [("string", .string "a"), ("uri", .string "b")]),
      ("method", .string "GET"), ("requestId", .number (.int 3)), ("url", .string "http://a/")]
    let after := ({} : Dispatcher).dispatchJson env v
    usableId? v = some ⟨3, by decide⟩ ∧
      Refuses {} ⟨3, by decide⟩ .unrecognizedBody after.1 after.2 := by
  intro env v after
  have hid : usableId? v = some ⟨3, by decide⟩ := by decide +kernel
  have hv : ofJson v = .error .unrecognizedBody := rfl
  have hobject : ¬ LacksBody v := fun ⟨_, harray, _⟩ => Json.noConfusion harray
  refine ⟨hid, ?_⟩
  rcases (identity_is_answered env {} v).1 _ hid hobject with ⟨d, hd, -⟩ | ⟨f, hf, hrefuses⟩
  · rw [hv] at hd
    cases hd
  · rw [hv] at hf
    cases hf
    exact hrefuses

/-- The identity is 7, and nobody is told that the request was refused. -/
theorem array_without_body_is_dropped :
    let env : Environment := { resolve := fun _ => none, boundary := "" }
    let v : Json := .array [.string "POST", .string "https://example.test/", .number (.int 7),
      .array [], .object [("string", .number (.int 1))]]
    usableId? v = some ⟨7, by decide⟩ ∧ ({} : Dispatcher).dispatchJson env v = ([], {}) := by
  decide +kernel

end Dispatcher
end Outbound
