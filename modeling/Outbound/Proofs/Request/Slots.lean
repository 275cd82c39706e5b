import Outbound.Proofs.Request.Identity

/-! The draft of a descriptor has a slot for each field. Reading the members of an object fills the
slots one by one: where no two members have one name, a slot ends up with what is read from the
member of its name, wherever that stands, and without such a member it stays as it was. -/

namespace Outbound

open Json (DecodeError Reader)

namespace Json

variable {v : Json}

theorem member?_cons_self {key : String} {rest : List (String × Json)} :
    member? ((key, v) :: rest) key = some v := by
  simp [member?]

theorem member?_cons_of_ne {name key : String} {rest : List (String × Json)} (h : name ≠ key) :
    member? ((name, v) :: rest) key = member? rest key := by
  simp [member?, h]

theorem member?_eq_none {key : String} {members : List (String × Json)}
    (h : key ∉ members.map Prod.fst) : member? members key = none := by
  simp only [List.mem_map, not_exists, not_and] at h
  simpa [member?] using fun name v hm (hname : name = key) => h (name, v) hm hname

theorem member?_eq_some_iff {members : List (String × Json)} {key : String}
    (h : (object members).Keyed) : member? members key = some v ↔ (key, v) ∈ members := by
  have hnodup : (members.map Prod.fst).Nodup := h
  clear h
  induction members with
  | nil => simp
  | cons m rest ih =>
    obtain ⟨name, value⟩ := m
    rw [List.map_cons, List.nodup_cons] at hnodup
    by_cases hname : name = key
    · subst hname
      have hnot : (name, v) ∉ rest := fun hmem => hnodup.1 (List.mem_map.2 ⟨_, hmem, rfl⟩)
      simp [member?_cons_self, hnot, eq_comm]
    · have hrest := ih hnodup.2
      rw [member?_cons_of_ne hname]
      simpa [Ne.symm hname] using hrest

namespace Reader

theorem string_eq_ok_iff {s : String} : Reader.string v = .ok s ↔ v = .string s := by
  cases v <;> simp [Reader.string]

theorem boolean_eq_ok_iff {b : Bool} : Reader.boolean v = .ok b ↔ v = .bool b := by
  cases v <;> simp [Reader.boolean]

theorem sequence_eq_ok_iff {items : List Json} :
    Reader.sequence v = .ok items ↔ v = .array items := by
  cases v <;> simp [Reader.sequence]

theorem map_eq_ok_iff {members : List (String × Json)} :
    Reader.map v = .ok members ↔ v = .object members := by
  cases v <;> simp [Reader.map]

theorem nat64_eq_ok_iff {n : Nat} :
    Reader.nat64 v = .ok n ↔ v = .number (.int n) ∧ n < Word.count64 := by
  cases v with
  | number number =>
    cases number with
    | int k =>
      rw [Reader.nat64, Reader.natural, Reader.whole]
      split
      · next hk =>
        simp only [Bool.and_eq_true, decide_eq_true_eq] at hk
        simp only [Except.map, Except.ok.injEq, Json.number.injEq, Json.Number.int.injEq]
        omega
      · next hk =>
        simp only [Bool.and_eq_true, decide_eq_true_eq] at hk
        simp only [Except.map, reduceCtorEq, Json.number.injEq, Json.Number.int.injEq, false_iff]
        omega
    | float bits => simp [Reader.nat64, Reader.natural, Reader.whole, Except.map]
  | _ => simp [Reader.nat64, Reader.natural, Reader.whole, Except.map]

theorem exists_map_iff {α β : Type} {read : Except DecodeError α} {f : α → β} :
    (∃ b, read.map f = .ok b) ↔ ∃ a, read = .ok a := by
  cases read <;> simp [Except.map]

theorem exists_optional_iff {α : Type} {read : Reader α} :
    (∃ o, Reader.optional read v = .ok o) ↔ v = .null ∨ ∃ a, read v = .ok a := by
  unfold Reader.optional
  split
  · simp
  · next hnull =>
    have hne : v ≠ .null := hnull
    rw [exists_map_iff]
    simp [hne]

theorem array?_of_optional {o : Option (List Json)}
    (h : Reader.optional Reader.sequence v = .ok o) : o = v.array? := by
  cases v <;> cases h <;> rfl

theorem members?_of_optional {o : Option (List (String × Json))}
    (h : Reader.optional Reader.map v = .ok o) : o = v.members? := by
  cases v <;> cases h <;> rfl

end Reader

end Json

namespace Descriptor

variable {v : Json} {members : List (String × Json)} {id : RequestId}

theorem readId_eq_ok_iff_number :
    readId v = .ok id ↔ v = .number (.int id.raw) ∧ Word.fits64 id.raw = true := by
  rw [readId_eq_ok_iff, Option.bind_eq_some_iff]
  constructor
  · rintro ⟨n, hn, hid⟩
    unfold RequestId.ofInt? at hid
    split at hid
    · cases hid
    · cases hid
      unfold Json.int64? at hn
      split at hn
      · split at hn
        · cases hn
          exact ⟨rfl, ‹_›⟩
        · cases hn
      · cases hn
  · rintro ⟨rfl, hfits⟩
    exact ⟨id.raw, by simp [Json.int64?, hfits], RequestId.ofInt?_raw id⟩

namespace Draft

variable {d e : Draft} {name : String}

structure Puts (name : String) (v : Json) (d e : Draft) : Prop where
  method : if name = "method" then (Reader.string v).map some = .ok e.method
    else e.method = d.method
  url : if name = "url" then (Reader.string v).map some = .ok e.url else e.url = d.url
  requestId : if name = "requestId" then (readId v).map some = .ok e.requestId
    else e.requestId = d.requestId
  headers : if name = "headers" then Reader.optional Reader.sequence v = .ok e.headers
    else e.headers = d.headers
  data : if name = "data" then Reader.optional Reader.map v = .ok e.data else e.data = d.data
  responseType : if name = "responseType" then Reader.string v = .ok e.responseType
    else e.responseType = d.responseType
  incrementalUpdates : if name = "incrementalUpdates" then
      Reader.boolean v = .ok e.incrementalUpdates
    else e.incrementalUpdates = d.incrementalUpdates
  timeout : if name = "timeout" then Reader.nat64 v = .ok e.timeout else e.timeout = d.timeout

theorem puts_of_put (h : d.put name v = .ok e) : Puts name v d e := by
  unfold put at h
  split at h
  case h_9 =>
    cases h
    constructor <;> exact (if_neg ‹_›).mpr rfl
  all_goals
    obtain ⟨x, hx, rfl⟩ := Reader.exists_of_map h
    constructor <;> simp [hx, Except.map]

/-- What a slot holds once the members are read: what is read from the member of its name, or what
it held before. -/
theorem slot_fields {α : Type} {key : String} {read : Reader α} {get : Draft → α}
    (hput : ∀ {d e : Draft} {name : String} {v : Json}, d.put name v = .ok e →
      if name = key then read v = .ok (get e) else get e = get d)
    (hkeyed : (Json.object members).Keyed) (h : Reader.fields d put members = .ok e) :
    match Json.member? members key with
    | some v => read v = .ok (get e)
    | none => get e = get d := by
  have hnodup : (members.map Prod.fst).Nodup := hkeyed
  clear hkeyed
  induction members generalizing d with
  | nil =>
    cases h
    rfl
  | cons m rest ih =>
    obtain ⟨name, v⟩ := m
    rw [List.map_cons, List.nodup_cons] at hnodup
    obtain ⟨mid, hfirst, hrest⟩ := Reader.fields_cons.1 h
    have hslot := hput hfirst
    have hlater := ih hrest hnodup.2
    by_cases hname : name = key
    · subst hname
      rw [Json.member?_eq_none hnodup.1] at hlater
      rw [if_pos rfl] at hslot
      rw [Json.member?_cons_self]
      rwa [hlater]
    · rw [if_neg hname] at hslot
      rw [Json.member?_cons_of_ne hname]
      rwa [hslot] at hlater

theorem filled_of_slot {α : Type} {read : Reader α} {v? : Option Json} {o : Option α}
    (h : match v? with
      | some v => (read v).map some = .ok o
      | none => o = none) :
    o.isSome = v?.isSome ∧ ∀ a, o = some a → ∃ v, v? = some v ∧ read v = .ok a := by
  cases v? with
  | none =>
    subst h
    exact ⟨rfl, fun _ h => nomatch h⟩
  | some v =>
    obtain ⟨a, ha, rfl⟩ := Reader.exists_of_map h
    exact ⟨rfl, fun _ hsame => ⟨v, rfl, Option.some.inj hsame ▸ ha⟩⟩

structure Holds (members : List (String × Json)) (e : Draft) : Prop where
  filled : e.method.isSome = (Json.member? members "method").isSome ∧
    e.url.isSome = (Json.member? members "url").isSome ∧
    e.requestId.isSome = (Json.member? members "requestId").isSome
  method : ∀ s, e.method = some s → Json.member? members "method" = some (.string s)
  url : ∀ s, e.url = some s → Json.member? members "url" = some (.string s)
  requestId : ∀ id, e.requestId = some id →
    Json.member? members "requestId" = some (.number (.int id.raw))
  headers : e.headers = (Json.member? members "headers").bind Json.array?
  data : e.data = (Json.member? members "data").bind Json.members?
  responseType : e.responseType =
    ((Json.member? members "responseType").bind Json.string?).getD "text"
  incremental : e.incrementalUpdates = true ↔
    Json.member? members "incrementalUpdates" = some (.bool true)
  timeout : match Json.member? members "timeout" with
    | some v => v = .number (.int e.timeout)
    | none => e.timeout = 0

theorem holds_of_read (hkeyed : (Json.object members).Keyed)
    (h : Draft.read (.object members) = .ok e) : Holds members e := by
  have hmethod := slot_fields (fun hput => (puts_of_put hput).method) hkeyed h
  have hurl := slot_fields (fun hput => (puts_of_put hput).url) hkeyed h
  have hid := slot_fields (fun hput => (puts_of_put hput).requestId) hkeyed h
  have hheaders := slot_fields (fun hput => (puts_of_put hput).headers) hkeyed h
  have hdata := slot_fields (fun hput => (puts_of_put hput).data) hkeyed h
  have htype := slot_fields (fun hput => (puts_of_put hput).responseType) hkeyed h
  have hincremental := slot_fields (fun hput => (puts_of_put hput).incrementalUpdates) hkeyed h
  have htimeout := slot_fields (fun hput => (puts_of_put hput).timeout) hkeyed h
  obtain ⟨hfirst, hmethod⟩ := filled_of_slot hmethod
  obtain ⟨hsecond, hurl⟩ := filled_of_slot hurl
  obtain ⟨hthird, hid⟩ := filled_of_slot hid
  refine ⟨⟨hfirst, hsecond, hthird⟩, fun s hs => ?_, fun s hs => ?_, fun id hs => ?_, ?_, ?_, ?_,
    ?_, ?_⟩
  case refine_1 =>
    obtain ⟨v, hv, hread⟩ := hmethod s hs
    rw [hv, Reader.string_eq_ok_iff.1 hread]
  case refine_2 =>
    obtain ⟨v, hv, hread⟩ := hurl s hs
    rw [hv, Reader.string_eq_ok_iff.1 hread]
  case refine_3 =>
    obtain ⟨v, hv, hread⟩ := hid id hs
    rw [hv, (readId_eq_ok_iff_number.1 hread).1]
  case refine_4 =>
    cases hv : Json.member? members "headers" with
    | none => rwa [hv] at hheaders
    | some v =>
      rw [hv] at hheaders
      exact Reader.array?_of_optional hheaders
  case refine_5 =>
    cases hv : Json.member? members "data" with
    | none => rwa [hv] at hdata
    | some v =>
      rw [hv] at hdata
      exact Reader.members?_of_optional hdata
  case refine_6 =>
    cases hv : Json.member? members "responseType" with
    | none => rwa [hv] at htype
    | some v =>
      rw [hv] at htype
      rw [Reader.string_eq_ok_iff.1 htype]
      rfl
  case refine_7 =>
    cases hv : Json.member? members "incrementalUpdates" with
    | none =>
      rw [hv] at hincremental
      simp [hincremental]
    | some v =>
      rw [hv] at hincremental
      rw [Reader.boolean_eq_ok_iff.1 hincremental]
      simp
  case refine_8 =>
    cases hv : Json.member? members "timeout" with
    | none => rwa [hv] at htimeout
    | some v =>
      rw [hv] at htimeout
      exact (Reader.nat64_eq_ok_iff.1 htimeout).1

end Draft
end Descriptor
end Outbound
