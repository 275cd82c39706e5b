import Mathlib.Data.List.Forall2
import Outbound.Proofs.Request.Slots

/-! Which JSON objects are descriptors, and what they describe. Each field has the values that it
admits, three fields must be there, and members of other names do not count. What is wrong with the
fields is told before what is wrong with the body, which one key alone must name. Inside header
lists and parts nothing is refused: what cannot be read there is missing. -/

namespace Outbound.Descriptor

open Json (Reader)

variable {v : Json} {members inner : List (String × Json)} {d : Descriptor}

/-- The values that a field admits, by its name. Under any other name every value does. -/
def Admits (name : String) (v : Json) : Prop :=
  match name with
  | "method" | "url" | "responseType" => ∃ s, v = .string s
  | "requestId" => ∃ n, v = .number (.int n) ∧ Word.fits64 n = true ∧ n ≠ 0
  | "headers" => v = .null ∨ ∃ items, v = .array items
  | "data" => v = .null ∨ ∃ inner, v = .object inner
  | "incrementalUpdates" => ∃ b, v = .bool b
  | "timeout" => ∃ n : Nat, v = .number (.int n) ∧ n < Word.count64
  | _ => True

structure WellTyped (members : List (String × Json)) : Prop where
  present : ∀ name ∈ ["method", "url", "requestId"], (Json.member? members name).isSome = true
  admitted : ∀ name v, Json.member? members name = some v → Admits name v

def Keys (inner : List (String × Json)) (text file parts : Option Json) : Prop :=
  Json.member? inner "string" = text ∧ Json.member? inner "uri" = file ∧
    Json.member? inner "formData" = parts

/-- One of the three keys is there and no other, with a value of its kind. -/
def NamesBody (inner : List (String × Json)) : Prop :=
  (∃ content, Keys inner (some (.string content)) none none) ∨
  (∃ uri, Keys inner none (some (.string uri)) none) ∨
  ∃ items, Keys inner none none (some (.array items))

/-- An entry has an item for each of the array, which is missing if it is no text. What is no array
is an entry without items. -/
def EntryOf (v : Json) (e : RawField) : Prop :=
  match v with
  | .array items => List.Forall₂ (fun item field => ∀ s, field = some s ↔ item = .string s) items e
  | _ => e = []

def HeadersOf (v? : Option Json) (headers : Option (List RawField)) : Prop :=
  match v? with
  | some (.array items) => ∃ es, headers = some es ∧ List.Forall₂ EntryOf items es
  | _ => headers = none

/-- A part has a content if one of the two keys, and not both, has a text. -/
structure ContentOf (inner : List (String × Json)) (content : Option PartContent) : Prop where
  text : ∀ s, content = some (.text s) ↔ Json.member? inner "string" = some (.string s) ∧
    ∀ uri, Json.member? inner "uri" ≠ some (.string uri)
  file : ∀ uri, content = some (.file uri) ↔ Json.member? inner "uri" = some (.string uri) ∧
    ∀ s, Json.member? inner "string" ≠ some (.string s)

def PartOf (v : Json) (p : Part) : Prop :=
  match v with
  | .object inner => HeadersOf (Json.member? inner "headers") p.headers ∧ ContentOf inner p.content
  | _ => p.headers = none ∧ p.content = none

def BodyOf (inner : List (String × Json)) : Body → Prop
  | .empty => False
  | .text content => Keys inner (some (.string content)) none none
  | .file uri => Keys inner none (some (.string uri)) none
  | .multipart parts => ∃ items, Keys inner none none (some (.array items)) ∧
      List.Forall₂ PartOf items parts

structure Describes (members : List (String × Json)) (d : Descriptor) : Prop where
  method : Json.member? members "method" = some (.string d.method)
  url : Json.member? members "url" = some (.string d.url)
  id : Json.member? members "requestId" = some (.number (.int d.id.raw))
  headers : HeadersOf (Json.member? members "headers") d.headers
  body : match Json.member? members "data" with
    | some (.object inner) => BodyOf inner d.body
    | _ => d.body = .empty
  responseType : match Json.member? members "responseType" with
    | some (.string hint) => d.responseType = .ofHint hint
    | _ => d.responseType = .text
  incremental : d.incremental = true ↔
    Json.member? members "incrementalUpdates" = some (.bool true)
  timeout : match Json.member? members "timeout" with
    | some (.number (.int n)) => (d.timeoutMs : Int) = n
    | _ => d.timeoutMs = 0

namespace Draft

variable {d e : Draft} {name : String}

theorem exists_put_iff : (∃ e, d.put name v = .ok e) ↔ Admits name v := by
  unfold put
  split
  case h_9 => simp_all [Admits]
  all_goals
    rw [Reader.exists_map_iff]
    simp only [Admits, Reader.string_eq_ok_iff, Reader.boolean_eq_ok_iff, Reader.nat64_eq_ok_iff,
      Reader.exists_optional_iff, Reader.sequence_eq_ok_iff, Reader.map_eq_ok_iff,
      readId_eq_ok_iff_number]
  constructor
  · rintro ⟨id, rfl, hfits⟩
    exact ⟨id.raw, rfl, hfits, id.ne_zero⟩
  · rintro ⟨n, rfl, hfits, hne⟩
    exact ⟨⟨n, hne⟩, rfl, hfits⟩

theorem exists_fields_iff :
    (∃ e, Reader.fields d put members = .ok e) ↔ ∀ m ∈ members, Admits m.1 m.2 := by
  induction members generalizing d with
  | nil => exact iff_of_true ⟨d, rfl⟩ (fun _ h => nomatch h)
  | cons m rest ih =>
    obtain ⟨name, v⟩ := m
    rw [List.forall_mem_cons, ← exists_put_iff (d := d)]
    constructor
    · rintro ⟨e, he⟩
      obtain ⟨mid, hput, hrest⟩ := Reader.fields_cons.1 he
      exact ⟨⟨mid, hput⟩, ih.1 ⟨e, hrest⟩⟩
    · rintro ⟨⟨mid, hput⟩, hadmits⟩
      obtain ⟨e, hrest⟩ := ih.2 hadmits
      exact ⟨e, Reader.fields_cons.2 ⟨mid, hput, hrest⟩⟩

def Complete (e : Draft) : Prop :=
  e.method.isSome = true ∧ e.url.isSome = true ∧ e.requestId.isSome = true

end Draft

theorem wellTyped_iff (hkeyed : (Json.object members).Keyed) :
    WellTyped members ↔ ∃ e, Draft.read (.object members) = .ok e ∧ e.Complete := by
  have hadmitted : (∃ e, Draft.read (.object members) = .ok e) ↔
      ∀ name v, Json.member? members name = some v → Admits name v := by
    simp only [Json.member?_eq_some_iff hkeyed]
    exact Draft.exists_fields_iff.trans Prod.forall
  constructor
  · rintro ⟨hpresent, hadmits⟩
    obtain ⟨e, he⟩ := hadmitted.2 hadmits
    obtain ⟨hmethod, hurl, hid⟩ := (Draft.holds_of_read hkeyed he).filled
    exact ⟨e, he, hmethod.trans (hpresent _ (by simp)), hurl.trans (hpresent _ (by simp)),
      hid.trans (hpresent _ (by simp))⟩
  · rintro ⟨e, he, hmethod, hurl, hid⟩
    have hfilled := (Draft.holds_of_read hkeyed he).filled
    rw [hmethod, hurl, hid] at hfilled
    exact ⟨by simp [← hfilled], hadmitted.1 ⟨e, he⟩⟩

theorem ofDraft_of_not_complete {e : Draft} (h : ¬ e.Complete) :
    ∃ reason, ofDraft e = .error (.invalidDescriptor reason) := by
  unfold ofDraft
  cases hmethod : e.method with
  | none => exact ⟨_, rfl⟩
  | some method =>
    cases hurl : e.url with
    | none => exact ⟨_, rfl⟩
    | some url =>
      cases hid : e.requestId with
      | none => exact ⟨_, rfl⟩
      | some id => exact absurd (by simp [Draft.Complete, hmethod, hurl, hid]) h

theorem ofDraft_of_complete {e : Draft} (h : e.Complete) :
    ∃ method url id, e.method = some method ∧ e.url = some url ∧ e.requestId = some id ∧
      ofDraft e = (readBody e.data).map fun body =>
        { id, method, url, body
          headers := e.headers.map (·.map readEntry)
          responseType := .ofHint e.responseType
          incremental := e.incrementalUpdates
          timeoutMs := e.timeout } := by
  obtain ⟨hmethod, hurl, hid⟩ := h
  obtain ⟨method, hmethod⟩ := Option.isSome_iff_exists.1 hmethod
  obtain ⟨url, hurl⟩ := Option.isSome_iff_exists.1 hurl
  obtain ⟨id, hid⟩ := Option.isSome_iff_exists.1 hid
  refine ⟨method, url, id, hmethod, hurl, hid, ?_⟩
  rw [ofDraft, hmethod, hurl, hid]
  cases readBody e.data <;> rfl

theorem entryOf_readEntry (v : Json) : EntryOf v (readEntry v) := by
  cases v with
  | array items =>
    refine List.forall₂_map_right_iff.2 (List.forall₂_same.2 fun item _ s => ?_)
    cases item <;> simp [Json.string?]
  | _ => rfl

theorem headersOf_readEntry (v? : Option Json) :
    HeadersOf v? ((v?.bind Json.array?).map (·.map readEntry)) := by
  cases v? with
  | none => rfl
  | some v =>
    cases v with
    | array items =>
      exact ⟨_, rfl, List.forall₂_map_right_iff.2
        (List.forall₂_same.2 fun item _ => entryOf_readEntry item)⟩
    | _ => rfl

theorem bind_string?_eq_some_iff {v? : Option Json} {s : String} :
    v?.bind Json.string? = some s ↔ v? = some (.string s) := by
  cases v? with
  | none => simp
  | some v => cases v <;> simp [Json.string?]

theorem contentOf_readContent (inner : List (String × Json)) :
    ContentOf inner (readContent inner) := by
  unfold readContent
  refine ⟨fun s => ?_, fun uri => ?_⟩
  all_goals
    simp only [← bind_string?_eq_some_iff, ne_eq]
    cases (Json.member? inner "string").bind Json.string? <;>
      cases (Json.member? inner "uri").bind Json.string? <;> simp

theorem partOf_readPart (v : Json) : PartOf v (readPart v) := by
  cases v with
  | object inner => exact ⟨headersOf_readEntry _, contentOf_readContent inner⟩
  | _ => exact ⟨rfl, rfl⟩

theorem bodyOf_readBody {b : Body} (h : readBody (some inner) = .ok b) : BodyOf inner b := by
  unfold readBody at h
  dsimp only at h
  split at h
  case h_1 htext hfile hparts =>
    cases h
    exact ⟨htext, hfile, hparts⟩
  case h_2 htext hfile hparts =>
    cases h
    exact ⟨htext, hfile, hparts⟩
  case h_3 items htext hfile hparts =>
    cases h
    exact ⟨items, ⟨htext, hfile, hparts⟩, List.forall₂_map_right_iff.2
      (List.forall₂_same.2 fun item _ => partOf_readPart item)⟩
  case h_4 => cases h

theorem exists_readBody_iff : (∃ b, readBody (some inner) = .ok b) ↔ NamesBody inner := by
  constructor
  · rintro ⟨b, hb⟩
    have hbody := bodyOf_readBody hb
    cases b with
    | empty => exact hbody.elim
    | text content => exact .inl ⟨content, hbody⟩
    | file uri => exact .inr (.inl ⟨uri, hbody⟩)
    | multipart parts =>
      obtain ⟨items, hkeys, -⟩ := hbody
      exact .inr (.inr ⟨items, hkeys⟩)
  · rintro (⟨content, htext, hfile, hparts⟩ | ⟨uri, htext, hfile, hparts⟩ |
      ⟨items, htext, hfile, hparts⟩)
    all_goals
      rw [readBody, htext, hfile, hparts]
      exact ⟨_, rfl⟩

/-- An object under `data` names a body. -/
def HasBody (members : List (String × Json)) : Prop :=
  ∀ inner, Json.member? members "data" = some (.object inner) → NamesBody inner

theorem exists_body_iff {e : Draft} (h : e.Holds members) :
    (∃ b, readBody e.data = .ok b) ↔ HasBody members := by
  rw [h.data, HasBody]
  cases Json.member? members "data" with
  | none => simp [readBody]
  | some v =>
    cases v with
    | object inner => simpa [Json.members?] using exists_readBody_iff
    | _ => simp [readBody, Json.members?]

theorem describes_of_holds {e : Draft} (h : e.Holds members) (hcomplete : e.Complete)
    (hd : ofDraft e = .ok d) : Describes members d := by
  obtain ⟨method, url, id, hmethod, hurl, hid, hdraft⟩ := ofDraft_of_complete hcomplete
  cases hbody : readBody e.data with
  | error f => simp [hdraft, hbody, Except.map] at hd
  | ok b =>
    simp only [hdraft, hbody, Except.map, Except.ok.injEq] at hd
    subst hd
    rw [h.data] at hbody
    refine ⟨h.method _ hmethod, h.url _ hurl, h.requestId _ hid, ?_, ?_, ?_, h.incremental, ?_⟩
    case refine_1 =>
      rw [h.headers]
      exact headersOf_readEntry _
    case refine_2 =>
      split
      · next inner hdata =>
        rw [hdata] at hbody
        exact bodyOf_readBody hbody
      · next hdata =>
        cases hinner : (Json.member? members "data").bind Json.members? with
        | none =>
          rw [hinner] at hbody
          exact (Except.ok.inj hbody).symm
        | some inner =>
          obtain ⟨v, hv, hmembers⟩ := Option.bind_eq_some_iff.1 hinner
          cases v <;> cases hmembers
          exact absurd hv (hdata _)
    case refine_3 =>
      rw [h.responseType]
      cases Json.member? members "responseType" with
      | none => rfl
      | some v => cases v <;> rfl
    case refine_4 =>
      have hslot := h.timeout
      cases hv : Json.member? members "timeout" with
      | none => rwa [hv] at hslot
      | some v =>
        rw [hv] at hslot
        subst hslot
        rfl

/-- An object is a descriptor if its fields are as they must be and an object under `data` names a
body. If a field is not, the descriptor is invalid, whatever stands under `data`; if only the body
is not named, that is told. The descriptor says what the object says, item by item. -/
theorem read_by_grammar (hkeyed : (Json.object members).Keyed) :
    ((∃ d, ofJson (.object members) = .ok d) ↔ WellTyped members ∧ HasBody members) ∧
    (¬ WellTyped members →
      ∃ reason, ofJson (.object members) = .error (.invalidDescriptor reason)) ∧
    (WellTyped members → ¬ HasBody members →
      ofJson (.object members) = .error .unrecognizedBody) ∧
    ∀ d, ofJson (.object members) = .ok d → Describes members d := by
  rw [wellTyped_iff hkeyed]
  unfold ofJson
  cases hread : Draft.read (.object members) with
  | error e => simp
  | ok e =>
    have hholds := Draft.holds_of_read hkeyed hread
    simp only [Except.ok.injEq, exists_eq_left']
    by_cases hcomplete : e.Complete
    · obtain ⟨method, url, id, -, -, -, hdraft⟩ := ofDraft_of_complete hcomplete
      have hbody := exists_body_iff hholds
      refine ⟨?_, fun h => absurd hcomplete h, fun _ hnone => ?_,
        fun d hd => describes_of_holds hholds hcomplete hd⟩
      · rw [hdraft, ← hbody]
        cases readBody e.data <;> simp [Except.map, hcomplete]
      · cases hdata : readBody e.data with
        | ok b => exact absurd (hbody.1 ⟨b, hdata⟩) hnone
        | error f =>
          rw [hdraft, hdata, readBody_eq_error hdata]
          rfl
    · obtain ⟨reason, hreason⟩ := ofDraft_of_not_complete hcomplete
      simp [hreason, hcomplete]

theorem read_by_grammar_of_form :
    let members : List (String × Json) :=
      [("data", .object [("formData", .array [
          .object [("headers", .array [.array [.string "a", .null], .string "b"]),
            ("string", .string "x")],
          .object [("string", .string "x"), ("uri", .string "y")]])]),
        ("method", .string "POST"), ("requestId", .number (.int 3)), ("url", .string "http://a/")]
    ∃ d, ofJson (.object members) = .ok d ∧ WellTyped members ∧ HasBody members ∧
      Describes members d ∧ d.body = .multipart
        [{ headers := some [[some "a", none], []], content := some (.text "x") },
          { headers := none, content := none }] := by
  intro members
  have hkeyed : (Json.object members).Keyed :=
    show ["data", "method", "requestId", "url"].Nodup by decide
  obtain ⟨hiff, -, -, hdescribes⟩ := read_by_grammar hkeyed
  have hok : ofJson (.object members) = .ok
      { id := ⟨3, by decide⟩, method := "POST", url := "http://a/", headers := none
        body := .multipart
          [{ headers := some [[some "a", none], []], content := some (.text "x") },
            { headers := none, content := none }] } := rfl
  obtain ⟨htyped, hbody⟩ := hiff.1 ⟨_, hok⟩
  exact ⟨_, hok, htyped, hbody, hdescribes _ hok, rfl⟩

end Outbound.Descriptor
