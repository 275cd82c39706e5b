import Outbound.Proofs.Multipart.Length
import Outbound.Proofs.Request.Draft

/-! What a request may hold. The length of a body of parts is a sum that 64 bits have to hold, and a
header map has to have room for the fields, with those that describe the body. A map for so many
fields has room for every list that is three fields shorter, and for no list of more that stay. -/

namespace Outbound

namespace Multipart

variable {m : Multipart} {n : Nat}

theorem counted_cons (boundary mediaType : String) (s : Segment) (ss : List Segment) :
    counted ⟨boundary, mediaType, s :: ss⟩ =
      match s.encodedLength boundary with
      | some k => k + counted ⟨boundary, mediaType, ss⟩
      | none => closingLength boundary := by
  unfold counted Segment.encodedLength
  cases h : s.length <;> simp [h]

theorem counted_of_contentLength (h : m.contentLength = some n) : m.counted = n := by
  obtain ⟨boundary, mediaType, ss⟩ := m
  induction ss generalizing n with
  | nil => exact Option.some.inj h
  | cons s ss ih =>
    rw [contentLength_cons] at h
    obtain ⟨k, hk, hrest⟩ := Option.bind_eq_some_iff.1 h
    obtain ⟨rest, htotal, hsum⟩ := Option.bind_eq_some_iff.1 hrest
    cases hsum
    rw [counted_cons, hk, ih htotal]

theorem countable_iff_of_contentLength (h : m.contentLength = some n) :
    m.countable = true ↔ n < Word.count64 := by
  rw [countable, counted_of_contentLength h, decide_eq_true_iff]

end Multipart

/-- A field that stays where it is when a request is prepared, whatever its body. -/
def Field.stays (f : Field) : Bool :=
  !f.named Header.contentType && !f.named Header.contentLength && !f.named Header.contentEncoding

namespace FieldList

variable {l : FieldList} {name value : String}

theorem length_removeAll_le (l : FieldList) (name : String) :
    (l.removeAll name).fields.length ≤ l.fields.length := List.length_filter_le _ _

theorem length_set_le (l : FieldList) (name value : String) :
    (l.set name value).fields.length ≤ l.fields.length + 1 := by
  rw [set, List.length_append]
  exact Nat.succ_le_succ (length_removeAll_le l name)

theorem filter_stays_removeAll (h : ∀ f : Field, f.stays = true → f.named name = false) :
    (l.removeAll name).fields.filter Field.stays = l.fields.filter Field.stays := by
  rw [removeAll_fields, List.filter_filter]
  refine List.filter_congr fun f _ => ?_
  cases hf : f.stays with
  | false => rfl
  | true => simp [h f hf]

theorem filter_stays_set (h : ∀ f : Field, f.stays = true → f.named name = false) :
    (l.set name value).fields.filter Field.stays = l.fields.filter Field.stays := by
  have hnew : Field.stays ⟨name, value⟩ = false := by
    by_contra hstays
    have hnamed : Field.named name ⟨name, value⟩ = true := Field.named_iff.2 rfl
    rw [h _ (by simpa using hstays)] at hnamed
    cases hnamed
  rw [set, List.filter_append, filter_stays_removeAll h]
  simp [hnew]

theorem length_arranged_le (agent : Option String) (text : Bool) (fs : List Field) :
    (arranged agent text fs).length ≤ fs.length + 1 := by
  have hadded : (added agent fs).length ≤ 1 := by
    unfold added
    split
    · exact Nat.zero_le 1
    · cases agent <;> simp
  rw [arranged, List.length_append]
  exact Nat.add_le_add (List.length_filter_le _ _) hadded

theorem filter_stays_arranged_le (agent : Option String) (text : Bool) (fs : List Field) :
    (fs.filter Field.stays).length ≤ ((arranged agent text fs).filter Field.stays).length := by
  have hkept : (fs.filter fun f => text || !f.named Header.contentEncoding).filter Field.stays =
      fs.filter Field.stays := by
    rw [List.filter_filter]
    refine List.filter_congr fun f _ => ?_
    unfold Field.stays
    cases f.named Header.contentEncoding <;> simp
  rw [arranged, List.filter_append, hkept, List.length_append]
  exact Nat.le_add_right _ _

end FieldList

namespace Payload

theorem length_describe_le (p : Payload) (l : FieldList) :
    (p.describe l).fields.length ≤ l.fields.length + 2 := by
  have htyped : (p.typed l).fields.length ≤ l.fields.length + 1 := by
    cases p with
    | multipart body => exact FieldList.length_set_le l _ _
    | _ => exact Nat.le_succ _
  rw [describe_eq]
  cases p.statedLength? with
  | none => exact (FieldList.length_removeAll_le _ _).trans (htyped.trans (Nat.le_succ _))
  | some n => exact (FieldList.length_set_le _ _ _).trans (Nat.succ_le_succ htyped)

theorem filter_stays_describe (p : Payload) (l : FieldList) :
    (p.describe l).fields.filter Field.stays = l.fields.filter Field.stays := by
  have htype : ∀ f : Field, f.stays = true → f.named Header.contentType = false := by
    simp +contextual [Field.stays]
  have hlength : ∀ f : Field, f.stays = true → f.named Header.contentLength = false := by
    simp +contextual [Field.stays]
  have htyped : (p.typed l).fields.filter Field.stays = l.fields.filter Field.stays := by
    cases p with
    | multipart body => exact FieldList.filter_stays_set htype
    | _ => rfl
  rw [describe_eq, ← htyped]
  cases p.statedLength? with
  | none => exact FieldList.filter_stays_removeAll hlength
  | some n => exact FieldList.filter_stays_set hlength

end Payload

namespace Descriptor

variable {env : Environment} {d : Descriptor}

def resolved (env : Environment) (d : Descriptor) : Trial Payload :=
  Payload.resolve env.means d.method d.body (d.fieldList env (RawField.pairs d.headers)) env.pack

/-- Whether the body is there but too much: for the counter of its length, or, with all fields, for
a header map. -/
def oversized (env : Environment) (d : Descriptor) : Bool :=
  match (d.resolved env).outcome with
  | .ok payload => !env.holds payload (d.fieldList env (RawField.pairs d.headers))
  | .error _ => false

/-- Whether a request overruns: there is nothing wrong with method, URL, headers and body but that
they are too much. -/
def overruns (env : Environment) (d : Descriptor) : Bool :=
  Token.valid d.method && (Url.parse d.url).isOk && RawField.wellFormed d.headers &&
    d.oversized env

theorem oversized_of_error {f : Failure} (h : (d.resolved env).outcome = .error f) :
    d.oversized env = false := by
  rw [oversized, h]

theorem oversized_of_ok {payload : Payload} (h : (d.resolved env).outcome = .ok payload) :
    d.oversized env = !env.holds payload (d.fieldList env (RawField.pairs d.headers)) := by
  rw [oversized, h]

theorem oversized_iff : d.oversized env = true ↔ ∃ payload, (d.resolved env).outcome = .ok payload ∧
    (payload.countable = false ∨
      env.hasRoom (payload.describe (d.fieldList env (RawField.pairs d.headers))) = false) := by
  cases h : (d.resolved env).outcome with
  | error f => simp [oversized_of_error h]
  | ok payload => simp [oversized_of_ok h, Environment.holds]

theorem oversized_of_few (hroom : env.hasRoom = FieldList.mappable)
    (hcount : ∀ payload, (d.resolved env).outcome = .ok payload → payload.countable = true)
    (hfew : (RawField.pairs d.headers).length + 3 ≤ FieldMap.mostFields) :
    d.oversized env = false := by
  rw [Bool.eq_false_iff, Ne, oversized_iff]
  rintro ⟨payload, hpayload, huncounted | hfull⟩
  · simp [hcount payload hpayload] at huncounted
  · have hdescribed := payload.length_describe_le (d.fieldList env (RawField.pairs d.headers))
    have harranged := FieldList.length_arranged_le env.client.settings.userAgent d.body.isText
      (RawField.pairs d.headers)
    rw [hroom, FieldList.mappable, decide_eq_false_iff_not] at hfull
    simp only [fieldList] at hdescribed hfull
    omega

theorem oversized_of_many (hroom : env.hasRoom = FieldList.mappable) {payload : Payload}
    (hpayload : (d.resolved env).outcome = .ok payload)
    (hmany : FieldMap.mostFields < ((RawField.pairs d.headers).filter Field.stays).length) :
    d.oversized env = true := by
  refine oversized_iff.2 ⟨payload, hpayload, .inr ?_⟩
  have harranged := FieldList.filter_stays_arranged_le env.client.settings.userAgent d.body.isText
    (RawField.pairs d.headers)
  have hdescribed := payload.filter_stays_describe (d.fieldList env (RawField.pairs d.headers))
  have hkept := List.length_filter_le Field.stays
    (payload.describe (d.fieldList env (RawField.pairs d.headers))).fields
  rw [hdescribed] at hkept
  rw [hroom, FieldList.mappable, decide_eq_false_iff_not, Nat.not_le]
  exact Nat.lt_of_lt_of_le hmany (harranged.trans hkept)

end Descriptor
end Outbound
