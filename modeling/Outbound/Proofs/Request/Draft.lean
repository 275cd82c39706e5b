import Outbound.Dispatch.Submission
import Outbound.Proofs.Header.Grouping

/-! What a request that is drafted is made of. The fields are those that the caller gave, all of
them valid, with what arranging and describing the body does to them; the body is what the caller's
body resolves to. The header that credentials become is the only one that comes from elsewhere. -/

namespace Outbound

namespace Payload

variable {p : Payload} {name : String} {l : FieldList}

def typed (p : Payload) (l : FieldList) : FieldList :=
  match p with
  | .multipart body => l.set Header.contentType body.contentType
  | _ => l

def statedLength? (p : Payload) : Option Nat := if p.present then p.length else none

theorem describe_eq (p : Payload) (l : FieldList) :
    p.describe l = match p.statedLength? with
      | some n => (p.typed l).set Header.contentLength (String.ofList (Ascii.decimal n))
      | none => (p.typed l).removeAll Header.contentLength := by
  unfold describe statedLength? typed
  cases p.present with
  | false => rfl
  | true => cases p.length <;> rfl

theorem filter_describe (p : Payload) (l : FieldList)
    (htype : Ascii.lower name ≠ Ascii.lower Header.contentType)
    (hlength : Ascii.lower name ≠ Ascii.lower Header.contentLength) :
    (p.describe l).fields.filter (Field.named name) = l.fields.filter (Field.named name) := by
  have htyped : (p.typed l).fields.filter (Field.named name) =
      l.fields.filter (Field.named name) := by
    cases p with
    | multipart body => exact FieldList.filter_set htype _
    | _ => rfl
  rw [describe_eq, ← htyped]
  cases p.statedLength? with
  | none => exact FieldList.filter_removeAll hlength
  | some n => exact FieldList.filter_set hlength _

end Payload

namespace Request

theorem values_start {method name : String} {u : Url} {r : Request}
    (h : start method u = .ok r) (hname : name ≠ "authorization") : r.headers.values name = [] := by
  unfold start at h
  split at h
  · cases h
  · split at h
    · cases h
      rw [FieldMap.values_insert, if_neg (Ne.symm hname)]
      rfl
    · cases h
      rfl

end Request

namespace Descriptor

variable {env : Environment} {d : Descriptor} {own : List Field} {r : Request} {name : String}

def fieldList (env : Environment) (d : Descriptor) (own : List Field) : FieldList :=
  ⟨FieldList.arranged env.client.settings.userAgent d.body.isText own⟩

/-- A request that a descriptor with these fields is drafted as. -/
structure Drafted (env : Environment) (d : Descriptor) (own : List Field) (r : Request) : Prop where
  raw : d.headers = some (own.map Field.toRaw)
  valid : ∀ f ∈ own, f.valid = true
  payload : (Payload.resolve env.means d.method d.body (d.fieldList env own) env.pack).outcome =
    .ok r.payload
  values : ∀ name, Ascii.lower name ≠ "authorization" →
    r.headers.values (Ascii.lower name) =
      (((r.payload.describe (d.fieldList env own)).fields.filter (Field.named name)).filter
        Field.valid).map (·.value)

theorem fields_of_parse {l : FieldList} (h : d.parseFields env.client.settings = .ok l) :
    ∃ own : List Field, d.headers = some (own.map Field.toRaw) ∧ (∀ f ∈ own, f.valid = true) ∧
      l = d.fieldList env own := by
  unfold parseFields at h
  split at h
  · next l' hbuilt =>
    cases h
    exact FieldList.build?_eq_some_iff.1 hbuilt
  · cases h

theorem exists_drafted (h : (d.draft env).outcome = .ok r) : ∃ own, d.Drafted env own r := by
  cases hmethod : d.parseMethod with
  | error f =>
    rw [draft, hmethod] at h
    cases h
  | ok method =>
    have hsame : method = d.method := by
      unfold parseMethod at hmethod
      split at hmethod <;> cases hmethod
      rfl
    subst hsame
    cases hurl : d.parseUrl with
    | error f =>
      rw [draft, hmethod, hurl] at h
      cases h
    | ok u =>
      cases hfields : d.parseFields env.client.settings with
      | error f =>
        rw [draft, hmethod, hurl, hfields] at h
        cases h
      | ok l =>
        rw [draft, hmethod, hurl, hfields] at h
        obtain ⟨own, hraw, hvalid, rfl⟩ := fields_of_parse hfields
        obtain ⟨payload, hresolved, hheld⟩ := Trial.andThen_eq_ok_iff.1 h
        have hpayload := Trial.halting_eq_ok_iff.1 hresolved
        split at hheld
        · split at hheld <;> cases hheld
          next base hbase =>
            refine ⟨own, hraw, hvalid, hpayload, fun name hname => ?_⟩
            have hempty : base.headers.values (Ascii.lower name) = [] :=
              Request.values_start hbase hname
            exact (FieldMap.values_replaceWith_of_empty (FieldList.toMap_grouped _) hempty).trans
              (FieldList.values_toMap _ name)
        · cases hheld

theorem exists_of_prepare {sub : Submission} (h : (d.prepare env).outcome = .ok sub) :
    ∃ r own, (d.draft env).outcome = .ok r ∧ sub.request = env.client.intercept r ∧
      d.Drafted env own r := by
  obtain ⟨r, hr, hsub⟩ := Trial.andThen_eq_ok_iff.1 h
  obtain ⟨own, hown⟩ := exists_drafted hr
  cases hsub
  exact ⟨r, own, hr, rfl, hown⟩

end Descriptor
end Outbound
