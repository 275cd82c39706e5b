import Outbound.Proofs.Header.MediaType
import Outbound.Proofs.Request.Upload

/-! The boundary that a request states, and the one that its body has. A body of parts states its
type once: the last type that the caller named, or else the usual one, and the boundary behind it.
What the caller wrote is not looked into, so that a boundary in it stands in front of the one that
counts, and a quote that it leaves open takes that one in. -/

namespace Outbound

open MediaType (Closed boundaries)

theorem Header.isValueChar_of_isAlphanum {c : Char} (h : c.isAlphanum = true) :
    isValueChar c = true := by
  unfold Char.isAlphanum Char.isAlpha Char.isUpper Char.isLower Char.isDigit at h
  simp only [ge_iff_le, Bool.or_eq_true, Bool.and_eq_true, decide_eq_true_eq,
    UInt32.le_iff_toNat_le] at h
  change ((65 ≤ c.toNat ∧ c.toNat ≤ 90) ∨ (97 ≤ c.toNat ∧ c.toNat ≤ 122)) ∨
    (48 ≤ c.toNat ∧ c.toNat ≤ 57) at h
  simp only [isValueChar, Bool.or_eq_true, Bool.and_eq_true, decide_eq_true_eq]
  omega

namespace Multipart

variable {resolve : FileResolver} {agent : Option String} {fs : FileSystem} {parts : List Part}
  {boundary mediaType : String} {m : Multipart}

/-- Takes the boundary from the only type that is stated, if it has one boundary. -/
def receive (types : List String) (body : Bytes) : Option Reading :=
  match types with
  | [type] =>
    match boundaries type with
    | [boundary] => read (Utf8.encode boundary.toList) body
    | _ => none
  | _ => none

theorem exists_of_assemble (h : (assemble resolve agent boundary mediaType parts).outcome = .ok m) :
    ∃ ss, (readParts resolve agent parts).outcome = .ok ss ∧ m = ⟨boundary, mediaType, ss⟩ := by
  obtain ⟨ss, hss, hm⟩ := Trial.andThen_eq_ok_iff.1 h
  exact ⟨ss, hss, (Except.ok.inj hm).symm⟩

theorem faultless_of_readParts {ss : List Segment}
    (h : (readParts resolve agent parts).outcome = .ok ss) :
    ∀ p ∈ parts, p.fault? resolve = none := by
  have hfault := readParts_fault? resolve agent parts
  rw [Trial.fault?_eq_none_iff.2 ⟨ss, h⟩] at hfault
  exact List.findSome?_eq_none_iff.1 hfault.symm

theorem closing_eq (boundary : String) :
    closing boundary = dashes ++ Utf8.encode boundary.toList ++ dashes ++ crlf := by
  have hend : Utf8.encode ('-' :: '-' :: lineBreak) = dashes ++ crlf := rfl
  have hdash : Utf8.encode ('-' :: '-' :: boundary.toList) =
      dashes ++ Utf8.encode boundary.toList := rfl
  rw [closing, Utf8.encode_append, hdash, hend, List.append_assoc _ dashes crlf]

theorem read_of_assemble {contentOf : Part → Bytes} (hboundary : IsBoundary boundary)
    (hagent : ∀ value ∈ agent, Header.validValue value = true ∧
      ¬ Utf8.encode boundary.toList <:+: Utf8.encode value.toList)
    (hcarries : ∀ p ∈ parts, p.Carries resolve fs (contentOf p))
    (hfree : ∀ p ∈ parts, p.Free (Utf8.encode boundary.toList) (contentOf p))
    (h : (assemble resolve agent boundary mediaType parts).outcome = .ok m) :
    ∃ ds, m.drain fs = .ok ds ∧ (∀ d ∈ ds, ∃ bytes, d = .data bytes) ∧
      read (Utf8.encode boundary.toList) (Delivery.content ds) =
        some ⟨none, parts.map fun p => p.toSection resolve agent (contentOf p), some []⟩ := by
  obtain ⟨ss, hss, rfl⟩ := exists_of_assemble h
  have hfault := faultless_of_readParts hss
  obtain ⟨ss', pieces, hss', -, hdrains, hdata, hbytes⟩ :=
    exists_segments hfault hcarries agent boundary
  obtain rfl : ss' = ss := Except.ok.inj (hss'.symm.trans hss)
  refine ⟨pieces.flatten ++ [.data (closing boundary)], ?_, ?_, ?_⟩
  · rw [drain, hdrains]
    rfl
  · intro d hd
    rcases List.mem_append.1 hd with hd | hd
    · exact hdata d hd
    · exact ⟨_, List.mem_singleton.1 hd⟩
  · have hframe : Delivery.content (pieces.flatten ++ [.data (closing boundary)]) =
        frame (Utf8.encode boundary.toList)
          (parts.map fun p => p.toSection resolve agent (contentOf p)) := by
      rw [frame, ← hbytes, ← closing_eq]
      simp [Delivery.content, Delivery.bytes]
    rw [hframe]
    apply read_frame (hboundary.not_mem (c := '\r') rfl (by decide) rfl)
      (hboundary.not_mem (c := '\n') rfl (by decide) rfl)
    intro s hs
    obtain ⟨p, hp, rfl⟩ := List.mem_map.1 hs
    obtain ⟨hform, -⟩ := Part.fault?_eq_none_iff.1 (hfault p hp)
    exact hboundary.toSection_fits hform (hfree p hp) hagent

theorem validValue_contentType (hboundary : IsBoundary m.boundary)
    (hmedia : Header.validValue m.mediaType = true) : Header.validValue m.contentType = true := by
  have hname : "; boundary=".toList.all Header.isValueChar = true := by decide
  have hletters : m.boundary.toList.all Header.isValueChar = true :=
    List.all_eq_true.2 fun c hc => Header.isValueChar_of_isAlphanum (hboundary.2 c hc)
  rw [Header.validValue] at hmedia
  rw [Header.validValue, contentType, String.toList_append, String.toList_append, List.all_append,
    List.all_append, hmedia, hname, hletters]
  rfl

end Multipart

theorem Payload.values_type {m : Multipart} (h : Header.validValue m.contentType = true)
    (l : FieldList) :
    ((((Payload.multipart m).describe l).fields.filter (Field.named Header.contentType)).filter
      Field.valid).map (·.value) = [m.contentType] := by
  have hother : Ascii.lower Header.contentType ≠ Ascii.lower Header.contentLength := by decide
  have hname : Header.validName Header.contentType = true := by decide
  have htyped : ((Payload.multipart m).describe l).fields.filter
      (Field.named Header.contentType) = [⟨Header.contentType, m.contentType⟩] := by
    rw [describe_eq]
    cases (Payload.multipart m).statedLength? with
    | none =>
      simp only [FieldList.filter_removeAll hother]
      exact FieldList.filter_set_self l _ _
    | some n =>
      simp only [FieldList.filter_set hother]
      exact FieldList.filter_set_self l _ _
  rw [htyped]
  simp [Field.valid, hname, h]

namespace Descriptor

variable {env : Environment} {d : Descriptor} {sub : Submission} {parts : List Part}

def mediaType (d : Descriptor) : String :=
  (((RawField.pairs d.headers).filter (Field.named Header.contentType)).getLast?.map
    (·.value)).getD Multipart.defaultType

theorem mediaType_of_unnamed
    (h : (RawField.pairs d.headers).any (Field.named Header.contentType) = false) :
    d.mediaType = Multipart.defaultType := by
  have hnone : (RawField.pairs d.headers).filter (Field.named Header.contentType) = [] := by
    simpa using h
  rw [mediaType, hnone]
  rfl

theorem validValue_mediaType {own : List Field} (hraw : d.headers = some (own.map Field.toRaw))
    (hvalid : ∀ f ∈ own, f.valid = true) : Header.validValue d.mediaType = true := by
  rw [mediaType, hraw, FieldList.pairs_map_toRaw]
  cases hlast : (own.filter (Field.named Header.contentType)).getLast? with
  | none => decide
  | some f =>
    have hf : f ∈ own := List.mem_of_mem_filter (List.mem_of_getLast? hlast)
    exact (Bool.and_eq_true_iff.1 (hvalid f hf)).2

theorem Drafted.mediaType_eq {own : List Field} {r : Request} (h : d.Drafted env own r) :
    (d.fieldList env own).contentType?.getD Multipart.defaultType = d.mediaType := by
  rw [fieldList, FieldList.contentType?_arranged, mediaType, h.raw, FieldList.pairs_map_toRaw]

theorem Drafted.values_type {own : List Field} {r : Request} (h : d.Drafted env own r)
    (hbody : d.body = .multipart parts) (hboundary : Multipart.IsBoundary env.boundary) :
    ∃ m, r.payload = .multipart m ∧ m.boundary = env.boundary ∧
      (Multipart.assemble env.resolve env.client.settings.userAgent env.boundary d.mediaType
        parts).outcome = .ok m ∧
      r.headers.values Header.contentType = [d.mediaType ++ "; boundary=" ++ env.boundary] := by
  obtain ⟨m, hm, hassembled⟩ := h.exists_multipart hbody
  rw [h.mediaType_eq] at hassembled
  obtain ⟨ss, -, rfl⟩ := Multipart.exists_of_assemble hassembled
  have hvalid : Header.validValue (Multipart.contentType ⟨env.boundary, d.mediaType, ss⟩) = true :=
    Multipart.validValue_contentType hboundary (validValue_mediaType h.raw h.valid)
  have hvalues := h.values Header.contentType (by decide)
  have hlower : Ascii.lower Header.contentType = Header.contentType := by decide
  rw [hlower, hm, Payload.values_type hvalid] at hvalues
  exact ⟨_, hm, rfl, hassembled, hvalues⟩

/-- A request with a body of parts states one type, and behind what the caller wrote there the
boundary that frames the parts. It is the only boundary in it if the caller left no quote open and
named none, as it is behind the usual type, and then those who take the boundary from the type find
the parts. -/
theorem boundary_stated (fs : FileSystem) (hbody : d.body = .multipart parts)
    (hboundary : Multipart.IsBoundary env.boundary) (h : (d.prepare env).outcome = .ok sub) :
    let stated := d.mediaType ++ "; boundary=" ++ env.boundary
    ∃ r m, (d.draft env).outcome = .ok r ∧ sub.request = env.client.intercept r ∧
      r.payload = .multipart m ∧ m.boundary = env.boundary ∧
      r.headers.values Header.contentType = [stated] ∧
      boundaries stated = boundaries d.mediaType ++
        (if Closed d.mediaType then [env.boundary] else []) ∧
      (boundaries stated = [env.boundary] ↔
        Closed d.mediaType ∧ boundaries d.mediaType = [] ∨
        ¬ Closed d.mediaType ∧ boundaries d.mediaType = [env.boundary]) ∧
      ((RawField.pairs d.headers).any (Field.named Header.contentType) = false →
        boundaries stated = [env.boundary]) ∧
      ∀ contentOf : Part → Bytes,
        (∀ p ∈ parts, p.Carries env.resolve fs (contentOf p)) →
        (∀ p ∈ parts, p.Free (Utf8.encode env.boundary.toList) (contentOf p)) →
        (∀ value ∈ env.client.settings.userAgent, Header.validValue value = true ∧
          ¬ Utf8.encode env.boundary.toList <:+: Utf8.encode value.toList) →
        let sections := parts.map fun p =>
          p.toSection env.resolve env.client.settings.userAgent (contentOf p)
        ∃ ds, m.drain fs = .ok ds ∧ (∀ e ∈ ds, ∃ bytes, e = .data bytes) ∧
          Multipart.read (Utf8.encode env.boundary.toList) (Delivery.content ds) =
            some ⟨none, sections, some []⟩ ∧
          (boundaries stated = [env.boundary] →
            Multipart.receive (r.headers.values Header.contentType) (Delivery.content ds) =
              some ⟨none, sections, some []⟩) := by
  intro stated
  obtain ⟨r, own, hdraft, hrequest, hown⟩ := exists_of_prepare h
  obtain ⟨m, hm, hsame, hassembled, hstated⟩ := hown.values_type hbody hboundary
  have hread : boundaries stated =
      boundaries d.mediaType ++ (if Closed d.mediaType then [env.boundary] else []) := by
    split
    · next hclosed => exact MediaType.boundaries_of_closed hclosed hboundary.2
    · next hopen => exact (MediaType.boundaries_of_open hopen hboundary.2).trans (by simp)
  refine ⟨r, m, hdraft, hrequest, hm, hsame, hstated, hread, ?_, fun hnone => ?_,
    fun contentOf hcarries hfree hagent => ?_⟩
  · rw [hread]
    by_cases hclosed : Closed d.mediaType <;> simp [hclosed]
  · have hplain : Closed Multipart.defaultType ∧ boundaries Multipart.defaultType = [] := by
      decide +kernel
    rw [hread, mediaType_of_unnamed hnone, if_pos hplain.1, hplain.2, List.nil_append]
  · obtain ⟨ds, hds, hdata, hsections⟩ :=
      Multipart.read_of_assemble hboundary hagent hcarries hfree hassembled
    refine ⟨ds, hds, hdata, hsections, fun hone => ?_⟩
    rw [hstated, Multipart.receive, hone]
    exact hsections

theorem boundary_stated_of_quoted :
    let d : Descriptor := {
      id := ⟨1, by decide⟩
      method := "POST"
      url := "http://a/"
      headers := some [[some "content-type", some "text/plain; boundary=x"],
        [some "Content-Type", some "multipart/mixed; note=\"; boundary=y\""]]
      body := .multipart [⟨some [], some (.text "b\r\n--x")⟩] }
    let env : Environment := {
      resolve := fun _ => none
      boundary := "0123456789abcdefABCDEF0123456789" }
    ∃ r ds, (d.draft env).outcome = .ok r ∧
      r.headers.values "content-type" =
        ["multipart/mixed; note=\"; boundary=y\"; boundary=0123456789abcdefABCDEF0123456789"] ∧
      r.payload.drain {} = .ok ds ∧
      (Multipart.receive (r.headers.values "content-type") (Delivery.content ds)).map
        (fun reading => reading.sections.map (·.content)) =
          some [Utf8.encode "b\r\n--x".toList] := by
  intro d env
  have hboundary : Multipart.IsBoundary env.boundary :=
    ⟨by decide, List.all_eq_true.1 (by decide)⟩
  have haccepted : Except.isOk (d.prepare env).outcome = true := by decide +kernel
  obtain ⟨sub, hsub⟩ := Dispatcher.exists_prepared haccepted
  obtain ⟨r, m, hdraft, -, hm, -, hstated, -, hone, -, hparts⟩ :=
    boundary_stated {} rfl hboundary hsub
  have hplain : Closed d.mediaType ∧ boundaries d.mediaType = [] := by decide +kernel
  obtain ⟨ds, hds, -, -, hfound⟩ := hparts (fun _ => Utf8.encode "b\r\n--x".toList)
    (List.forall_mem_singleton.2 rfl)
    (List.forall_mem_singleton.2 ⟨by decide, by decide, by decide⟩) (by decide)
  refine ⟨r, ds, hdraft, hstated, by rw [hm]; exact hds, ?_⟩
  have hreceived := hfound (hone.2 (.inl hplain))
  exact congrArg _ hreceived

/-- A boundary in the caller's type is the first one, and by it there are no parts. -/
theorem boundary_behind_another :
    let d : Descriptor := {
      id := ⟨3, by decide⟩
      method := "POST"
      url := "https://example.test/"
      headers := some [[some "content-type", some "multipart/form-data; boundary=x"]]
      body := .multipart [⟨some [], some (.text "hi")⟩] }
    let env : Environment := {
      resolve := fun _ => none
      boundary := "0123456789abcdefABCDEF0123456789" }
    ∃ r ds, (d.draft env).outcome = .ok r ∧ r.payload.drain {} = .ok ds ∧
      r.headers.values "content-type" =
        ["multipart/form-data; boundary=x; boundary=0123456789abcdefABCDEF0123456789"] ∧
      (r.headers.values "content-type").map boundaries =
        [["x", "0123456789abcdefABCDEF0123456789"]] ∧
      Multipart.receive (r.headers.values "content-type") (Delivery.content ds) = none ∧
      Multipart.read (Utf8.encode "x".toList) (Delivery.content ds) = none := by
  intro d env
  have haccepted : Except.isOk (d.prepare env).outcome = true := by decide +kernel
  obtain ⟨sub, hsub⟩ := Dispatcher.exists_prepared haccepted
  obtain ⟨r, own, hdraft, -, hown⟩ := exists_of_prepare hsub
  obtain ⟨m, -, -, -, hvalues⟩ := hown.values_type rfl ⟨by decide, List.all_eq_true.1 (by decide)⟩
  have hstated : r.headers.values "content-type" =
      ["multipart/form-data; boundary=x; boundary=0123456789abcdefABCDEF0123456789"] := hvalues
  have hread : boundaries
      "multipart/form-data; boundary=x; boundary=0123456789abcdefABCDEF0123456789" =
        ["x", "0123456789abcdefABCDEF0123456789"] := by
    decide +kernel
  have hbody : (d.draft env).outcome.toOption.map (fun r => (r.payload.drain {}).toOption.map
      fun ds => Multipart.read (Utf8.encode "x".toList) (Delivery.content ds)) =
        some (some none) := by
    decide +kernel
  rw [hdraft] at hbody
  cases hds : r.payload.drain {} with
  | error e =>
    simp only [Except.toOption, Option.map_some, hds] at hbody
    cases hbody
  | ok ds =>
    simp only [Except.toOption, Option.map_some, hds, Option.some.injEq] at hbody
    refine ⟨r, ds, hdraft, hds, hstated, ?_, ?_, hbody⟩
    · rw [hstated, List.map_singleton, hread]
    · rw [hstated, Multipart.receive, hread]

end Descriptor
end Outbound
