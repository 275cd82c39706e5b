import Outbound.Proofs.Dispatch.Step
import Outbound.Proofs.Gzip.RoundTrip
import Outbound.Proofs.Request.Draft

/-! Whether the encoding that a request states is the one that its body has. All values of the
caller are on the wire, and the last of them decides whether a text is packed. Where an earlier
value asks for gzip and the last does not, the text goes out as it is under a value that says
otherwise; in every other case a receiver who heeds the values gets the text back. -/

namespace Outbound

namespace FieldList

theorem contentEncoding?_eq (l : FieldList) :
    l.contentEncoding? =
      ((l.fields.filter (Field.named Header.contentEncoding)).map (·.value)).getLast? := by
  rw [contentEncoding?, get?_eq_getLast?, List.getLast?_map]

theorem filter_arranged_encoding (agent : Option String) (text : Bool) (fs : List Field) :
    (arranged agent text fs).filter (Field.named Header.contentEncoding) =
      if text then fs.filter (Field.named Header.contentEncoding) else [] := by
  have hadded : (added agent fs).filter (Field.named Header.contentEncoding) = [] :=
    filter_added (by decide)
  rw [arranged, List.filter_append, hadded, List.append_nil, List.filter_filter]
  cases text <;> simp

end FieldList

namespace Request

/-- The values of the request tell whether its body is the content itself or packed. -/
def StatesEncoding (pack : Bytes → Bytes) (content : Bytes) (r : Request) : Prop :=
  r.payload = .bytes (if (r.headers.values Header.contentEncoding).any FieldList.asksGzip then
    pack content else content)

/-- What a receiver makes of the body who heeds the values. -/
def received? (unpack : Bytes → Option Bytes) (r : Request) : Option Bytes :=
  match r.payload with
  | .bytes data =>
    if (r.headers.values Header.contentEncoding).any FieldList.asksGzip then unpack data
    else some data
  | _ => none

theorem StatesEncoding.received?_eq {pack : Bytes → Bytes} {unpack : Bytes → Option Bytes}
    (hunpack : ∀ data, unpack (pack data) = some data) {content : Bytes} {r : Request}
    (h : r.StatesEncoding pack content) : r.received? unpack = some content := by
  rw [StatesEncoding] at h
  rw [received?, h]
  cases (r.headers.values Header.contentEncoding).any FieldList.asksGzip with
  | true => simp [hunpack]
  | false => simp

end Request

namespace Descriptor

variable {env : Environment} {d : Descriptor} {own : List Field} {r : Request} {sub : Submission}

def encodings (d : Descriptor) : List String :=
  ((RawField.pairs d.headers).filter (Field.named Header.contentEncoding)).map (·.value)

def packs (d : Descriptor) : Bool := d.encodings.getLast?.any FieldList.asksGzip

/-- Whether an encoding asks for gzip, but not the one that comes last. -/
def masksGzip (d : Descriptor) : Bool := d.encodings.any FieldList.asksGzip && !d.packs

theorem any_encodings_of_packs (h : d.packs = true) :
    d.encodings.any FieldList.asksGzip = true := by
  obtain ⟨value, hvalue, hasks⟩ := (Option.any_eq_true ..).1 h
  exact List.any_eq_true.2 ⟨value, List.mem_of_getLast? hvalue, hasks⟩

theorem Drafted.encodings_eq (h : d.Drafted env own r) :
    d.encodings = (own.filter (Field.named Header.contentEncoding)).map (·.value) := by
  rw [encodings, h.raw, FieldList.pairs_map_toRaw]

theorem Drafted.values_encoding (h : d.Drafted env own r) :
    r.headers.values Header.contentEncoding = if d.body.isText then d.encodings else [] := by
  have hvalues := h.values Header.contentEncoding (by decide)
  have hlower : Ascii.lower Header.contentEncoding = Header.contentEncoding := by decide
  have hvalid : (own.filter (Field.named Header.contentEncoding)).filter Field.valid =
      own.filter (Field.named Header.contentEncoding) :=
    List.filter_eq_self.2 fun f hf => h.valid f (List.mem_of_mem_filter hf)
  rw [hlower, Payload.filter_describe _ _ (by decide) (by decide), fieldList,
    FieldList.filter_arranged_encoding] at hvalues
  rw [hvalues, h.encodings_eq]
  cases d.body.isText with
  | true => simp [hvalid]
  | false => rfl

theorem Drafted.isGzip_eq (h : d.Drafted env own r) (htext : d.body.isText = true) :
    (d.fieldList env own).isGzip = d.packs := by
  rw [FieldList.isGzip, FieldList.contentEncoding?_eq, fieldList,
    FieldList.filter_arranged_encoding, htext, packs, h.encodings_eq]
  rfl

theorem Drafted.payload_of_text (h : d.Drafted env own r) {content : String}
    (hbody : d.body = .text content) :
    r.payload = .bytes (if d.packs then env.pack (Utf8.encode content.toList)
      else Utf8.encode content.toList) := by
  have hpacks := h.isGzip_eq (by rw [hbody]; rfl)
  have hpayload := h.payload
  rw [hbody, Payload.resolve] at hpayload
  split at hpayload
  · cases hpayload
  · rw [Payload.ofText, hpacks] at hpayload
    exact (Except.ok.inj hpayload).symm

theorem Drafted.statesEncoding_iff (h : d.Drafted env own r) {content : String}
    (hbody : d.body = .text content) :
    r.StatesEncoding env.pack (Utf8.encode content.toList) ↔
      (d.masksGzip = true → env.pack (Utf8.encode content.toList) = Utf8.encode content.toList) := by
  have htext : d.body.isText = true := by rw [hbody]; rfl
  rw [Request.StatesEncoding, h.payload_of_text hbody, h.values_encoding, htext, if_pos rfl,
    masksGzip, Payload.bytes.injEq]
  cases hpacks : d.packs with
  | true => simp [any_encodings_of_packs hpacks]
  | false =>
    cases d.encodings.any FieldList.asksGzip with
    | true => exact ⟨fun hsame _ => hsame.symm, fun hsame => (hsame rfl).symm⟩
    | false => simp

/-- A text is packed exactly if the last encoding asks for gzip, and all encodings are stated. What
is stated is true unless an earlier one asks for gzip and the last does not. A body that is no text
states none. -/
theorem encoding_of_prepare {unpack : Bytes → Option Bytes}
    (hunpack : ∀ data, unpack (env.pack data) = some data)
    (h : (d.prepare env).outcome = .ok sub) :
    ∃ r, (d.draft env).outcome = .ok r ∧ sub.request = env.client.intercept r ∧
      (∀ content, d.body = .text content →
        r.headers.values Header.contentEncoding = d.encodings ∧
        r.payload = .bytes (if d.packs then env.pack (Utf8.encode content.toList)
          else Utf8.encode content.toList) ∧
        (r.StatesEncoding env.pack (Utf8.encode content.toList) ↔ (d.masksGzip = true →
          env.pack (Utf8.encode content.toList) = Utf8.encode content.toList)) ∧
        (d.masksGzip = false → r.received? unpack = some (Utf8.encode content.toList))) ∧
      (d.body.isText = false → r.headers.values Header.contentEncoding = []) := by
  obtain ⟨r, own, hdraft, hrequest, hown⟩ := exists_of_prepare h
  refine ⟨r, hdraft, hrequest, fun content hbody => ?_, fun htext => ?_⟩
  · have htext : d.body.isText = true := by rw [hbody]; rfl
    have hstates := hown.statesEncoding_iff hbody
    refine ⟨?_, hown.payload_of_text hbody, hstates, fun hmasks => ?_⟩
    · rw [hown.values_encoding, htext]
      rfl
    · exact (hstates.2 fun htrue => by simp [hmasks] at htrue).received?_eq hunpack
  · rw [hown.values_encoding, htext]
    rfl

def sampleText (encodings : List String) : Descriptor :=
  { id := default, method := "POST", url := "http://a/", body := .text "hi"
    headers := some ([some "content-type", some "text/plain"] ::
      encodings.map fun value => [some "Content-Encoding", some value]) }

def sampleEnvironment : Environment := { resolve := fun _ => none, boundary := "" }

theorem encoding_of_prepare_of_last :
    ∃ r, ((sampleText ["identity", " GZip\t"]).draft sampleEnvironment).outcome = .ok r ∧
      r.headers.values "content-encoding" = ["identity", " GZip\t"] ∧
      r.payload = .bytes (Gzip.pack (Utf8.encode "hi".toList)) ∧
      r.received? Gzip.unpack? = some (Utf8.encode "hi".toList) := by
  have haccepted : Except.isOk
      ((sampleText ["identity", " GZip\t"]).prepare sampleEnvironment).outcome = true := by
    decide +kernel
  obtain ⟨sub, hsub⟩ := Dispatcher.exists_prepared haccepted
  obtain ⟨r, hdraft, -, htext, -⟩ := encoding_of_prepare Gzip.unpack?_pack hsub
  obtain ⟨hvalues, hpayload, -, hreceived⟩ := htext "hi" rfl
  exact ⟨r, hdraft, hvalues, hpayload, hreceived (by decide)⟩

/-- Here gzip is stated and nothing is packed, and a receiver who heeds it gets nothing. -/
theorem masked_gzip_is_stated :
    ∃ r, ((sampleText ["gzip", "identity"]).draft sampleEnvironment).outcome = .ok r ∧
      "gzip" ∈ r.headers.values Header.contentEncoding ∧
      r.payload = .bytes (Utf8.encode "hi".toList) ∧
      ¬ r.StatesEncoding sampleEnvironment.pack (Utf8.encode "hi".toList) ∧
      r.received? Gzip.unpack? = none := by
  have haccepted : Except.isOk
      ((sampleText ["gzip", "identity"]).prepare sampleEnvironment).outcome = true := by
    decide +kernel
  obtain ⟨sub, hsub⟩ := Dispatcher.exists_prepared haccepted
  obtain ⟨r, own, hdraft, -, hown⟩ := exists_of_prepare hsub
  have hvalues : r.headers.values Header.contentEncoding = ["gzip", "identity"] :=
    hown.values_encoding
  have hpayload : r.payload = .bytes (Utf8.encode "hi".toList) := hown.payload_of_text rfl
  have hpacked : Gzip.pack (Utf8.encode "hi".toList) ≠ Utf8.encode "hi".toList := fun h => by
    have hfirst := congrArg List.head? h
    simp [Gzip.pack, Gzip.header] at hfirst
    exact absurd hfirst (by decide)
  refine ⟨r, hdraft, by simp [hvalues], hpayload, fun hstates => ?_, ?_⟩
  · exact hpacked ((hown.statesEncoding_iff rfl).1 hstates (by decide))
  · rw [Request.received?, hpayload, hvalues]
    decide

end Descriptor
end Outbound
