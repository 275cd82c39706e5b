import Outbound.Proofs.Dispatch.Step
import Outbound.Proofs.Multipart.Length
import Outbound.Proofs.Multipart.RoundTrip
import Outbound.Proofs.Request.Draft

/-! The length that a request states. Whatever lengths the caller names, one is stated exactly if
there is a body of known length, and it is the number of bytes that the body yields. -/

namespace Outbound

open Delivery (Yields)

theorem Header.isValueChar_of_isDigit {c : Char} (h : c.isDigit = true) : isValueChar c = true := by
  simp only [Char.isDigit, ge_iff_le, Bool.and_eq_true, decide_eq_true_eq,
    UInt32.le_iff_toNat_le] at h
  have hlow : 48 ≤ c.toNat := h.1
  have hhigh : c.toNat ≤ 57 := h.2
  simp only [isValueChar, Bool.or_eq_true, Bool.and_eq_true, decide_eq_true_eq]
  omega

theorem Header.validValue_decimal (n : Nat) :
    validValue (String.ofList (Ascii.decimal n)) = true := by
  rw [validValue, String.toList_ofList, List.all_eq_true]
  intro c hc
  exact isValueChar_of_isDigit (Nat.isDigit_of_mem_toDigits (by decide) (by decide) hc)

theorem Trial.ask_eq_ok_iff {resolve : FileResolver} {uri : String} {file : ResolvedFile} :
    (ask resolve uri).outcome = .ok file ↔ resolve uri = some file := by
  rw [ask]
  cases resolve uri <;> simp

/-- A body whose length nobody knows: a file of unknown length, or parts with such a file. -/
def Body.Unmeasured (resolve : FileResolver) : Body → Prop
  | .file uri => ∃ file, resolve uri = some file ∧ file.length = none
  | .multipart parts => ∃ p ∈ parts, p.Unmeasured resolve
  | _ => False

namespace Payload

variable {means : Means} {pack : Bytes → Bytes} {fs : FileSystem} {method : String} {body : Body}
  {l : FieldList} {p : Payload}

theorem values_length (p : Payload) (l : FieldList) :
    (((p.describe l).fields.filter (Field.named Header.contentLength)).filter Field.valid).map
        (·.value) = p.statedLength?.toList.map fun n => String.ofList (Ascii.decimal n) := by
  rw [describe_eq]
  cases p.statedLength? with
  | none =>
    simp only [FieldList.filter_removeAll_self]
    rfl
  | some n =>
    have hname : Header.validName Header.contentLength = true := by decide
    simp only [FieldList.filter_set_self]
    simp [Field.valid, hname, Header.validValue_decimal]

/-- What a body resolves to: whether it is there, whether its length is known, and that it yields
the length. -/
structure Measured (fs : FileSystem) (resolve : FileResolver) (method : String) (body : Body)
    (p : Payload) : Prop where
  absent_iff : p.present = false ↔ body = .empty ∧ Method.requiresBody method = false
  unknown_iff : p.length = none ↔ body.Unmeasured resolve
  yields : ∀ n, p.length = some n → Yields (p.drain fs) n

theorem Measured.bytes {resolve : FileResolver} (hbody : ¬ body.Unmeasured resolve)
    (hthere : ¬ (body = .empty ∧ Method.requiresBody method = false)) (data : Bytes) :
    Measured fs resolve method body (.bytes data) where
  absent_iff := by simp [present, hthere]
  unknown_iff := by simp [length, hbody]
  yields n hn := by
    cases hn
    exact .data data

theorem measured_of_resolve (hfiles : ∀ uri file, means.resolve uri = some file → file.Keeps fs)
    (h : (resolve means method body l pack).outcome = .ok p) :
    p.Measured fs means.resolve method body := by
  cases body with
  | empty =>
    cases hmethod : Method.requiresBody method with
    | true =>
      simp only [resolve, hmethod] at h
      cases h
      exact .bytes (by simp [Body.Unmeasured]) (by simp [hmethod]) []
    | false =>
      simp only [resolve, hmethod] at h
      cases h
      refine ⟨by simp [present, hmethod], by simp [length, Body.Unmeasured], fun n hn => ?_⟩
      cases hn
      exact ⟨[], rfl, by simp, rfl⟩
  | text content =>
    rw [resolve] at h
    split at h
    · cases h
    · cases h
      exact .bytes (by simp [Body.Unmeasured]) (by simp) _
  | file uri =>
    rw [resolve] at h
    split at h
    · cases h
    · obtain ⟨file, hask, hp⟩ := Trial.andThen_eq_ok_iff.1 h
      have hfile : means.resolve uri = some file := Trial.ask_eq_ok_iff.1 hask
      cases hp
      exact ⟨by simp [present], by simp [length, Body.Unmeasured, hfile], hfiles uri file hfile⟩
  | multipart parts =>
    obtain ⟨m, hm, hp⟩ := Trial.andThen_eq_ok_iff.1 h
    obtain ⟨hyields, hunknown⟩ :=
      Multipart.assemble_yields (fun _ _ uri file _ => hfiles uri file) hm
    cases hp
    exact ⟨by simp [present], hunknown, hyields⟩

end Payload

namespace Descriptor

variable {env : Environment} {d : Descriptor} {own : List Field} {r : Request} {sub : Submission}
  {fs : FileSystem}

theorem Drafted.values_length (h : d.Drafted env own r) :
    r.headers.values Header.contentLength =
      r.payload.statedLength?.toList.map fun n => String.ofList (Ascii.decimal n) := by
  have hvalues := h.values Header.contentLength (by decide)
  have hlower : Ascii.lower Header.contentLength = Header.contentLength := by decide
  rwa [hlower, Payload.values_length] at hvalues

/-- Whatever lengths the caller names, a request with a body of known length states that length and
no other, and its body yields so many bytes. A request without a body states none, nor does one
whose body has a file of unknown length in it. -/
theorem length_of_prepare (hfiles : ∀ uri file, env.resolve uri = some file → file.Keeps fs)
    (h : (d.prepare env).outcome = .ok sub) :
    ∃ r, (d.draft env).outcome = .ok r ∧ sub.request = env.client.intercept r ∧
      (∀ n, r.payload.present = true → r.payload.length = some n →
        r.headers.values Header.contentLength = [String.ofList (Ascii.decimal n)] ∧
        Yields (r.payload.drain fs) n) ∧
      (r.payload.present = false ∨ r.payload.length = none →
        r.headers.values Header.contentLength = []) ∧
      (r.payload.present = false ↔ d.body = .empty ∧ Method.requiresBody d.method = false) ∧
      (r.payload.length = none ↔ d.body.Unmeasured env.resolve) := by
  obtain ⟨r, own, hdraft, hrequest, hown⟩ := exists_of_prepare h
  have hmeasured : r.payload.Measured fs env.resolve d.method d.body :=
    Payload.measured_of_resolve hfiles hown.payload
  refine ⟨r, hdraft, hrequest, fun n hpresent hn => ⟨?_, hmeasured.yields n hn⟩, fun hnone => ?_,
    hmeasured.absent_iff, hmeasured.unknown_iff⟩
  · rw [hown.values_length, Payload.statedLength?, hpresent, hn]
    rfl
  · rw [hown.values_length, Payload.statedLength?]
    rcases hnone with hnone | hnone <;> simp [hnone]

theorem length_of_prepare_of_parts :
    let d : Descriptor := {
      id := ⟨1, by decide⟩
      method := "PUT"
      url := "http://u:p@a/"
      headers := some [[some "content-length", some "7"], [some "Content-Length", some "x"]]
      body := .multipart Multipart.sampleParts }
    let env : Environment := {
      resolve := Multipart.sampleFiles
      boundary := "0123456789abcdefABCDEF0123456789" }
    ∃ r, (d.draft env).outcome = .ok r ∧ r.headers.values "content-length" = ["247"] ∧
      Yields (r.payload.drain {}) 247 := by
  intro d env
  have hfiles : ∀ uri file, env.resolve uri = some file → file.Keeps {} := by
    intro uri file hfile
    simp only [env, Multipart.sampleFiles] at hfile
    split at hfile
    · cases hfile
      intro n hn
      cases hn
      exact .data _
    · cases hfile
  have haccepted : Except.isOk (d.prepare env).outcome = true := by decide +kernel
  obtain ⟨sub, hsub⟩ := Dispatcher.exists_prepared haccepted
  obtain ⟨r, hdraft, -, hlength, -⟩ := length_of_prepare hfiles hsub
  have hbody : (d.draft env).outcome.toOption.map
      (fun r => (r.payload.present, r.payload.length)) = some (true, some 247) := by
    decide +kernel
  rw [hdraft] at hbody
  obtain ⟨hpresent, hn⟩ := Prod.mk.inj (Option.some.inj hbody)
  exact ⟨r, hdraft, hlength 247 hpresent hn⟩

end Descriptor
end Outbound
