import Outbound.Proofs.Multipart.Fault
import Outbound.Proofs.Multipart.Reader
import Outbound.Proofs.Text.Sequence

/-! The head of a part: which fields of the part stand in it, and how it is written. Each field is
one line, the type and the length are two more, and a valid field has no line break in it, so that
the lines that are read are these and no others. -/

namespace Outbound

namespace Part

def given (p : Part) : List Field := RawField.pairs p.headers

def type? (p : Part) : Option String :=
  (p.given.filter (Field.named Header.contentType)).getLast?.map (·.value)

def kept (p : Part) : List Field :=
  p.given.filter fun f => !f.named Header.contentType && !f.named Header.contentLength &&
    !f.named Header.contentEncoding

end Part

namespace Multipart

def fieldLine (name value : String) : Bytes :=
  Utf8.encode name.toList ++ 58 :: 32 :: Utf8.encode value.toList

def lengthLine (n : Nat) : Bytes :=
  fieldLine "Content-Length" (String.ofList (Ascii.decimal n))

def Segment.lines (s : Segment) : List Bytes :=
  s.fields.fields.map (fun f => fieldLine f.name f.value) ++
    s.contentType.toList.map (fieldLine "Content-Type") ++ s.length.toList.map lengthLine

variable {resolve : FileResolver} {agent : Option String} {p : Part} {s : Segment}

theorem valid_of_mem_given {f : Field} (hform : RawField.wellFormed p.headers = true)
    (hf : f ∈ p.given) : f.valid = true := by
  obtain ⟨own, hraw, hvalid⟩ := FieldList.wellFormed_iff.1 hform
  rw [Part.given, hraw, FieldList.pairs_map_toRaw] at hf
  exact hvalid f hf

theorem segmentFields_eq (h : RawField.wellFormed p.headers = true) :
    segmentFields agent p = .ok (⟨p.kept ++ FieldList.added agent p.given⟩, p.type?) := by
  obtain ⟨own, hraw, hvalid⟩ := FieldList.wellFormed_iff.1 h
  have hgiven : p.given = own := by rw [Part.given, hraw, FieldList.pairs_map_toRaw]
  have htype : FieldList.contentType? ⟨FieldList.arranged agent false own⟩ = p.type? := by
    rw [FieldList.contentType?_arranged, Part.type?, hgiven]
  have hadded : ((FieldList.added agent own).filter fun f => !f.named Header.contentType).filter
      (fun f => !f.named Header.contentLength) = FieldList.added agent own := by
    rw [FieldList.filter_not_added (by decide), FieldList.filter_not_added (by decide)]
  have hkept : ((own.filter fun f => !f.named Header.contentEncoding).filter
      fun f => !f.named Header.contentType).filter (fun f => !f.named Header.contentLength) =
        p.kept := by
    rw [Part.kept, hgiven, List.filter_filter, List.filter_filter]
    apply List.filter_congr
    intro f _
    simp only [Bool.and_comm]
  rw [segmentFields, hraw, FieldList.build?_toRaw agent false hvalid]
  simp only [htype]
  simp only [FieldList.removeAll, FieldList.arranged, Bool.false_or, List.filter_append, hadded,
    hkept, hgiven]

theorem segment_of_text {text : String} (hform : RawField.wellFormed p.headers = true)
    (hcontent : p.content = some (.text text)) :
    (segment resolve agent p).outcome =
      .ok ⟨⟨p.kept ++ FieldList.added agent p.given⟩, p.type?, .bytes (Utf8.encode text.toList),
        some (Utf8.encode text.toList).length⟩ := by
  rw [segment, segmentFields_eq hform, hcontent]
  rfl

theorem segment_of_file {uri : String} {file : ResolvedFile}
    (hform : RawField.wellFormed p.headers = true) (hcontent : p.content = some (.file uri))
    (htyped : p.given.any (Field.named Header.contentType) = true)
    (hfile : resolve uri = some file) :
    (segment resolve agent p).outcome =
      .ok ⟨⟨p.kept ++ FieldList.added agent p.given⟩, p.type?, .stream file.source,
        file.length⟩ := by
  have htype : p.type?.isNone = false := by
    rw [Part.type?, ← FieldList.get?_eq_getLast? ⟨p.given⟩, ← Option.not_isSome,
      FieldList.isSome_get?, htyped]
    rfl
  simp [segment, segmentFields_eq hform, hcontent, htype, Trial.andThen, Trial.ask, hfile,
    Trial.succeed]

theorem fields_of_segment (h : (segment resolve agent p).outcome = .ok s) :
    RawField.wellFormed p.headers = true ∧
      s.fields.fields = p.kept ++ FieldList.added agent p.given ∧ s.contentType = p.type? := by
  have hfault : p.fault? resolve = none := by
    rw [← segment_fault? resolve agent p, Trial.fault?_eq_none_iff]
    exact ⟨s, h⟩
  obtain ⟨hform, ⟨text, hcontent⟩ | ⟨uri, file, hcontent, htyped, hfile⟩⟩ :=
    Part.fault?_eq_none_iff.1 hfault
  · rw [segment_of_text hform hcontent] at h
    cases h
    exact ⟨hform, rfl, rfl⟩
  · rw [segment_of_file hform hcontent htyped hfile] at h
    cases h
    exact ⟨hform, rfl, rfl⟩

theorem encode_line (name value : String) :
    Utf8.encode (line name value) = fieldLine name value ++ crlf := by
  have hbetween : Utf8.encode (':' :: ' ' :: value.toList) =
      58 :: 32 :: Utf8.encode value.toList := rfl
  rw [line, Utf8.encode_append, Utf8.encode_append, hbetween]
  rfl

theorem encode_lines (fields : List Field) :
    Utf8.encode (fields.flatMap fun f => line f.name f.value) =
      (fields.map fun f => fieldLine f.name f.value).flatMap (· ++ crlf) := by
  induction fields with
  | nil => rfl
  | cons f fields ih =>
    rw [List.flatMap_cons, Utf8.encode_append, encode_line, ih, List.map_cons, List.flatMap_cons]

theorem encode_optional {α : Type} {written : α → List Char} {bytes : α → Bytes}
    (h : ∀ a, Utf8.encode (written a) = bytes a ++ crlf) (o : Option α) :
    Utf8.encode ((o.map written).getD []) = (o.toList.map bytes).flatMap (· ++ crlf) := by
  cases o with
  | none => rfl
  | some a => simp [h]

theorem Segment.head_eq (s : Segment) (boundary : String) :
    s.head boundary = dashes ++ Utf8.encode boundary.toList ++ crlf ++
      (s.lines.flatMap (· ++ crlf) ++ crlf) := by
  have hdash : Utf8.encode ('-' :: '-' :: boundary.toList) =
      dashes ++ Utf8.encode boundary.toList := rfl
  have hbreak : Utf8.encode lineBreak = crlf := rfl
  have hlength : ∀ n, Utf8.encode (line "Content-Length" (String.ofList (Ascii.decimal n))) =
      lengthLine n ++ crlf := fun n => encode_line "Content-Length" _
  rw [head, Utf8.encode_append, Utf8.encode_append, Utf8.encode_append, Utf8.encode_append,
    Utf8.encode_append, encode_lines, encode_optional (encode_line "Content-Type"),
    encode_optional hlength, hdash, hbreak, lines, List.flatMap_append, List.flatMap_append]
  simp

theorem not_mem_of_all {s : String} {ok : Char → Bool} (h : s.toList.all ok = true) {c : Char}
    (hc : ok c = false) : c ∉ s.toList := by
  intro hmem
  rw [List.all_eq_true.1 h c hmem] at hc
  cases hc

theorem unbroken_of_valid {f : Field} (h : f.valid = true) :
    '\r' ∉ f.name.toList ∧ '\r' ∉ f.value.toList := by
  simp only [Field.valid, Header.validName, Token.valid, Bool.and_eq_true] at h
  constructor
  · exact not_mem_of_all h.1.1.2 (by decide)
  · exact not_mem_of_all h.2 (by decide)

theorem fieldLine_unbroken {name value : String} (hname : '\r' ∉ name.toList)
    (hvalue : '\r' ∉ value.toList) : 13 ∉ fieldLine name value := by
  have hname' : (13 : UInt8) ∉ Utf8.encode name.toList := Utf8.not_mem_encode (by decide) rfl hname
  have hvalue' : (13 : UInt8) ∉ Utf8.encode value.toList :=
    Utf8.not_mem_encode (by decide) rfl hvalue
  simp [fieldLine, hname', hvalue']

theorem fieldLine_ne_nil (name value : String) : fieldLine name value ≠ [] := by
  simp [fieldLine]

theorem not_mem_decimal {c : Char} (hc : c.isDigit = false) (n : Nat) : c ∉ Ascii.decimal n := by
  intro hmem
  have hdigit : c.isDigit = true := Nat.isDigit_of_mem_toDigits (by decide) (by decide) hmem
  rw [hdigit] at hc
  cases hc

theorem lengthLine_unbroken (n : Nat) : 13 ∉ lengthLine n := by
  apply fieldLine_unbroken (by decide)
  rw [String.toList_ofList]
  exact not_mem_decimal rfl n

theorem Segment.headLines_eq (hfields : ∀ f ∈ s.fields.fields, f.valid = true)
    (htype : ∀ value ∈ s.contentType, '\r' ∉ value.toList) (content : Bytes) :
    headLines (s.lines.flatMap (· ++ crlf) ++ (crlf ++ content)) = (s.lines, content) := by
  apply headLines_written
  intro line hline
  simp only [lines, List.mem_append, List.mem_map, Option.mem_toList] at hline
  rcases hline with (⟨f, hf, rfl⟩ | ⟨value, hvalue, rfl⟩) | ⟨n, -, rfl⟩
  · obtain ⟨hname, hvalue⟩ := unbroken_of_valid (hfields f hf)
    exact ⟨fieldLine_ne_nil _ _, fieldLine_unbroken hname hvalue⟩
  · exact ⟨fieldLine_ne_nil _ _, fieldLine_unbroken (by decide) (htype value hvalue)⟩
  · exact ⟨fieldLine_ne_nil _ _, lengthLine_unbroken n⟩

end Multipart
end Outbound
