import Outbound.Proofs.Multipart.Head

/-! A body of several parts is read back as its parts. What stands in the head of a part is said of
the part as the caller wrote it: its own fields but type, length and encoding, the user agent if it
names none, and then its type and its length. The boundary stands in no field and no content, so
every content ends where it was made to. -/

namespace Outbound

/-- A file that delivers all of its content, as much as was told. -/
def ResolvedFile.Delivers (fs : FileSystem) (file : ResolvedFile) (content : Bytes) : Prop :=
  ∃ ds, file.source.drain fs = .ok ds ∧ (∀ d ∈ ds, ∃ bytes, d = .data bytes) ∧
    Delivery.content ds = content ∧ ∀ n, file.length = some n → n = content.length

namespace Part

def Carries (resolve : FileResolver) (fs : FileSystem) (p : Part) (content : Bytes) : Prop :=
  match p.content with
  | none => False
  | some (.text text) => content = Utf8.encode text.toList
  | some (.file uri) => ∀ file, resolve uri = some file → file.Delivers fs content

def lengthKnown (resolve : FileResolver) (p : Part) : Bool :=
  match p.content with
  | none => false
  | some (.text _) => true
  | some (.file uri) => (resolve uri).any (·.length.isSome)

/-- The lines of a head: own fields, user agent, type and length. -/
def lines (resolve : FileResolver) (agent : Option String) (p : Part) (content : Bytes) :
    List Bytes :=
  (p.kept ++ FieldList.added agent p.given).map
      (fun f => Multipart.fieldLine f.name f.value) ++
    p.type?.toList.map (Multipart.fieldLine "Content-Type") ++
    if p.lengthKnown resolve then [Multipart.lengthLine content.length] else []

def toSection (resolve : FileResolver) (agent : Option String) (p : Part) (content : Bytes) :
    Multipart.Section :=
  ⟨p.lines resolve agent content, content⟩

/-- A boundary that stands in nothing that the caller gave. -/
structure Free (boundary : Bytes) (p : Part) (content : Bytes) : Prop where
  name : ∀ f ∈ p.given, ¬ boundary <:+: Utf8.encode f.name.toList
  value : ∀ f ∈ p.given, ¬ boundary <:+: Utf8.encode f.value.toList
  content : ¬ boundary <:+: content

end Part

namespace Multipart

def IsBoundary (boundary : String) : Prop :=
  boundary.toList.length = 32 ∧ ∀ c ∈ boundary.toList, c.isAlphanum = true

variable {resolve : FileResolver} {agent : Option String} {fs : FileSystem} {boundary : String}
  {p : Part} {content : Bytes} {fields : List Field}

structure Segment.Holds (resolve : FileResolver) (agent : Option String) (fs : FileSystem)
    (p : Part) (content : Bytes) (s : Segment) : Prop where
  lines : s.lines = p.lines resolve agent content
  drains : ∃ ds, s.content.drain fs = .ok ds ∧ (∀ d ∈ ds, ∃ bytes, d = .data bytes) ∧
    Delivery.content ds = content

theorem exists_segment (hfault : p.fault? resolve = none) (hcarries : p.Carries resolve fs content)
    (agent : Option String) :
    ∃ s, (segment resolve agent p).outcome = .ok s ∧ s.Holds resolve agent fs p content := by
  obtain ⟨hform, ⟨text, hcontent⟩ | ⟨uri, file, hcontent, htyped, hfile⟩⟩ :=
    Part.fault?_eq_none_iff.1 hfault
  · have hbytes : content = Utf8.encode text.toList := by
      simpa [Part.Carries, hcontent] using hcarries
    subst hbytes
    refine ⟨_, segment_of_text hform hcontent, ?_, [.data _], rfl, ?_, ?_⟩
    · simp [Segment.lines, Part.lines, Part.lengthKnown, hcontent]
    · simp
    · simp [Delivery.content, Delivery.bytes]
  · have hdelivers : file.Delivers fs content := by
      rw [Part.Carries, hcontent] at hcarries
      exact hcarries file hfile
    obtain ⟨ds, hdrain, hdata, hbytes, hlength⟩ := hdelivers
    refine ⟨_, segment_of_file hform hcontent htyped hfile, ?_, ds, hdrain, hdata, hbytes⟩
    cases hknown : file.length with
    | none => simp [Segment.lines, Part.lines, Part.lengthKnown, hcontent, hfile, hknown]
    | some n =>
      simp [Segment.lines, Part.lines, Part.lengthKnown, hcontent, hfile, hknown,
        hlength n hknown]

theorem not_infix_of_free {mark bs : Bytes} (h : ¬ mark <:+: bs) : ¬ dashes ++ mark <:+: bs := by
  intro hin
  exact h ((List.suffix_append dashes mark).isInfix.trans hin)

theorem length_free (mark : Bytes) (n : Nat) :
    ¬ dashes ++ mark <:+: Utf8.encode (Ascii.decimal n) := by
  have hdash : (45 : UInt8) ∉ Utf8.encode (Ascii.decimal n) :=
    Utf8.not_mem_encode (c := '-') (by decide) rfl (not_mem_decimal rfl n)
  intro hin
  exact hdash (hin.subset (by simp [dashes]))

section Boundary

variable (hboundary : IsBoundary boundary)

include hboundary

theorem IsBoundary.not_mem {c : Char} (hc : c.isAlphanum = false) (hascii : c.toNat ≤ 0x7f)
    {b : UInt8} (hb : b.toNat = c.toNat) : b ∉ Utf8.encode boundary.toList := by
  apply Utf8.not_mem_encode hascii hb
  intro hmem
  rw [hboundary.2 c hmem] at hc
  cases hc

theorem IsBoundary.not_infix_of_short {bs : Bytes} (h : bs.length < 32) :
    ¬ Utf8.encode boundary.toList <:+: bs := by
  intro hin
  have hle := hin.length_le
  have hlong := Utf8.length_le_length_encode boundary.toList
  rw [hboundary.1] at hlong
  omega

theorem IsBoundary.lineFits {name value : String} (hname : '\r' ∉ name.toList)
    (hvalue : '\r' ∉ value.toList)
    (hname' : ¬ Utf8.encode boundary.toList <:+: Utf8.encode name.toList)
    (hvalue' : ¬ dashes ++ Utf8.encode boundary.toList <:+: Utf8.encode value.toList) :
    LineFits (Utf8.encode boundary.toList) (fieldLine name value) where
  ne_nil := fieldLine_ne_nil name value
  unbroken := fieldLine_unbroken hname hvalue
  free := by
    have hcolon : 58 ∉ dashes ++ Utf8.encode boundary.toList := by
      simpa [dashes] using hboundary.not_mem (c := ':') rfl (by decide) (b := 58) rfl
    have hblank : 32 ∉ dashes ++ Utf8.encode boundary.toList := by
      simpa [dashes] using hboundary.not_mem (c := ' ') rfl (by decide) (b := 32) rfl
    intro hin
    rcases infix_append_cons hcolon hin with hin | hin
    · exact not_infix_of_free hname' hin
    · exact hvalue' (infix_of_infix_cons hblank hin)

theorem IsBoundary.lineFits_given {f : Field} (hform : RawField.wellFormed p.headers = true)
    (hfree : p.Free (Utf8.encode boundary.toList) content) (hf : f ∈ p.given) :
    LineFits (Utf8.encode boundary.toList) (fieldLine f.name f.value) := by
  obtain ⟨hname, hvalue⟩ := unbroken_of_valid (valid_of_mem_given hform hf)
  exact hboundary.lineFits hname hvalue (hfree.name f hf) (not_infix_of_free (hfree.value f hf))

theorem IsBoundary.lineFits_added {f : Field}
    (hagent : ∀ value ∈ agent, Header.validValue value = true ∧
      ¬ Utf8.encode boundary.toList <:+: Utf8.encode value.toList)
    (hf : f ∈ FieldList.added agent fields) :
    LineFits (Utf8.encode boundary.toList) (fieldLine f.name f.value) := by
  have hname : '\r' ∉ Header.userAgent.toList := by decide
  have hshort : (Utf8.encode Header.userAgent.toList).length < 32 := by decide
  obtain ⟨value, rfl, rfl⟩ := FieldList.mem_added hf
  obtain ⟨hvalid, hfree⟩ := hagent value rfl
  exact hboundary.lineFits hname (not_mem_of_all hvalid (by decide))
    (hboundary.not_infix_of_short hshort) (not_infix_of_free hfree)

theorem IsBoundary.lineFits_type {value : String} (hform : RawField.wellFormed p.headers = true)
    (hfree : p.Free (Utf8.encode boundary.toList) content) (hvalue : p.type? = some value) :
    LineFits (Utf8.encode boundary.toList) (fieldLine "Content-Type" value) := by
  obtain ⟨f, hlast, rfl⟩ := Option.map_eq_some_iff.1 hvalue
  have hf : f ∈ p.given := List.mem_of_mem_filter (List.mem_of_getLast? hlast)
  exact hboundary.lineFits (by decide) (unbroken_of_valid (valid_of_mem_given hform hf)).2
    (hboundary.not_infix_of_short (by decide)) (not_infix_of_free (hfree.value f hf))

theorem IsBoundary.lineFits_length (n : Nat) :
    LineFits (Utf8.encode boundary.toList) (lengthLine n) := by
  apply hboundary.lineFits (by decide)
  · rw [String.toList_ofList]
    exact not_mem_decimal rfl n
  · exact hboundary.not_infix_of_short (by decide)
  · rw [String.toList_ofList]
    exact length_free _ n

theorem IsBoundary.toSection_fits (hform : RawField.wellFormed p.headers = true)
    (hfree : p.Free (Utf8.encode boundary.toList) content)
    (hagent : ∀ value ∈ agent, Header.validValue value = true ∧
      ¬ Utf8.encode boundary.toList <:+: Utf8.encode value.toList) :
    (p.toSection resolve agent content).Fits (Utf8.encode boundary.toList) := by
  refine ⟨?_, not_infix_of_free hfree.content⟩
  intro line hline
  simp only [Part.toSection, Part.lines, List.mem_append, List.mem_map,
    Option.mem_toList] at hline
  rcases hline with (⟨f, hkept | hadded, rfl⟩ | ⟨value, hvalue, rfl⟩) | hline
  · exact hboundary.lineFits_given hform hfree (List.mem_of_mem_filter hkept)
  · exact hboundary.lineFits_added hagent hadded
  · exact hboundary.lineFits_type hform hfree hvalue
  · split at hline
    · rw [List.mem_singleton.1 hline]
      exact hboundary.lineFits_length content.length
    · cases hline

end Boundary

theorem Segment.Holds.drain_eq {s : Segment} (h : s.Holds resolve agent fs p content)
    (boundary : String) :
    ∃ ds, s.drain fs boundary = .ok ds ∧ (∀ d ∈ ds, ∃ bytes, d = .data bytes) ∧
      Delivery.content ds = dashes ++ Utf8.encode boundary.toList ++ crlf ++
        (p.toSection resolve agent content).written ++ crlf := by
  obtain ⟨ds, hdrain, hdata, hbytes⟩ := h.drains
  have hbreak : Utf8.encode lineBreak = crlf := rfl
  refine ⟨.data (s.head boundary) :: ds ++ [.data (Utf8.encode lineBreak)], ?_, ?_, ?_⟩
  · rw [drain, hdrain]
    rfl
  · intro d hd
    simp only [List.cons_append, List.mem_cons, List.mem_append, List.not_mem_nil,
      or_false] at hd
    rcases hd with rfl | hd | rfl
    · exact ⟨_, rfl⟩
    · exact hdata d hd
    · exact ⟨_, rfl⟩
  · have hcontent : Delivery.content (.data (s.head boundary) :: ds ++
        [.data (Utf8.encode lineBreak)]) = s.head boundary ++ content ++ crlf := by
      rw [← hbytes, ← hbreak]
      simp [Delivery.content, Delivery.bytes]
    rw [hcontent, s.head_eq, h.lines, Section.written, Part.toSection]
    simp

theorem exists_segments {parts : List Part} {contentOf : Part → Bytes}
    (hfault : ∀ p ∈ parts, p.fault? resolve = none)
    (hcarries : ∀ p ∈ parts, p.Carries resolve fs (contentOf p)) (agent : Option String)
    (boundary : String) :
    ∃ ss pieces, (readParts resolve agent parts).outcome = .ok ss ∧ ss.length = parts.length ∧
      ss.mapM (Segment.drain fs boundary) = .ok pieces ∧
      (∀ d ∈ pieces.flatten, ∃ bytes, d = .data bytes) ∧
      Delivery.content pieces.flatten =
        (parts.map fun p => p.toSection resolve agent (contentOf p)).flatMap fun s =>
          dashes ++ Utf8.encode boundary.toList ++ crlf ++ s.written ++ crlf := by
  induction parts with
  | nil => exact ⟨[], [], rfl, rfl, rfl, by simp, rfl⟩
  | cons p parts ih =>
    rw [List.forall_mem_cons] at hfault hcarries
    obtain ⟨s, hs, hholds⟩ := exists_segment hfault.1 hcarries.1 agent
    obtain ⟨ds, hdrain, hdata, hbytes⟩ := hholds.drain_eq boundary
    obtain ⟨ss, pieces, hss, hlength, hdrains, hall, hrest⟩ := ih hfault.2 hcarries.2
    refine ⟨s :: ss, ds :: pieces, ?_, by simp [hlength], ?_, ?_, ?_⟩
    · rw [readParts, Trial.andThen_eq_ok_iff]
      refine ⟨s, hs, ?_⟩
      rw [Trial.andThen_eq_ok_iff]
      exact ⟨ss, hss, rfl⟩
    · rw [List.mapM_cons, hdrain, hdrains]
      rfl
    · intro d hd
      rw [List.flatten_cons, List.mem_append] at hd
      rcases hd with hd | hd
      · exact hdata d hd
      · exact hall d hd
    · rw [List.flatten_cons, List.map_cons, List.flatMap_cons, ← hbytes, ← hrest]
      simp [Delivery.content]

/-- A body of parts without a fault is delivered without an error, and read by its boundary it is
these parts in order, with nothing in front of them and nothing behind: each with the lines of its
head and its content. -/
theorem read_drain {parts : List Part} {contentOf : Part → Bytes} (hboundary : IsBoundary boundary)
    (hagent : ∀ value ∈ agent, Header.validValue value = true ∧
      ¬ Utf8.encode boundary.toList <:+: Utf8.encode value.toList)
    (hfault : ∀ p ∈ parts, p.fault? resolve = none)
    (hcarries : ∀ p ∈ parts, p.Carries resolve fs (contentOf p))
    (hfree : ∀ p ∈ parts, p.Free (Utf8.encode boundary.toList) (contentOf p))
    (mediaType : String) :
    ∃ m ds, (assemble resolve agent boundary mediaType parts).outcome = .ok m ∧
      m.segments.length = parts.length ∧ m.drain fs = .ok ds ∧
      (∀ d ∈ ds, ∃ bytes, d = .data bytes) ∧
      read (Utf8.encode m.boundary.toList) (Delivery.content ds) =
        some ⟨none, parts.map fun p => p.toSection resolve agent (contentOf p), some []⟩ := by
  obtain ⟨ss, pieces, hss, hlength, hdrains, hall, hbytes⟩ :=
    exists_segments hfault hcarries agent boundary
  refine ⟨⟨boundary, mediaType, ss⟩, pieces.flatten ++ [.data (closing boundary)], ?_, hlength, ?_,
    ?_, ?_⟩
  · rw [assemble, Trial.andThen_eq_ok_iff]
    exact ⟨ss, hss, rfl⟩
  · rw [drain, hdrains]
    rfl
  · intro d hd
    rcases List.mem_append.1 hd with hd | hd
    · exact hall d hd
    · exact ⟨_, List.mem_singleton.1 hd⟩
  · have hclosing : closing boundary = dashes ++ Utf8.encode boundary.toList ++ dashes ++ crlf := by
      have hend : Utf8.encode ('-' :: '-' :: lineBreak) = dashes ++ crlf := rfl
      have hdash : Utf8.encode ('-' :: '-' :: boundary.toList) =
          dashes ++ Utf8.encode boundary.toList := rfl
      rw [closing, Utf8.encode_append, hdash, hend, List.append_assoc _ dashes crlf]
    have hframe : Delivery.content (pieces.flatten ++ [.data (closing boundary)]) =
        frame (Utf8.encode boundary.toList)
          (parts.map fun p => p.toSection resolve agent (contentOf p)) := by
      rw [frame, ← hbytes, ← hclosing]
      simp [Delivery.content, Delivery.bytes]
    have hcr : 13 ∉ Utf8.encode boundary.toList :=
      hboundary.not_mem (c := '\r') rfl (by decide) rfl
    have hlf : 10 ∉ Utf8.encode boundary.toList :=
      hboundary.not_mem (c := '\n') rfl (by decide) rfl
    rw [hframe]
    apply read_frame hcr hlf
    intro s hs
    obtain ⟨p, hp, rfl⟩ := List.mem_map.1 hs
    obtain ⟨hform, -⟩ := Part.fault?_eq_none_iff.1 (hfault p hp)
    exact hboundary.toSection_fits hform (hfree p hp) hagent

def sampleFiles : FileResolver := fun uri =>
  if uri = "mem://a" then some (.ofBytes [80, 78, 71]) else none

def sampleParts : List Part :=
  [⟨some [[some "X-A", some "1"], [some "CONTENT-LENGTH", some "9"]], some (.text "b\r\n--")⟩,
    ⟨some [[some "User-Agent", some "own"], [some "content-type", some "image/png"]],
      some (.file "mem://a")⟩]

def sampleContent (p : Part) : Bytes :=
  if p.content = some (.file "mem://a") then [80, 78, 71] else Utf8.encode "b\r\n--".toList

theorem read_drain_of_text_and_file :
    ∃ m ds, (assemble sampleFiles (some "ua/1") "0123456789abcdefABCDEF0123456789" defaultType
        sampleParts).outcome = .ok m ∧
      m.drain {} = .ok ds ∧
      read (Utf8.encode m.boundary.toList) (Delivery.content ds) = some ⟨none,
        [⟨[Utf8.encode "X-A: 1".toList, Utf8.encode "user-agent: ua/1".toList,
            Utf8.encode "Content-Length: 5".toList], Utf8.encode "b\r\n--".toList⟩,
          ⟨[Utf8.encode "User-Agent: own".toList, Utf8.encode "Content-Type: image/png".toList,
            Utf8.encode "Content-Length: 3".toList], [80, 78, 71]⟩], some []⟩ := by
  have hboundary : IsBoundary "0123456789abcdefABCDEF0123456789" :=
    ⟨by decide, List.all_eq_true.1 (by decide)⟩
  have hagent : ∀ value ∈ some "ua/1", Header.validValue value = true ∧
      ¬ Utf8.encode "0123456789abcdefABCDEF0123456789".toList <:+: Utf8.encode value.toList := by
    decide
  have hfault : ∀ p ∈ sampleParts, p.fault? sampleFiles = none := by decide
  have hcarries : ∀ p ∈ sampleParts, p.Carries sampleFiles {} (sampleContent p) := by
    unfold sampleParts
    rw [List.forall_mem_cons, List.forall_mem_singleton]
    constructor
    · rfl
    · intro file hfile
      cases hfile
      refine ⟨[.data [80, 78, 71]], rfl, by simp, rfl, ?_⟩
      intro n hn
      cases hn
      rfl
  have hfree : ∀ p ∈ sampleParts,
      p.Free (Utf8.encode "0123456789abcdefABCDEF0123456789".toList) (sampleContent p) := by
    unfold sampleParts
    rw [List.forall_mem_cons, List.forall_mem_singleton]
    exact ⟨⟨by decide, by decide, by decide⟩, ⟨by decide, by decide, by decide⟩⟩
  obtain ⟨m, ds, hm, -, hdrain, -, hread⟩ :=
    read_drain hboundary hagent hfault hcarries hfree defaultType
  refine ⟨m, ds, hm, hdrain, ?_⟩
  rw [hread]
  decide

end Multipart
end Outbound
