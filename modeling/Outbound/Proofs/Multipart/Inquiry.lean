import Outbound.Proofs.Multipart.Head

/-! The files that are asked for while parts are assembled. A resolver may answer the same question
in another way the next time, so what it answers is said together with all that it was asked before.
Each part is judged alone, at its turn. The first part with a fault decides, and nothing is asked
for the parts behind it. -/

namespace Outbound

namespace Part

variable {resolve : FileResolver} {p : Part}

def uri? (p : Part) : Option String :=
  match p.content with
  | some (.file uri) => some uri
  | _ => none

/-- What is asked for a part at its turn: its file, unless its headers or its type fail before. -/
def asks (p : Part) : List String :=
  if RawField.wellFormed p.headers && p.given.any (Field.named Header.contentType) then
    p.uri?.toList
  else []

theorem asks_of_faultless (h : p.fault? resolve = none) : p.asks = p.uri?.toList := by
  obtain ⟨hform, ⟨text, hcontent⟩ | ⟨uri, file, hcontent, htyped, -⟩⟩ := fault?_eq_none_iff.1 h
  · simp [asks, uri?, hcontent]
  · have hgiven : p.given.any (Field.named Header.contentType) = true := htyped
    simp [asks, hform, hgiven]

/-- A part and what it is assembled to: its own fields with the user agent, its type, and the bytes
of its text or what its file delivers. -/
structure Becomes (resolve : FileResolver) (agent : Option String) (p : Part)
    (s : Multipart.Segment) : Prop where
  fields : s.fields.fields = p.kept ++ FieldList.added agent p.given
  type : s.contentType = p.type?
  content : match p.content with
    | none => False
    | some (.text text) => s.content = .bytes (Utf8.encode text.toList) ∧
        s.length = some (Utf8.encode text.toList).length
    | some (.file uri) => ∃ file, resolve uri = some file ∧ s.content = .stream file.source ∧
        s.length = file.length

end Part

namespace Multipart

variable {answers : List String → FileResolver} {resolve : FileResolver} {agent : Option String}
  {asked : List String} {p : Part} {ps before after : List Part} {s : Segment} {ss : List Segment}
  {f : Failure}

/-- Reads parts with a resolver that has been asked some questions before. -/
def readInTurn (answers : List String → FileResolver) (agent : Option String)
    (asked : List String) : List Part → Trial (List Segment)
  | [] => .succeed []
  | p :: ps =>
    (segment (answers asked) agent p).andThen fun s =>
      (readInTurn answers agent (asked ++ (segment (answers asked) agent p).asked) ps).andThen
        fun ss => .succeed (s :: ss)

def assembleInTurn (answers : List String → FileResolver) (agent : Option String)
    (boundary mediaType : String) (parts : List Part) : Trial Multipart :=
  (readInTurn answers agent [] parts).andThen fun ss => .succeed ⟨boundary, mediaType, ss⟩

def Faultless (answers : List String → FileResolver) (asked : List String) (ps : List Part) :
    Prop :=
  ∀ before p after, ps = before ++ p :: after →
    p.fault? (answers (asked ++ before.flatMap Part.asks)) = none

def FirstFault (answers : List String → FileResolver) (asked : List String)
    (before : List Part) (p : Part) (f : Failure) : Prop :=
  Faultless answers asked before ∧ p.fault? (answers (asked ++ before.flatMap Part.asks)) = some f

theorem asked_segment (resolve : FileResolver) (agent : Option String) (p : Part) :
    (segment resolve agent p).asked = p.asks := by
  cases hform : RawField.wellFormed p.headers with
  | false =>
    have hnone : FieldList.build? p.headers agent false = none :=
      FieldList.build?_of_not_wellFormed hform
    simp [segment, segmentFields, hnone, Part.asks, hform, Trial.fail]
  | true =>
    have htype : p.type?.isSome = p.given.any (Field.named Header.contentType) := by
      rw [Part.type?, ← FieldList.get?_eq_getLast? ⟨p.given⟩, FieldList.isSome_get?]
    rw [segment, segmentFields_eq hform, Part.asks, hform, ← htype]
    cases hcontent : p.content with
    | none => simp [Part.uri?, hcontent, Trial.fail]
    | some content =>
      cases content with
      | text text => simp [Part.uri?, hcontent, Trial.succeed]
      | file uri =>
        cases hgiven : p.type? with
        | none => simp [Trial.fail]
        | some type =>
          cases hfile : resolve uri <;>
            simp [Part.uri?, hcontent, Trial.andThen, Trial.ask, Trial.succeed, hfile]

theorem becomes_of_segment (h : (segment resolve agent p).outcome = .ok s) :
    p.Becomes resolve agent s := by
  have hfault : p.fault? resolve = none := by
    rw [← segment_fault? resolve agent p, Trial.fault?_eq_none_iff]
    exact ⟨s, h⟩
  obtain ⟨hform, ⟨text, hcontent⟩ | ⟨uri, file, hcontent, htyped, hfile⟩⟩ :=
    Part.fault?_eq_none_iff.1 hfault
  · rw [segment_of_text hform hcontent] at h
    cases h
    exact ⟨rfl, rfl, by simp [hcontent]⟩
  · rw [segment_of_file hform hcontent htyped hfile] at h
    cases h
    exact ⟨rfl, rfl, by simp [hcontent, hfile]⟩

theorem exists_segment_of_faultless (h : p.fault? resolve = none) (agent : Option String) :
    ∃ s, (segment resolve agent p).outcome = .ok s ∧ p.Becomes resolve agent s := by
  rw [← segment_fault? resolve agent p, Trial.fault?_eq_none_iff] at h
  obtain ⟨s, hs⟩ := h
  exact ⟨s, hs, becomes_of_segment hs⟩

theorem readInTurn_const (resolve : FileResolver) (agent : Option String) (asked : List String)
    (ps : List Part) :
    readInTurn (fun _ => resolve) agent asked ps = readParts resolve agent ps := by
  induction ps generalizing asked with
  | nil => rfl
  | cons p ps ih => simp only [readInTurn, readParts, ih]

theorem faultless_nil : Faultless answers asked [] := by
  intro before p after h
  simp at h

theorem faultless_cons : Faultless answers asked (p :: ps) ↔
    p.fault? (answers asked) = none ∧ Faultless answers (asked ++ p.asks) ps := by
  constructor
  · intro h
    refine ⟨by simpa using h [] p ps rfl, fun before q after hps => ?_⟩
    subst hps
    simpa using h (p :: before) q after rfl
  · rintro ⟨hp, hps⟩ before q after h
    cases before with
    | nil =>
      obtain ⟨rfl, rfl⟩ := List.cons_eq_cons.1 h
      simpa using hp
    | cons r before =>
      obtain ⟨rfl, rfl⟩ := List.cons_eq_cons.1 h
      simpa using hps before q after rfl

theorem faultless_const_iff :
    Faultless (fun _ => resolve) asked ps ↔ ∀ p ∈ ps, p.fault? resolve = none := by
  constructor
  · intro h p hp
    obtain ⟨before, after, rfl⟩ := List.append_of_mem hp
    exact h before p after rfl
  · rintro h before p after rfl
    exact h p (by simp)

theorem asks_of_faultless (h : Faultless answers asked ps) :
    ps.flatMap Part.asks = ps.filterMap Part.uri? := by
  induction ps generalizing asked with
  | nil => rfl
  | cons p ps ih =>
    obtain ⟨hp, hps⟩ := faultless_cons.1 h
    rw [List.flatMap_cons, ih hps, Part.asks_of_faultless hp]
    cases huri : p.uri? <;> simp [huri]

theorem readInTurn_of_faultless (h : Faultless answers asked ps) (agent : Option String) :
    ∃ ss, (readInTurn answers agent asked ps).outcome = .ok ss ∧
      (readInTurn answers agent asked ps).asked = ps.flatMap Part.asks ∧
      ss.length = ps.length ∧
      ∀ before p after, ps = before ++ p :: after → ∃ s, ss[before.length]? = some s ∧
        p.Becomes (answers (asked ++ before.flatMap Part.asks)) agent s := by
  induction ps generalizing asked with
  | nil => exact ⟨[], rfl, rfl, rfl, by simp⟩
  | cons p ps ih =>
    obtain ⟨hp, hps⟩ := faultless_cons.1 h
    obtain ⟨s, hs, hbecomes⟩ := exists_segment_of_faultless hp agent
    obtain ⟨ss, hss, hasked, hlength, hall⟩ := ih hps
    refine ⟨s :: ss, ?_, ?_, by simp [hlength], ?_⟩
    · simp [readInTurn, Trial.andThen, hs, asked_segment, hss, Trial.succeed]
    · simp [readInTurn, Trial.andThen, hs, asked_segment, hss, hasked, Trial.succeed]
    · intro before q after hcons
      cases before with
      | nil =>
        obtain ⟨rfl, rfl⟩ := List.cons_eq_cons.1 hcons
        exact ⟨s, rfl, by simpa using hbecomes⟩
      | cons r before =>
        obtain ⟨rfl, rfl⟩ := List.cons_eq_cons.1 hcons
        simpa using hall before q after rfl

theorem readInTurn_of_firstFault (h : FirstFault answers asked before p f) (agent : Option String)
    (after : List Part) :
    (readInTurn answers agent asked (before ++ p :: after)).outcome = .error f ∧
      (readInTurn answers agent asked (before ++ p :: after)).asked =
        before.flatMap Part.asks ++ p.asks := by
  obtain ⟨hbefore, hp⟩ := h
  induction before generalizing asked with
  | nil =>
    have hfault : p.fault? (answers asked) = some f := by simpa using hp
    rw [← segment_fault? _ agent, Trial.fault?_eq_some_iff] at hfault
    simp [readInTurn, Trial.andThen, hfault, asked_segment]
  | cons q before ih =>
    obtain ⟨hq, hrest⟩ := faultless_cons.1 hbefore
    obtain ⟨s, hs, -⟩ := exists_segment_of_faultless hq agent
    obtain ⟨houtcome, hasked⟩ := ih hrest (by simpa using hp)
    simp [readInTurn, Trial.andThen, hs, asked_segment, houtcome, hasked]

theorem exists_firstFault (h : ¬ Faultless answers asked ps) :
    ∃ before p after f, ps = before ++ p :: after ∧ FirstFault answers asked before p f := by
  induction ps generalizing asked with
  | nil => exact absurd faultless_nil h
  | cons p ps ih =>
    cases hp : p.fault? (answers asked) with
    | some f => exact ⟨[], p, ps, f, rfl, faultless_nil, by simpa using hp⟩
    | none =>
      have hps : ¬ Faultless answers (asked ++ p.asks) ps := fun hps =>
        h (faultless_cons.2 ⟨hp, hps⟩)
      obtain ⟨before, q, after, f, rfl, hbefore, hq⟩ := ih hps
      exact ⟨p :: before, q, after, f, rfl, faultless_cons.2 ⟨hp, hbefore⟩, by simpa using hq⟩

variable {boundary mediaType : String}

theorem assembleInTurn_of_faultless (h : Faultless answers [] ps) :
    ∃ ss, (assembleInTurn answers agent boundary mediaType ps).outcome =
        .ok ⟨boundary, mediaType, ss⟩ ∧
      (assembleInTurn answers agent boundary mediaType ps).asked = ps.filterMap Part.uri? ∧
      ss.length = ps.length ∧
      ∀ before p after, ps = before ++ p :: after → ∃ s, ss[before.length]? = some s ∧
        p.Becomes (answers (before.flatMap Part.asks)) agent s := by
  obtain ⟨ss, hss, hasked, hlength, hall⟩ := readInTurn_of_faultless h agent
  rw [asks_of_faultless h] at hasked
  refine ⟨ss, ?_, ?_, hlength, hall⟩
  · simp [assembleInTurn, Trial.andThen, hss, Trial.succeed]
  · simp [assembleInTurn, Trial.andThen, hss, hasked, Trial.succeed]

theorem assembleInTurn_of_firstFault (h : FirstFault answers [] before p f) (after : List Part) :
    (assembleInTurn answers agent boundary mediaType (before ++ p :: after)).outcome = .error f ∧
      (assembleInTurn answers agent boundary mediaType (before ++ p :: after)).asked =
        before.filterMap Part.uri? ++ p.asks := by
  obtain ⟨houtcome, hasked⟩ := readInTurn_of_firstFault h agent after
  rw [asks_of_faultless h.1] at hasked
  simp [assembleInTurn, Trial.andThen, houtcome, hasked]

theorem assembleInTurn_eq_ok_iff :
    (∃ m, (assembleInTurn answers agent boundary mediaType ps).outcome = .ok m) ↔
      Faultless answers [] ps := by
  constructor
  · rintro ⟨m, hm⟩
    by_contra hfault
    obtain ⟨before, p, after, f, rfl, hfirst⟩ := exists_firstFault hfault
    rw [(assembleInTurn_of_firstFault hfirst after).1] at hm
    cases hm
  · intro h
    obtain ⟨ss, hss, -⟩ := assembleInTurn_of_faultless h
    exact ⟨_, hss⟩

theorem assembleInTurn_eq_error_iff :
    (assembleInTurn answers agent boundary mediaType ps).outcome = .error f ↔
      ∃ before p after, ps = before ++ p :: after ∧ FirstFault answers [] before p f := by
  constructor
  · intro hf
    have hfault : ¬ Faultless answers [] ps := fun h => by
      obtain ⟨ss, hss, -⟩ := assembleInTurn_of_faultless h
      rw [hf] at hss
      cases hss
    obtain ⟨before, p, after, g, rfl, hfirst⟩ := exists_firstFault hfault
    rw [(assembleInTurn_of_firstFault hfirst after).1] at hf
    cases hf
    exact ⟨before, p, after, rfl, hfirst⟩
  · rintro ⟨before, p, after, rfl, hfirst⟩
    exact (assembleInTurn_of_firstFault hfirst after).1

/-- Parts are assembled exactly if each is without a fault when its turn comes. Then each has become
a segment, in order, and each file has been asked for once. Otherwise the fault of the first part
that has one is the outcome: the files in front of it have been asked for, its own only if headers
and type are in order, and none behind it. A resolver that always answers alike judges each part
without regard to the others. -/
theorem first_fault_decides (answers : List String → FileResolver) (agent : Option String)
    (boundary mediaType : String) (parts : List Part) :
    let t := assembleInTurn answers agent boundary mediaType parts
    ((∃ m, t.outcome = .ok m) ↔ Faultless answers [] parts) ∧
    (∀ m, t.outcome = .ok m → m.boundary = boundary ∧ m.mediaType = mediaType ∧
      m.segments.length = parts.length ∧
      (∀ before p after, parts = before ++ p :: after → ∃ s, m.segments[before.length]? = some s ∧
        p.Becomes (answers (before.flatMap Part.asks)) agent s) ∧
      t.asked = parts.filterMap Part.uri?) ∧
    (∀ f, t.outcome = .error f ↔
      ∃ before p after, parts = before ++ p :: after ∧ FirstFault answers [] before p f) ∧
    (∀ before p after f, parts = before ++ p :: after → FirstFault answers [] before p f →
      t.asked = before.filterMap Part.uri? ++ p.asks) ∧
    ∀ resolve, assembleInTurn (fun _ => resolve) agent boundary mediaType parts =
        assemble resolve agent boundary mediaType parts ∧
      (Faultless (fun _ => resolve) [] parts ↔ ∀ p ∈ parts, p.fault? resolve = none) := by
  intro t
  refine ⟨assembleInTurn_eq_ok_iff, fun m hm => ?_, fun f => assembleInTurn_eq_error_iff, ?_,
    fun resolve => ⟨?_, faultless_const_iff⟩⟩
  · obtain ⟨ss, hss, hasked, hlength, hall⟩ :=
      assembleInTurn_of_faultless (assembleInTurn_eq_ok_iff.1 ⟨m, hm⟩)
    obtain rfl : m = ⟨boundary, mediaType, ss⟩ := Except.ok.inj (hm.symm.trans hss)
    exact ⟨rfl, rfl, hlength, hall, hasked⟩
  · rintro before p after f hparts hfirst
    simp only [t, hparts]
    exact (assembleInTurn_of_firstFault hfirst after).2
  · rw [assembleInTurn, readInTurn_const, assemble]

/-- A resolver that gives a file away once. The second part that wants it gets none, and the part
behind is not looked at, though its headers are missing. -/
theorem first_fault_decides_of_second_question :
    let answers : List String → FileResolver := fun asked uri =>
      if uri ∈ asked then none else some (.ofBytes [80, 78, 71])
    let file : Part := ⟨some [[some "Content-Type", some "image/png"]], some (.file "mem://a")⟩
    let parts : List Part := [⟨some [], some (.text "1")⟩, file, file, ⟨none, none⟩]
    let t := assembleInTurn answers none "b" defaultType parts
    t.outcome = .error (.fileNotFound "mem://a") ∧ t.asked = ["mem://a", "mem://a"] := by
  intro answers file parts t
  obtain ⟨-, -, houtcome, hasked, -⟩ := first_fault_decides answers none "b" defaultType parts
  have hfirst : FirstFault answers [] [⟨some [], some (.text "1")⟩, file] file
      (.fileNotFound "mem://a") := by
    refine ⟨faultless_cons.2 ⟨by decide, faultless_cons.2 ⟨by decide, faultless_nil⟩⟩, by decide⟩
  refine ⟨(houtcome _).2 ⟨_, file, [⟨none, none⟩], rfl, hfirst⟩, ?_⟩
  rw [hasked _ file [⟨none, none⟩] _ rfl hfirst]
  decide

end Multipart
end Outbound
