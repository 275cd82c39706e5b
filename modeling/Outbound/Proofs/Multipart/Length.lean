import Mathlib.Data.List.Forall2
import Outbound.Proofs.Multipart.Head

/-! The length of a body of parts, which is reckoned apart from its bytes. Where the length of every
part is known, the body yields as many bytes as are told; it is unknown exactly if a part is a file
of unknown length. -/

namespace Outbound

theorem Utf8.length_encode_toList (s : String) : (encode s.toList).length = s.utf8ByteSize := by
  rw [← String.size_toByteArray, ← String.utf8Encode_toList, List.utf8Encode,
    List.size_toByteArray]
  rfl

namespace Delivery

/-- What is drained are chunks without an error, of so many bytes together. -/
def Yields (drained : Except RoomError (List Delivery)) (n : Nat) : Prop :=
  ∃ ds, drained = .ok ds ∧ (∀ e ∈ ds, ∃ bytes, e = .data bytes) ∧ (content ds).length = n

theorem Yields.data (bytes : Bytes) : Yields (.ok [.data bytes]) bytes.length :=
  ⟨_, rfl, by simp, by simp [content, Delivery.bytes]⟩

theorem Yields.append {first second both : Except RoomError (List Delivery)} {k n : Nat}
    (hfirst : Yields first k) (hsecond : Yields second n)
    (h : ∀ ds es, first = .ok ds → second = .ok es → both = .ok (ds ++ es)) :
    Yields both (k + n) := by
  obtain ⟨ds, hds, hdata, rfl⟩ := hfirst
  obtain ⟨es, hes, hmore, rfl⟩ := hsecond
  refine ⟨ds ++ es, h ds es hds hes, ?_, by simp [content]⟩
  intro e he
  rcases List.mem_append.1 he with he | he
  · exact hdata e he
  · exact hmore e he

end Delivery

/-- A file that yields its declared length, if it declares one. -/
def ResolvedFile.Keeps (fs : FileSystem) (file : ResolvedFile) : Prop :=
  ∀ n, file.length = some n → Delivery.Yields (file.source.drain fs) n

def Part.KeepsFile (resolve : FileResolver) (fs : FileSystem) (p : Part) : Prop :=
  ∀ uri file, p.content = some (.file uri) → resolve uri = some file → file.Keeps fs

def Part.Unmeasured (resolve : FileResolver) (p : Part) : Prop :=
  ∃ uri file, p.content = some (.file uri) ∧ resolve uri = some file ∧ file.length = none

namespace Multipart

open Delivery (Yields)

variable {resolve : FileResolver} {agent : Option String} {fs : FileSystem}
  {boundary mediaType : String} {p : Part} {s : Segment} {ss : List Segment} {n : Nat}

def Segment.Keeps (fs : FileSystem) (s : Segment) : Prop :=
  ∀ n, s.length = some n → Yields (s.content.drain fs) n

theorem segment_keeps (hfile : p.KeepsFile resolve fs)
    (h : (segment resolve agent p).outcome = .ok s) :
    s.Keeps fs ∧ (s.length = none ↔ p.Unmeasured resolve) := by
  have hfault : p.fault? resolve = none := by
    rw [← segment_fault? resolve agent p, Trial.fault?_eq_none_iff]
    exact ⟨s, h⟩
  obtain ⟨hform, ⟨text, hcontent⟩ | ⟨uri, file, hcontent, htyped, hresolve⟩⟩ :=
    Part.fault?_eq_none_iff.1 hfault
  · rw [segment_of_text hform hcontent] at h
    cases h
    constructor
    · intro n hn
      cases hn
      exact .data _
    · simp [Part.Unmeasured, hcontent]
  · rw [segment_of_file hform hcontent htyped hresolve] at h
    cases h
    exact ⟨hfile uri file hcontent hresolve, by simp [Part.Unmeasured, hcontent, hresolve]⟩

theorem segments_of_readParts {parts : List Part}
    (h : (readParts resolve agent parts).outcome = .ok ss) :
    List.Forall₂ (fun p s => (segment resolve agent p).outcome = .ok s) parts ss := by
  induction parts generalizing ss with
  | nil =>
    cases h
    exact .nil
  | cons p parts ih =>
    obtain ⟨s, hs, hrest⟩ := Trial.andThen_eq_ok_iff.1 h
    obtain ⟨rest, hparts, hcons⟩ := Trial.andThen_eq_ok_iff.1 hrest
    cases hcons
    exact .cons hs (ih hparts)

theorem keeps_of_readParts {parts : List Part} (hfiles : ∀ p ∈ parts, p.KeepsFile resolve fs)
    (h : (readParts resolve agent parts).outcome = .ok ss) :
    (∀ s ∈ ss, s.Keeps fs) ∧
      ((∃ s ∈ ss, s.length = none) ↔ ∃ p ∈ parts, p.Unmeasured resolve) := by
  have hpairs := segments_of_readParts h
  clear h
  induction hpairs with
  | nil => simp
  | cons hs _ ih =>
    rw [List.forall_mem_cons] at hfiles
    obtain ⟨hkeeps, hlength⟩ := segment_keeps hfiles.1 hs
    obtain ⟨hrest, hunknown⟩ := ih hfiles.2
    exact ⟨List.forall_mem_cons.2 ⟨hkeeps, hrest⟩, by simp [hlength, hunknown]⟩

theorem Segment.Keeps.drain (h : s.Keeps fs) (hn : s.encodedLength boundary = some n) :
    Yields (s.drain fs boundary) n := by
  obtain ⟨k, hk, rfl⟩ := Option.map_eq_some_iff.1 hn
  obtain ⟨ds, hdrain, hdata, rfl⟩ := h k hk
  refine ⟨.data (s.head boundary) :: ds ++ [.data (Utf8.encode lineBreak)], ?_, ?_, ?_⟩
  · rw [Segment.drain, hdrain]
    rfl
  · intro e he
    simp only [List.cons_append, List.mem_cons, List.mem_append, List.not_mem_nil,
      or_false] at he
    rcases he with rfl | he | rfl
    · exact ⟨_, rfl⟩
    · exact hdata e he
    · exact ⟨_, rfl⟩
  · have hbreak : (Utf8.encode lineBreak).length = lineBreak.length := rfl
    simp only [Delivery.content, List.cons_append, List.flatMap_cons, List.flatMap_append,
      List.flatMap_nil, Delivery.bytes, List.length_append, List.append_nil, hbreak]
    omega

theorem length_closing (boundary : String) :
    (closing boundary).length = closingLength boundary := by
  have hsplit : closing boundary = Utf8.encode ['-', '-'] ++ Utf8.encode boundary.toList ++
      Utf8.encode ('-' :: '-' :: lineBreak) := by
    rw [← Utf8.encode_append, ← Utf8.encode_append]
    rfl
  have hdashes : (Utf8.encode ['-', '-']).length = 2 := rfl
  have hend : (Utf8.encode ('-' :: '-' :: lineBreak)).length = 2 + lineBreak.length := rfl
  rw [hsplit, List.length_append, List.length_append, hdashes, hend, Utf8.length_encode_toList,
    closingLength]
  omega

theorem contentLength_cons (boundary mediaType : String) (s : Segment) (ss : List Segment) :
    contentLength ⟨boundary, mediaType, s :: ss⟩ =
      (s.encodedLength boundary).bind fun k =>
        (contentLength ⟨boundary, mediaType, ss⟩).bind fun n => some (k + n) := rfl

theorem drain_cons {ds es : List Delivery} (hs : s.drain fs boundary = .ok ds)
    (hss : drain fs ⟨boundary, mediaType, ss⟩ = .ok es) :
    drain fs ⟨boundary, mediaType, s :: ss⟩ = .ok (ds ++ es) := by
  unfold drain at hss ⊢
  rw [List.mapM_cons, hs]
  cases hrest : ss.mapM (Segment.drain fs boundary) with
  | error e =>
    simp only [hrest] at hss
    cases hss
  | ok pieces =>
    simp only [hrest] at hss
    cases hss
    simp [Except.map, bind, Except.bind, pure, Except.pure]

theorem exists_closing {m : Multipart} {ds : List Delivery} (h : m.drain fs = .ok ds) :
    ∃ front, ds = front ++ [.data (closing m.boundary)] := by
  unfold drain at h
  cases hpieces : m.segments.mapM (Segment.drain fs m.boundary) with
  | error e =>
    rw [hpieces] at h
    cases h
  | ok pieces =>
    rw [hpieces] at h
    cases h
    exact ⟨_, rfl⟩

theorem drain_yields (hkeeps : ∀ s ∈ ss, s.Keeps fs)
    (hn : contentLength ⟨boundary, mediaType, ss⟩ = some n) :
    Yields (drain fs ⟨boundary, mediaType, ss⟩) n := by
  induction ss generalizing n with
  | nil =>
    cases hn
    rw [← length_closing]
    exact .data _
  | cons s ss ih =>
    rw [contentLength_cons] at hn
    obtain ⟨k, hk, hrest⟩ := Option.bind_eq_some_iff.1 hn
    obtain ⟨rest, htotal, hsum⟩ := Option.bind_eq_some_iff.1 hrest
    cases hsum
    rw [List.forall_mem_cons] at hkeeps
    exact (hkeeps.1.drain hk).append (ih hkeeps.2 htotal) fun _ _ => drain_cons

theorem contentLength_eq_none_iff :
    contentLength ⟨boundary, mediaType, ss⟩ = none ↔ ∃ s ∈ ss, s.length = none := by
  induction ss with
  | nil => simp [contentLength]
  | cons s ss ih =>
    rw [contentLength_cons]
    cases hs : s.length with
    | none => simp [Segment.encodedLength, hs]
    | some k =>
      have htail : (∃ t ∈ s :: ss, t.length = none) ↔ ∃ t ∈ ss, t.length = none := by simp [hs]
      rw [htail, ← ih]
      cases contentLength ⟨boundary, mediaType, ss⟩ <;> simp [Segment.encodedLength, hs]

theorem assemble_yields {parts : List Part} {m : Multipart}
    (hfiles : ∀ p ∈ parts, p.KeepsFile resolve fs)
    (h : (assemble resolve agent boundary mediaType parts).outcome = .ok m) :
    (∀ n, m.contentLength = some n → Yields (m.drain fs) n) ∧
      (m.contentLength = none ↔ ∃ p ∈ parts, p.Unmeasured resolve) := by
  obtain ⟨ss, hss, hm⟩ := Trial.andThen_eq_ok_iff.1 h
  cases hm
  obtain ⟨hkeeps, hunknown⟩ := keeps_of_readParts hfiles hss
  exact ⟨fun n hn => drain_yields hkeeps hn, contentLength_eq_none_iff.trans hunknown⟩

end Multipart
end Outbound
