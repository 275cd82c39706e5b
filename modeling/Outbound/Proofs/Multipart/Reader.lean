import Mathlib.Data.List.Infix
import Outbound.Body.Multipart

/-! A body of several parts as those who receive it read it. A delimiter is a line break, two dashes
and the boundary; the break in front of it is no content, and at the front of the body it may be
left out. Behind a delimiter stand blanks and a line break, or two dashes if it is the last. A part
is lines up to an empty one, and then its content. What is written with a boundary that stands in no
line and no content is read as it was. -/

namespace Outbound.Multipart

def crlf : Bytes := [13, 10]

def dashes : Bytes := [45, 45]

/-- The first place where a mark stands: what is in front of it, and what is behind. -/
def cut (mark : Bytes) : Bytes → Option (Bytes × Bytes)
  | [] => none
  | b :: bs =>
    if mark.isPrefixOf (b :: bs) then some ([], (b :: bs).drop mark.length)
    else (cut mark bs).map fun (front, rest) => (b :: front, rest)

theorem cut_length_lt {mark bs front rest : Bytes} (hne : mark ≠ [])
    (h : cut mark bs = some (front, rest)) : rest.length < bs.length := by
  induction bs generalizing front with
  | nil => cases h
  | cons b bs ih =>
    rw [cut] at h
    split at h
    · cases h
      have hpos : 0 < mark.length := List.length_pos_iff.2 hne
      rw [List.length_drop, List.length_cons]
      omega
    · obtain ⟨⟨front', rest'⟩, hcut, he⟩ := Option.map_eq_some_iff.1 h
      cases he
      exact Nat.lt_succ_of_lt (ih hcut)

structure Section where
  lines : List Bytes
  content : Bytes
  deriving DecidableEq, Repr, Inhabited

def headLines (bs : Bytes) : List Bytes × Bytes :=
  match h : cut crlf bs with
  | none => (if bs = [] then [] else [bs], [])
  | some (line, rest) =>
    have := cut_length_lt (by decide) h
    if line = [] then ([], rest) else (line :: (headLines rest).1, (headLines rest).2)
termination_by bs.length

def readSection (bs : Bytes) : Section := ⟨(headLines bs).1, (headLines bs).2⟩

/-- What stands behind a boundary: nothing that may stand there, the next part, or the end of all
parts and what comes after a line break, if there is one. -/
inductive Border
  | malformed
  | next (rest : Bytes)
  | last (epilogue : Option Bytes)
  deriving DecidableEq, Repr

def blank (b : UInt8) : Bool := b == 0x20 || b == 0x09

def border (bs : Bytes) : Border :=
  if dashes.isPrefixOf bs then
    match (bs.drop dashes.length).dropWhile blank with
    | [] => .last none
    | 13 :: 10 :: epilogue => .last (some epilogue)
    | _ => .malformed
  else match bs.dropWhile blank with
    | 13 :: 10 :: rest => .next rest
    | _ => .malformed

theorem border_length_le {bs rest : Bytes} (h : border bs = .next rest) :
    rest.length < bs.length := by
  unfold border at h
  split at h
  · split at h <;> cases h
  · split at h
    · next hdrop =>
      cases h
      have hle := (List.dropWhile_suffix blank (l := bs)).length_le
      rw [hdrop, List.length_cons, List.length_cons] at hle
      omega
    · cases h

def delimiter (boundary : Bytes) : Bytes := crlf ++ dashes ++ boundary

def readSections (boundary bs : Bytes) : Option (List Section × Option Bytes) :=
  match hborder : border bs with
  | .malformed => none
  | .last epilogue => some ([], epilogue)
  | .next body =>
    match hcut : cut (delimiter boundary) body with
    | none => none
    | some (content, rest) =>
      have := cut_length_lt (by simp [delimiter, crlf]) hcut
      have := border_length_le hborder
      (readSections boundary rest).map fun (ss, epilogue) => (readSection content :: ss, epilogue)
termination_by bs.length

structure Reading where
  preamble : Option Bytes
  sections : List Section
  epilogue : Option Bytes
  deriving DecidableEq, Repr

def read (boundary bs : Bytes) : Option Reading := do
  let (front, rest) ← cut (delimiter boundary) (crlf ++ bs)
  let (sections, epilogue) ← readSections boundary rest
  some ⟨if front = [] then none else some (front.drop crlf.length), sections, epilogue⟩

variable {x : UInt8} {mark front rest boundary content line : Bytes}

/-- A mark whose first byte does not come again in it cannot reach into itself. -/
theorem cut_append (hx : x ∉ mark) (hfront : ¬ x :: mark <:+: front) (rest : Bytes) :
    cut (x :: mark) (front ++ (x :: mark ++ rest)) = some (front, rest) := by
  induction front with
  | nil => simp [cut]
  | cons b front ih =>
    have htail : ¬ x :: mark <:+: front := fun h =>
      hfront (h.trans (List.suffix_cons b front).isInfix)
    have hhere : ¬ x :: mark <+: b :: (front ++ (x :: mark ++ rest)) := by
      intro h
      obtain ⟨rfl, hmark⟩ := List.cons_prefix_cons.1 h
      have hinside : ¬ mark <+: front := by
        intro h'
        exact hfront (List.cons_prefix_cons.2 ⟨rfl, h'⟩).isInfix
      rcases List.prefix_or_prefix_of_prefix hmark (List.prefix_append _ _) with h' | ⟨t, rfl⟩
      · exact hinside h'
      · cases t with
        | nil => exact hinside (by simp)
        | cons y t =>
          -- the mark would go on behind `front`, where its first byte stands again
          rw [List.prefix_append_right_inj, List.cons_append, List.cons_prefix_cons] at hmark
          exact hx (by simp [hmark.1])
    rw [List.cons_append, cut, if_neg (by simpa using hhere), ih htail]
    rfl

theorem infix_append_cons (hx : x ∉ mark) (h : mark <:+: front ++ x :: rest) :
    mark <:+: front ∨ mark <:+: rest := by
  obtain ⟨before, after, h⟩ := h
  rw [List.append_assoc] at h
  rcases List.append_eq_append_iff.1 h with ⟨t, rfl, hmark⟩ | ⟨t, rfl, hrest⟩
  · rcases List.append_eq_append_iff.1 hmark with ⟨u, rfl, -⟩ | ⟨u, rfl, hu⟩
    · exact .inl ⟨before, u, by simp⟩
    · cases u with
      | nil => exact .inl ⟨before, [], by simp⟩
      | cons y u =>
        obtain ⟨rfl, -⟩ := List.cons_eq_cons.1 hu
        exact absurd (by simp) hx
  · cases t with
    | nil =>
      cases mark with
      | nil => exact .inl ⟨front, [], by simp⟩
      | cons y mark =>
        obtain ⟨rfl, -⟩ := List.cons_eq_cons.1 hrest
        exact absurd (by simp) hx
    | cons y t =>
      obtain ⟨-, rfl⟩ := List.cons_eq_cons.1 hrest
      exact .inr ⟨t, after, by simp⟩

theorem infix_of_infix_cons (hx : x ∉ mark) (h : mark <:+: x :: rest) : mark <:+: rest := by
  have hsplit : mark <:+: [] ++ x :: rest := h
  rcases infix_append_cons hx hsplit with hnil | hrest
  · exact hnil.trans List.nil_infix
  · exact hrest

theorem infix_of_infix_crlf (hcr : 13 ∉ mark) (hlf : 10 ∉ mark)
    (h : mark <:+: front ++ (crlf ++ rest)) : mark <:+: front ∨ mark <:+: rest := by
  rcases infix_append_cons hcr h with hfront | hrest
  · exact .inl hfront
  · exact .inr (infix_of_infix_cons hlf hrest)

def Section.written (s : Section) : Bytes :=
  s.lines.flatMap (· ++ crlf) ++ (crlf ++ s.content)

/-- Parts one after the other, each behind a boundary, and the boundary that ends them. -/
def frame (boundary : Bytes) (ss : List Section) : Bytes :=
  ss.flatMap (fun s => dashes ++ boundary ++ crlf ++ s.written ++ crlf) ++
    (dashes ++ boundary ++ dashes ++ crlf)

structure LineFits (boundary line : Bytes) : Prop where
  ne_nil : line ≠ []
  unbroken : 13 ∉ line
  free : ¬ dashes ++ boundary <:+: line

structure Section.Fits (boundary : Bytes) (s : Section) : Prop where
  lines : ∀ line ∈ s.lines, LineFits boundary line
  content : ¬ dashes ++ boundary <:+: s.content

theorem cut_line (h : 13 ∉ line) (rest : Bytes) :
    cut crlf (line ++ (crlf ++ rest)) = some (line, rest) :=
  cut_append (by decide) (fun hin => h (hin.subset (by simp))) rest

theorem headLines_of_cut (h : cut crlf content = some (line, rest)) : headLines content =
    if line = [] then ([], rest) else (line :: (headLines rest).1, (headLines rest).2) := by
  rw [headLines]
  split <;> simp_all

theorem headLines_written {lines : List Bytes} (h : ∀ line ∈ lines, line ≠ [] ∧ 13 ∉ line)
    (content : Bytes) :
    headLines (lines.flatMap (· ++ crlf) ++ (crlf ++ content)) = (lines, content) := by
  induction lines with
  | nil =>
    have hcut : cut crlf ([] ++ (crlf ++ content)) = some ([], content) :=
      cut_line (by simp) content
    simpa using headLines_of_cut hcut
  | cons line lines ih =>
    rw [List.forall_mem_cons] at h
    have hcut := cut_line h.1.2 (lines.flatMap (· ++ crlf) ++ (crlf ++ content))
    rw [List.flatMap_cons, List.append_assoc, List.append_assoc, headLines_of_cut hcut,
      if_neg h.1.1, ih h.2]

theorem readSections_of_last {bs : Bytes} {epilogue : Option Bytes}
    (h : border bs = .last epilogue) : readSections boundary bs = some ([], epilogue) := by
  rw [readSections]
  split <;> simp_all

theorem readSections_of_next {bs body : Bytes} (h : border bs = .next body)
    (hcut : cut (delimiter boundary) body = some (content, rest)) :
    readSections boundary bs = (readSections boundary rest).map fun (ss, epilogue) =>
      (readSection content :: ss, epilogue) := by
  rw [readSections]
  split
  · simp_all
  · simp_all
  · next body' hnext =>
    obtain rfl : body = body' := Border.next.inj (h.symm.trans hnext)
    split <;> simp_all

theorem Section.Fits.readSection_eq {s : Section} (h : s.Fits boundary) :
    readSection s.written = s := by
  have hlines : ∀ line ∈ s.lines, line ≠ [] ∧ 13 ∉ line := fun line hline =>
    ⟨(h.lines line hline).ne_nil, (h.lines line hline).unbroken⟩
  rw [readSection, written, headLines_written hlines]

theorem infix_flatMap_crlf {lines : List Bytes} (hcr : 13 ∉ mark) (hlf : 10 ∉ mark)
    (h : mark <:+: lines.flatMap (· ++ crlf) ++ rest) :
    (∃ line ∈ lines, mark <:+: line) ∨ mark <:+: rest := by
  induction lines with
  | nil => exact .inr h
  | cons line lines ih =>
    rw [List.flatMap_cons, List.append_assoc, List.append_assoc] at h
    rcases infix_of_infix_crlf hcr hlf h with h | h
    · exact .inl ⟨line, by simp, h⟩
    · rcases ih h with ⟨line', hmem, h⟩ | h
      · exact .inl ⟨line', by simp [hmem], h⟩
      · exact .inr h

section Framing

variable (hcr : 13 ∉ boundary) (hlf : 10 ∉ boundary)

include hcr hlf

theorem Section.Fits.written_free {s : Section} (h : s.Fits boundary) :
    ¬ delimiter boundary <:+: s.written := by
  have hcr' : 13 ∉ dashes ++ boundary := by simpa [dashes] using hcr
  have hlf' : 10 ∉ dashes ++ boundary := by simpa [dashes] using hlf
  intro hin
  have hmark : dashes ++ boundary <:+: s.written :=
    (List.suffix_append crlf (dashes ++ boundary)).isInfix.trans (by simpa [delimiter] using hin)
  rcases infix_flatMap_crlf hcr' hlf' hmark with ⟨line, hmem, hline⟩ | hrest
  · exact (h.lines line hmem).free hline
  · exact h.content (infix_of_infix_cons hlf' (infix_of_infix_cons hcr' hrest))

omit hlf in
theorem cut_delimiter (hfront : ¬ delimiter boundary <:+: front) (rest : Bytes) :
    cut (delimiter boundary) (front ++ (delimiter boundary ++ rest)) = some (front, rest) :=
  cut_append (by simpa [dashes] using hcr) hfront rest

def behind (boundary : Bytes) : List Section → Bytes
  | [] => dashes ++ crlf
  | s :: ss => crlf ++ (s.written ++ (delimiter boundary ++ behind boundary ss))

omit hcr hlf in
theorem frame_eq (boundary : Bytes) (ss : List Section) :
    crlf ++ frame boundary ss = delimiter boundary ++ behind boundary ss := by
  induction ss with
  | nil => simp [frame, behind, delimiter]
  | cons s ss ih =>
    have hframe : frame boundary (s :: ss) =
        dashes ++ boundary ++ crlf ++ s.written ++ (crlf ++ frame boundary ss) := by
      simp [frame]
    rw [hframe, ih]
    simp [behind, delimiter]

theorem readSections_behind {ss : List Section} (h : ∀ s ∈ ss, s.Fits boundary) :
    readSections boundary (behind boundary ss) = some (ss, some []) := by
  induction ss with
  | nil => exact readSections_of_last rfl
  | cons s ss ih =>
    rw [List.forall_mem_cons] at h
    have hborder : border (behind boundary (s :: ss)) =
        .next (s.written ++ (delimiter boundary ++ behind boundary ss)) := rfl
    have hcut := cut_delimiter hcr (h.1.written_free hcr hlf) (behind boundary ss)
    rw [readSections_of_next hborder hcut, ih h.2, h.1.readSection_eq]
    rfl

theorem read_frame {ss : List Section} (h : ∀ s ∈ ss, s.Fits boundary) :
    read boundary (frame boundary ss) = some ⟨none, ss, some []⟩ := by
  have hcut : cut (delimiter boundary) ([] ++ (delimiter boundary ++ behind boundary ss)) =
      some ([], behind boundary ss) := cut_delimiter hcr (by simp [delimiter, crlf]) _
  rw [read, frame_eq, ← List.nil_append (delimiter boundary ++ _), hcut]
  simp [readSections_behind hcr hlf h]

end Framing

end Outbound.Multipart
