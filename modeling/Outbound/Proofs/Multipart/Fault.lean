import Outbound.Body.Multipart
import Outbound.Proofs.Header.Reading

/-! What is wrong with a part, said of the part as the caller wrote it: its headers, its content, or
a file that has no type or is not found. A part without a fault is assembled, and of several parts
the first with a fault decides. -/

namespace Outbound

def Trial.fault? {α ε : Type} (t : Trial α ε) : Option ε :=
  match t.outcome with
  | .error e => some e
  | .ok _ => none

/-- What is wrong with a part: its headers, then its content. A file needs a type. -/
def Part.fault? (resolve : FileResolver) (p : Part) : Option Failure :=
  if !RawField.wellFormed p.headers then some .invalidPartHeaders
  else match p.content with
    | none => some .unrecognizedPart
    | some (.text _) => none
    | some (.file uri) =>
      if !(RawField.pairs p.headers).any (Field.named Header.contentType) then
        some .missingPartContentType
      else if (resolve uri).isNone then some (.fileNotFound uri)
      else none

theorem Part.fault?_eq_none_iff {resolve : FileResolver} {p : Part} :
    p.fault? resolve = none ↔ RawField.wellFormed p.headers = true ∧
      ((∃ text, p.content = some (.text text)) ∨
        ∃ uri file, p.content = some (.file uri) ∧
          (RawField.pairs p.headers).any (Field.named Header.contentType) = true ∧
          resolve uri = some file) := by
  unfold fault?
  cases RawField.wellFormed p.headers with
  | false => simp
  | true =>
    rcases p.content with _ | text | uri
    · simp
    · simp
    · cases (RawField.pairs p.headers).any (Field.named Header.contentType) with
      | false => simp
      | true => simp [Option.isNone_iff_eq_none, ← Option.isSome_iff_exists,
          Option.isSome_iff_ne_none]

namespace Trial

variable {α β ε : Type} {t : Trial α ε} {next : α → Trial β ε} {e : ε}

theorem fault?_fail (e : ε) : (fail e : Trial α ε).fault? = some e := rfl

theorem fault?_succeed (a : α) : (succeed a : Trial α ε).fault? = none := rfl

theorem fault?_eq_some_iff : t.fault? = some e ↔ t.outcome = .error e := by
  unfold fault?
  cases t.outcome <;> simp

theorem fault?_eq_none_iff : t.fault? = none ↔ ∃ a, t.outcome = .ok a := by
  unfold fault?
  cases t.outcome <;> simp

theorem fault?_andThen_of_error (h : t.outcome = .error e) :
    (t.andThen next).fault? = some e := by
  simp [fault?, andThen, h]

theorem fault?_andThen_of_ok {a : α} (h : t.outcome = .ok a) :
    (t.andThen next).fault? = (next a).fault? := by
  simp [fault?, andThen, h]

theorem fault?_andThen_succeed (t : Trial α ε) (g : α → β) :
    (t.andThen fun a => succeed (g a)).fault? = t.fault? := by
  cases h : t.outcome with
  | error e => rw [fault?_andThen_of_error h, fault?_eq_some_iff.2 h]
  | ok a => rw [fault?_andThen_of_ok h, fault?_eq_none_iff.2 ⟨a, h⟩, fault?_succeed]

theorem fault?_halting (t : Trial α) : t.halting.fault? = t.fault?.map .failure := by
  unfold fault? halting
  cases t.outcome <;> rfl

theorem fault?_ask (resolve : FileResolver) (uri : String) :
    (ask resolve uri).fault? =
      if (resolve uri).isNone then some (.fileNotFound uri) else none := by
  unfold fault? ask
  cases resolve uri <;> rfl

end Trial

namespace Multipart

theorem segment_fault? (resolve : FileResolver) (agent : Option String) (p : Part) :
    (segment resolve agent p).fault? = p.fault? resolve := by
  cases hform : RawField.wellFormed p.headers with
  | false =>
    have hnone : FieldList.build? p.headers agent false = none :=
      FieldList.build?_of_not_wellFormed hform
    simp [segment, segmentFields, hnone, Part.fault?, hform, Trial.fault?_fail]
  | true =>
    obtain ⟨l, hl, htype⟩ := FieldList.exists_build? hform agent false
    rw [segment, segmentFields, hl, Part.fault?, hform, ← htype]
    cases p.content with
    | none => rfl
    | some content =>
      cases content with
      | text text => rfl
      | file uri =>
        cases htype : l.contentType? with
        | none => simp [htype, Trial.fault?_fail]
        | some type =>
          simp only [htype, Option.isNone_some, Option.isSome_some, Bool.not_true,
            Bool.false_eq_true, ite_false]
          rw [Trial.fault?_andThen_succeed, Trial.fault?_ask]

theorem readParts_fault? (resolve : FileResolver) (agent : Option String) (ps : List Part) :
    (readParts resolve agent ps).fault? = ps.findSome? (Part.fault? resolve) := by
  induction ps with
  | nil => rfl
  | cons p ps ih =>
    rw [readParts, List.findSome?_cons, ← segment_fault? resolve agent p]
    cases h : (segment resolve agent p).outcome with
    | error f => rw [Trial.fault?_andThen_of_error h, Trial.fault?_eq_some_iff.2 h]
    | ok s =>
      rw [Trial.fault?_andThen_of_ok h, Trial.fault?_eq_none_iff.2 ⟨s, h⟩,
        Trial.fault?_andThen_succeed, ih]

end Multipart

end Outbound
