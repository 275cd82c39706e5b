import Outbound.Proofs.Header.Reading

/-! What a list is built of, said of the entries that a caller sends. A list is built of all of them
or not at all. Building adds no more than a user agent, at the end, and leaves out no more than
encodings; the entries that stay are those of the caller as they were, in their order. -/

namespace Outbound

namespace RawField

/-- Two items, both present, the first a name and the second a value. -/
def Fits (e : RawField) : Prop :=
  ∃ name value, e = [some name, some value] ∧
    Header.validName name = true ∧ Header.validValue value = true

def named (name : String) : RawField → Bool
  | some n :: _ => Ascii.same n name
  | _ => false

theorem fits_iff {e : RawField} : e.Fits ↔ (pair? e).any Field.valid = true := by
  constructor
  · rintro ⟨name, value, rfl, hname, hvalue⟩
    simp [pair?, Field.valid, hname, hvalue]
  · intro h
    obtain ⟨f, hf, hvalid⟩ := (Option.any_eq_true ..).1 h
    obtain rfl := FieldList.pair?_eq_some_iff.1 hf
    rw [Field.valid, Bool.and_eq_true] at hvalid
    exact ⟨f.name, f.value, rfl, hvalid⟩

instance : DecidablePred Fits := fun _ => decidable_of_iff _ fits_iff.symm

theorem wellFormed_iff_fits {raw : Option (List RawField)} :
    wellFormed raw = true ↔ ∃ es, raw = some es ∧ ∀ e ∈ es, e.Fits := by
  cases raw with
  | none => simp [wellFormed]
  | some es => simp [wellFormed, fits_iff]

end RawField

namespace FieldList

theorem isSome_build? (raw : Option (List RawField)) (agent : Option String) (text : Bool) :
    (build? raw agent text).isSome = RawField.wellFormed raw := by
  cases hraw : RawField.wellFormed raw with
  | false =>
    rw [build?_of_not_wellFormed hraw]
    rfl
  | true =>
    obtain ⟨l, hl, -⟩ := exists_build? hraw agent text
    rw [hl]
    rfl

theorem any_named_toRaw (fs : List Field) (name : String) :
    (fs.map Field.toRaw).any (RawField.named name) = fs.any (Field.named name) := by
  rw [List.any_map]
  rfl

theorem map_toRaw_arranged (agent : Option String) (text : Bool) (fs : List Field) :
    (arranged agent text fs).map Field.toRaw =
      (fs.map Field.toRaw).filter (fun e => text || !e.named Header.contentEncoding) ++
        if (fs.map Field.toRaw).any (RawField.named Header.userAgent) then []
        else agent.toList.map fun value => [some Header.userAgent, some value] := by
  have hkept : (fs.filter fun f => text || !f.named Header.contentEncoding).map Field.toRaw =
      (fs.map Field.toRaw).filter fun e => text || !e.named Header.contentEncoding := by
    rw [List.filter_map]
    rfl
  rw [arranged, List.map_append, hkept, any_named_toRaw, added]
  split
  · rfl
  · rw [List.map_map]
    rfl

/-- A list is built exactly if one is sent and each of its entries is a name and a value. Built, it
has these entries in their order, spelled as they were and as often as they came, without the
encodings if the body is no text, and a user agent behind them if one is given and none is named by
an entry. -/
theorem builds_all_or_nothing (raw : Option (List RawField)) (agent : Option String)
    (text : Bool) :
    ((build? raw agent text).isSome = true ↔ ∃ es, raw = some es ∧ ∀ e ∈ es, e.Fits) ∧
    ∀ es l, raw = some es → build? raw agent text = some l →
      l.fields.map Field.toRaw =
        es.filter (fun e => text || !e.named Header.contentEncoding) ++
          if es.any (RawField.named Header.userAgent) then []
          else agent.toList.map fun value => [some Header.userAgent, some value] := by
  rw [isSome_build?]
  refine ⟨RawField.wellFormed_iff_fits, ?_⟩
  rintro es l rfl hl
  obtain ⟨fs, hraw, -, rfl⟩ := build?_eq_some_iff.1 hl
  obtain rfl := Option.some.inj hraw
  exact map_toRaw_arranged agent text fs

theorem builds_all_or_nothing_of_mixed_case :
    let es : List RawField := [[some "X-A", some "1"], [some "Content-Encoding", some "gzip"],
      [some "x-a", some ""], [some "CONTENT-ENCODING", some "br"]]
    ∃ l, build? (some es) (some "agent") false = some l ∧
      l.fields.map Field.toRaw =
        [[some "X-A", some "1"], [some "x-a", some ""], [some "user-agent", some "agent"]] := by
  intro es
  obtain ⟨hbuilt, hentries⟩ := builds_all_or_nothing (some es) (some "agent") false
  have hfits : ∀ e ∈ es, e.Fits := by decide
  obtain ⟨l, hl⟩ := Option.isSome_iff_exists.1 (hbuilt.2 ⟨es, rfl, hfits⟩)
  refine ⟨l, hl, ?_⟩
  rw [hentries es l rfl hl]
  decide

example : build? (some [[some "X-A", some "1"], [some "bad name", some "v"]]) none true = none := by
  decide

end FieldList
end Outbound
