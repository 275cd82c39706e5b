import Outbound.Header.List

/-! What a raw header list is read as. A list that is read is the list of its fields, all of them
valid, in order; a user agent may be added behind them, and an encoding taken out. Nothing else is
read, so whether a raw list is well formed can be said of its entries alone. -/

namespace Outbound

namespace Field

variable {e : RawField} {es : List RawField} {f : Field} {fs : List Field} {name : String}

def toRaw (f : Field) : RawField := [some f.name, some f.value]

theorem ofRaw?_toRaw (hf : f.valid = true) : ofRaw? f.toRaw = some f := by
  simp [toRaw, ofRaw?, hf]

theorem ofRaw?_eq_some_iff : ofRaw? e = some f ↔ e = f.toRaw ∧ f.valid = true := by
  constructor
  · intro h
    unfold ofRaw? at h
    split at h
    · split at h
      · next hvalid =>
        cases h
        exact ⟨rfl, hvalid⟩
      · cases h
    · cases h
  · rintro ⟨rfl, hvalid⟩
    exact ofRaw?_toRaw hvalid

theorem mapM_ofRaw?_eq_some_iff :
    es.mapM ofRaw? = some fs ↔ es = fs.map toRaw ∧ ∀ f ∈ fs, f.valid = true := by
  induction es generalizing fs with
  | nil =>
    cases fs with
    | nil => simp
    | cons f fs => simp
  | cons e es ih =>
    rw [List.mapM_cons]
    constructor
    · intro h
      obtain ⟨f, hf, h⟩ := Option.bind_eq_some_iff.1 h
      obtain ⟨rest, hrest, h⟩ := Option.bind_eq_some_iff.1 h
      cases h
      obtain ⟨rfl, hvalid⟩ := ofRaw?_eq_some_iff.1 hf
      obtain ⟨rfl, hall⟩ := ih.1 hrest
      exact ⟨rfl, by simpa using ⟨hvalid, hall⟩⟩
    · rintro ⟨he, hall⟩
      cases fs with
      | nil => cases he
      | cons f fs =>
        cases he
        have hf : ofRaw? f.toRaw = some f := ofRaw?_toRaw (hall f (by simp))
        have hrest : (fs.map toRaw).mapM ofRaw? = some fs :=
          ih.2 ⟨rfl, fun g hg => hall g (by simp [hg])⟩
        simp [hf, hrest]

theorem named_iff : f.named name = true ↔ Ascii.lower f.name = Ascii.lower name := Ascii.same_iff

theorem not_named {other : String} (h : f.named name = true)
    (hne : Ascii.lower name ≠ Ascii.lower other) : f.named other = false := by
  have hname : Ascii.lower f.name = Ascii.lower name := named_iff.1 h
  rw [Bool.eq_false_iff, Ne, named_iff, hname]
  exact hne

end Field

def RawField.pair? : RawField → Option Field
  | [some name, some value] => some ⟨name, value⟩
  | _ => none

/-- The pairs of a raw list, valid or not. -/
def RawField.pairs (raw : Option (List RawField)) : List Field := (raw.getD []).filterMap pair?

def RawField.wellFormed (raw : Option (List RawField)) : Bool :=
  raw.any fun es => es.all fun e => (pair? e).any Field.valid

namespace FieldList

open Outbound.Field (toRaw)

variable {raw : Option (List RawField)} {agent : Option String} {text : Bool} {l : FieldList}
  {fs : List Field} {name other : String}

theorem pairs_map_toRaw (fs : List Field) : RawField.pairs (some (fs.map toRaw)) = fs := by
  induction fs with
  | nil => rfl
  | cons f fs ih =>
    have htail : (fs.map toRaw).filterMap RawField.pair? = fs := ih
    simp [RawField.pairs, toRaw, RawField.pair?, htail]

theorem pair?_eq_some_iff {e : RawField} {f : Field} :
    RawField.pair? e = some f ↔ e = toRaw f := by
  constructor
  · intro h
    unfold RawField.pair? at h
    split at h <;> cases h
    rfl
  · rintro rfl
    rfl

theorem all_pair?_iff {es : List RawField} :
    (es.all fun e => (RawField.pair? e).any Field.valid) = true ↔
      ∃ fs : List Field, es = fs.map toRaw ∧ ∀ f ∈ fs, f.valid = true := by
  constructor
  · intro h
    induction es with
    | nil => exact ⟨[], rfl, by simp⟩
    | cons e es ih =>
      rw [List.all_cons, Bool.and_eq_true] at h
      obtain ⟨he, hes⟩ := h
      obtain ⟨f, hf, hvalid⟩ := (Option.any_eq_true ..).1 he
      obtain ⟨fs, rfl, hall⟩ := ih hes
      obtain rfl : e = toRaw f := pair?_eq_some_iff.1 hf
      exact ⟨f :: fs, rfl, by simpa using ⟨hvalid, hall⟩⟩
  · rintro ⟨fs, rfl, hall⟩
    simpa [toRaw, RawField.pair?] using hall

theorem wellFormed_iff : RawField.wellFormed raw = true ↔
    ∃ fs : List Field, raw = some (fs.map toRaw) ∧ ∀ f ∈ fs, f.valid = true := by
  cases raw with
  | none => simp [RawField.wellFormed]
  | some es => simpa [RawField.wellFormed] using all_pair?_iff

theorem get?_eq_getLast? (l : FieldList) (name : String) :
    l.get? name = (l.fields.filter (Field.named name)).getLast?.map (·.value) := by
  rw [get?, List.getLast?_eq_head?_reverse, ← List.filter_reverse, List.head?_filter]

theorem isSome_get? (l : FieldList) (name : String) :
    (l.get? name).isSome = l.fields.any (Field.named name) := by
  rw [get?, Option.isSome_map, Bool.eq_iff_iff, List.find?_isSome]
  simp

theorem filter_removeAll (h : Ascii.lower other ≠ Ascii.lower name) :
    (l.removeAll name).fields.filter (Field.named other) =
      l.fields.filter (Field.named other) := by
  rw [removeAll_fields, List.filter_filter]
  apply List.filter_congr
  intro f _
  cases hnamed : f.named other with
  | false => simp
  | true => simp [Field.not_named hnamed h]

theorem filter_set (h : Ascii.lower other ≠ Ascii.lower name) (value : String) :
    (l.set name value).fields.filter (Field.named other) =
      l.fields.filter (Field.named other) := by
  have hnew : Field.named other ⟨name, value⟩ ≠ true := by
    rw [Ne, Field.named_iff]
    exact Ne.symm h
  have hold : (l.fields.filter fun f => !f.named name).filter (Field.named other) =
      l.fields.filter (Field.named other) := filter_removeAll h
  rw [set_fields, List.filter_append, hold]
  simp [hnew]

theorem filter_removeAll_self (l : FieldList) (name : String) :
    (l.removeAll name).fields.filter (Field.named name) = [] := by
  rw [removeAll_fields, List.filter_filter]
  simp

theorem filter_set_self (l : FieldList) (name value : String) :
    (l.set name value).fields.filter (Field.named name) = [⟨name, value⟩] := by
  have hnamed : Field.named name ⟨name, value⟩ = true := Field.named_iff.2 rfl
  have hold : (l.fields.filter fun f => !f.named name).filter (Field.named name) = [] :=
    filter_removeAll_self l name
  rw [set_fields, List.filter_append, hold]
  simp [hnamed]

/-- What is put behind the fields of a list that names no user agent. -/
def added (agent : Option String) (fs : List Field) : List Field :=
  if fs.any (Field.named Header.userAgent) then []
  else agent.toList.map fun value => ⟨Header.userAgent, value⟩

def arranged (agent : Option String) (text : Bool) (fs : List Field) : List Field :=
  fs.filter (fun f => text || !f.named Header.contentEncoding) ++ added agent fs

theorem mem_added {f : Field} (hf : f ∈ added agent fs) :
    ∃ value, agent = some value ∧ f = ⟨Header.userAgent, value⟩ := by
  unfold added at hf
  split at hf
  · cases hf
  · obtain ⟨value, hvalue, rfl⟩ := List.mem_map.1 hf
    exact ⟨value, by simpa using hvalue, rfl⟩

theorem name_of_mem_added {f : Field} (hf : f ∈ added agent fs) : f.name = Header.userAgent := by
  obtain ⟨value, -, rfl⟩ := mem_added hf
  rfl

theorem filter_added (h : Ascii.lower Header.userAgent ≠ Ascii.lower name) :
    (added agent fs).filter (Field.named name) = [] := by
  rw [List.filter_eq_nil_iff]
  intro f hf hnamed
  rw [Field.named_iff, name_of_mem_added hf] at hnamed
  exact h hnamed

theorem filter_not_added (h : Ascii.lower Header.userAgent ≠ Ascii.lower name) :
    (added agent fs).filter (fun f => !f.named name) = added agent fs := by
  rw [List.filter_eq_self]
  intro f hf
  have hnamed : f.named name ≠ true := by
    rw [Ne, Field.named_iff, name_of_mem_added hf]
    exact h
  simp [hnamed]

theorem withUserAgent_fields (agent : Option String) (fs : List Field) :
    (withUserAgent ⟨fs⟩ agent).fields = fs ++ added agent fs := by
  cases agent with
  | none => simp [withUserAgent, added]
  | some agent =>
    rw [withUserAgent, isSome_get?, added]
    split <;> simp

theorem build?_toRaw (agent : Option String) (text : Bool) (hvalid : ∀ f ∈ fs, f.valid = true) :
    build? (some (fs.map toRaw)) agent text = some ⟨arranged agent text fs⟩ := by
  have hread : (fs.map toRaw).mapM Field.ofRaw? = some fs :=
    Field.mapM_ofRaw?_eq_some_iff.2 ⟨rfl, hvalid⟩
  have hfields := withUserAgent_fields agent fs
  have hkept : (added agent fs).filter (fun f => !f.named Header.contentEncoding) =
      added agent fs := filter_not_added (by decide)
  cases text with
  | true =>
    have hlist : withUserAgent ⟨fs⟩ agent = ⟨fs ++ added agent fs⟩ := congrArg FieldList.mk hfields
    have hall : fs.filter (fun _ => true) = fs := List.filter_eq_self.2 fun _ _ => rfl
    simp [build?, hread, hlist, arranged, hall]
  | false =>
    simp [build?, hread, removeAll, hfields, hkept, arranged]

theorem build?_eq_some_iff : build? raw agent text = some l ↔
    ∃ fs : List Field, raw = some (fs.map toRaw) ∧ (∀ f ∈ fs, f.valid = true) ∧
      l = ⟨arranged agent text fs⟩ := by
  constructor
  · intro h
    obtain ⟨es, rfl, h⟩ := Option.bind_eq_some_iff.1 h
    obtain ⟨fs, hfs, -⟩ := Option.bind_eq_some_iff.1 h
    obtain ⟨rfl, hvalid⟩ := Field.mapM_ofRaw?_eq_some_iff.1 hfs
    have hbuilt := build?_toRaw agent text hvalid
    rw [build?, Option.bind_eq_bind, Option.bind_some] at hbuilt
    exact ⟨fs, rfl, hvalid, Option.some.inj (h.symm.trans hbuilt)⟩
  · rintro ⟨fs, rfl, hvalid, rfl⟩
    exact build?_toRaw agent text hvalid

theorem contentType?_arranged (agent : Option String) (text : Bool) (fs : List Field) :
    FieldList.contentType? ⟨arranged agent text fs⟩ =
      (fs.filter (Field.named Header.contentType)).getLast?.map (·.value) := by
  have hadded : (added agent fs).filter (Field.named Header.contentType) = [] :=
    filter_added (by decide)
  have hkept : ∀ f : Field, f.named Header.contentType = true →
      (text || !f.named Header.contentEncoding) = true := by
    intro f hf
    rw [Field.not_named hf (by decide)]
    simp
  rw [contentType?, get?_eq_getLast?, arranged, List.filter_append, hadded, List.append_nil,
    List.filter_filter]
  congr 2
  apply List.filter_congr
  intro f _
  cases hf : f.named Header.contentType with
  | true => simpa using hkept f hf
  | false => simp

theorem isSome_contentType?_arranged (agent : Option String) (text : Bool) (fs : List Field) :
    (FieldList.contentType? ⟨arranged agent text fs⟩).isSome =
      fs.any (Field.named Header.contentType) := by
  rw [contentType?_arranged, ← get?_eq_getLast? ⟨fs⟩, isSome_get?]

theorem exists_build? (h : RawField.wellFormed raw = true) (agent : Option String) (text : Bool) :
    ∃ l, build? raw agent text = some l ∧
      l.contentType?.isSome = (RawField.pairs raw).any (Field.named Header.contentType) := by
  obtain ⟨fs, rfl, hvalid⟩ := wellFormed_iff.1 h
  refine ⟨_, build?_toRaw agent text hvalid, ?_⟩
  rw [pairs_map_toRaw, isSome_contentType?_arranged]

theorem build?_of_not_wellFormed (h : RawField.wellFormed raw = false) :
    build? raw agent text = none := by
  cases hl : build? raw agent text with
  | none => rfl
  | some l =>
    obtain ⟨fs, hraw, hvalid, -⟩ := build?_eq_some_iff.1 hl
    rw [wellFormed_iff.2 ⟨fs, hraw, hvalid⟩] at h
    cases h

end FieldList
end Outbound
