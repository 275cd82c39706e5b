import Outbound.Proofs.Header.Gathering
import Outbound.Proofs.Multipart.Head

/-! When the entries of a list that is built are fields on the wire. The caller's are, for a list is
refused if one of them is not. The user agent that is put behind them is not looked at: it is one
exactly if its text is a value. A list of fields keeps all of them when it is grouped by name, and
in the head of a part they make their own lines and no others. -/

namespace Outbound

namespace FieldList

variable {raw : Option (List RawField)} {agent : Option String} {text : Bool} {l : FieldList}
  {fs : List Field} {name : String}

theorem toMap_eq_gather (l : FieldList) :
    l.toMap =
      .gather ((l.fields.filter Field.valid).map fun f => (Ascii.lower f.name, f.value)) := by
  rw [FieldMap.gather, List.foldl_map, List.foldl_filter]
  rfl

theorem given_lower (fs : List Field) (name : String) :
    FieldMap.given (fs.map fun f => (Ascii.lower f.name, f.value)) (Ascii.lower name) =
      (fs.filter (Field.named name)).map (·.value) := by
  have hnamed : ∀ f : Field, decide (Ascii.lower f.name = Ascii.lower name) = f.named name :=
    fun f => by rw [Bool.eq_iff_iff, Field.named_iff, decide_eq_true_iff]
  simp only [FieldMap.given, List.filter_map, List.map_map, Function.comp_def, hnamed]

theorem values_toMap (l : FieldList) (name : String) :
    l.toMap.values (Ascii.lower name) =
      ((l.fields.filter (Field.named name)).filter Field.valid).map (·.value) := by
  rw [toMap_eq_gather, FieldMap.values_gather, given_lower, List.filter_filter,
    List.filter_filter]
  congr 2
  funext f
  exact Bool.and_comm ..

theorem toMap_keeps_iff (l : FieldList) :
    (∀ name, l.toMap.values (Ascii.lower name) =
        (l.fields.filter (Field.named name)).map (·.value)) ↔
      ∀ f ∈ l.fields, f.valid = true := by
  constructor
  · intro h f hf
    have hlength := congrArg List.length (h f.name)
    rw [values_toMap, List.length_map, List.length_map] at hlength
    have hall : (l.fields.filter (Field.named f.name)).filter Field.valid =
        l.fields.filter (Field.named f.name) :=
      List.filter_sublist.eq_of_length hlength
    have hnamed : f ∈ l.fields.filter (Field.named f.name) :=
      List.mem_filter.2 ⟨hf, Field.named_iff.2 rfl⟩
    exact List.filter_eq_self.1 hall f hnamed
  · intro h name
    have hall : (l.fields.filter (Field.named name)).filter Field.valid =
        l.fields.filter (Field.named name) :=
      List.filter_eq_self.2 fun f hf => h f (List.mem_of_mem_filter hf)
    rw [values_toMap, hall]

/-- The user agent that is put behind a list, if one is, is a value. -/
def AgentFits (raw : Option (List RawField)) (agent : Option String) : Prop :=
  (RawField.pairs raw).any (Field.named Header.userAgent) = true ∨
    ∀ value ∈ agent, Header.validValue value = true

theorem valid_added_iff :
    (∀ f ∈ added agent fs, f.valid = true) ↔
      fs.any (Field.named Header.userAgent) = true ∨
        ∀ value ∈ agent, Header.validValue value = true := by
  have hname : Header.validName Header.userAgent = true := by decide
  rw [added]
  cases fs.any (Field.named Header.userAgent) with
  | true => simp
  | false => simp [Field.valid, hname]

theorem valid_arranged_iff (hvalid : ∀ f ∈ fs, f.valid = true) :
    (∀ f ∈ arranged agent text fs, f.valid = true) ↔ ∀ f ∈ added agent fs, f.valid = true := by
  rw [arranged, List.forall_mem_append]
  constructor
  · exact fun h => h.2
  · exact fun h => ⟨fun f hf => hvalid f (List.mem_of_mem_filter hf), h⟩

theorem valid_iff_agentFits (h : build? raw agent text = some l) :
    (∀ f ∈ l.fields, f.valid = true) ↔ AgentFits raw agent := by
  obtain ⟨own, rfl, hvalid, rfl⟩ := build?_eq_some_iff.1 h
  rw [valid_arranged_iff hvalid, valid_added_iff, AgentFits, pairs_map_toRaw]

open Multipart (dashes crlf fieldLine headLines segment)

variable {resolve : FileResolver} {p : Part} {s : Multipart.Segment}

theorem sublist_of_segment (h : build? p.headers agent text = some l)
    (hs : (segment resolve agent p).outcome = .ok s) : s.fields.fields.Sublist l.fields := by
  obtain ⟨own, hraw, -, rfl⟩ := build?_eq_some_iff.1 h
  obtain ⟨-, hfields, -⟩ := Multipart.fields_of_segment hs
  have hgiven : p.given = own := by rw [Part.given, hraw, pairs_map_toRaw]
  have hkept : p.kept = (own.filter fun f => text || !f.named Header.contentEncoding).filter
      fun f => !f.named Header.contentType && !f.named Header.contentLength &&
        !f.named Header.contentEncoding := by
    rw [Part.kept, hgiven, List.filter_filter]
    apply List.filter_congr
    intro f _
    cases f.named Header.contentEncoding <;> simp
  rw [hfields, hgiven, arranged, hkept]
  exact List.filter_sublist.append_right _

theorem type_of_segment (h : build? p.headers agent text = some l)
    (hs : (segment resolve agent p).outcome = .ok s) {value : String}
    (hvalue : s.contentType = some value) :
    ∃ f ∈ l.fields, f.named Header.contentType = true ∧ f.value = value := by
  obtain ⟨own, hraw, -, rfl⟩ := build?_eq_some_iff.1 h
  obtain ⟨-, -, htype⟩ := Multipart.fields_of_segment hs
  have hgiven : p.given = own := by rw [Part.given, hraw, pairs_map_toRaw]
  rw [htype, Part.type?, hgiven] at hvalue
  obtain ⟨f, hlast, rfl⟩ := Option.map_eq_some_iff.1 hvalue
  obtain ⟨hf, hnamed⟩ := List.mem_filter.1 (List.mem_of_getLast? hlast)
  have hother : f.named Header.contentEncoding = false := Field.not_named hnamed (by decide)
  refine ⟨f, ?_, hnamed, rfl⟩
  rw [arranged, List.mem_append, List.mem_filter]
  exact .inl ⟨hf, by simp [hother]⟩

/-- A list that is built is valid, and grouping keeps all of it, exactly if the user agent fits. If
so, the head of a part is read as lines of its entries, one of them for the type, and the length. -/
theorem built_valid_iff (h : build? raw agent text = some l) :
    ((∀ f ∈ l.fields, f.valid = true) ↔ AgentFits raw agent) ∧
    ((∀ name, l.toMap.values (Ascii.lower name) =
        (l.fields.filter (Field.named name)).map (·.value)) ↔ AgentFits raw agent) ∧
    (AgentFits raw agent → ∀ resolve p s boundary, p.headers = raw →
      (segment resolve agent p).outcome = .ok s →
        s.fields.fields.Sublist l.fields ∧
        (∀ value, s.contentType = some value →
          ∃ f ∈ l.fields, f.named Header.contentType = true ∧ f.value = value) ∧
        ∃ rest, s.head boundary = dashes ++ Utf8.encode boundary.toList ++ crlf ++ rest ∧
          headLines rest = (s.lines, [])) := by
  have hvalid := valid_iff_agentFits h
  refine ⟨hvalid, (toMap_keeps_iff l).trans hvalid, ?_⟩
  rintro hfits resolve p s boundary rfl hs
  have hsublist := sublist_of_segment h hs
  have htype : ∀ value, s.contentType = some value →
      ∃ f ∈ l.fields, f.named Header.contentType = true ∧ f.value = value :=
    fun value hvalue => type_of_segment h hs hvalue
  refine ⟨hsublist, htype, s.lines.flatMap (· ++ crlf) ++ (crlf ++ []), ?_, ?_⟩
  · rw [s.head_eq, List.append_nil]
  · apply s.headLines_eq
    · intro f hf
      exact hvalid.2 hfits f (hsublist.subset hf)
    · intro value hvalue
      obtain ⟨f, hf, -, rfl⟩ := htype value hvalue
      exact (Multipart.unbroken_of_valid (hvalid.2 hfits f hf)).2

theorem built_valid_iff_of_own_agent :
    ∃ l, build? (some [[some "User-Agent", some "own"], [some "Accept", some "*/*"]])
        (some "a\r\nX-Extra: 1") false = some l ∧
      (∀ f ∈ l.fields, f.valid = true) ∧
      l.toMap.values "user-agent" = ["own"] := by
  have hbuilt : build? (some [[some "User-Agent", some "own"], [some "Accept", some "*/*"]])
      (some "a\r\nX-Extra: 1") false = some ⟨[⟨"User-Agent", "own"⟩, ⟨"Accept", "*/*"⟩]⟩ := by
    decide
  obtain ⟨hvalid, hkeeps, -⟩ := built_valid_iff hbuilt
  have hfits : AgentFits (some [[some "User-Agent", some "own"], [some "Accept", some "*/*"]])
      (some "a\r\nX-Extra: 1") := .inl (by decide)
  refine ⟨_, hbuilt, hvalid.2 hfits, ?_⟩
  have hown := hkeeps.2 hfits "user-agent"
  have hlower : Ascii.lower "user-agent" = "user-agent" := by decide
  rw [hlower] at hown
  rw [hown]
  decide

/-- A user agent with a line break in it is no value. Grouping drops it, and the head of a part
gets a line that no entry has. -/
theorem built_with_broken_agent :
    ∃ l s rest, build? (some []) (some "a\r\nX-Extra: 1") false = some l ∧
      (∃ f ∈ l.fields, f.valid = false) ∧ l.toMap.entries = [] ∧
      (segment (fun _ => none) (some "a\r\nX-Extra: 1") ⟨some [], some (.text "")⟩).outcome =
        .ok s ∧
      s.head "b" = dashes ++ Utf8.encode "b".toList ++ crlf ++ rest ∧
      Utf8.encode "X-Extra: 1".toList ∈ (headLines rest).1 ∧
      ∀ f ∈ l.fields, fieldLine f.name f.value ≠ Utf8.encode "X-Extra: 1".toList := by
  have hlines : headLines ([Utf8.encode "user-agent: a".toList, Utf8.encode "X-Extra: 1".toList,
      Utf8.encode "Content-Length: 0".toList].flatMap (· ++ crlf) ++ (crlf ++ [])) =
        ([Utf8.encode "user-agent: a".toList, Utf8.encode "X-Extra: 1".toList,
          Utf8.encode "Content-Length: 0".toList], []) :=
    Multipart.headLines_written (by decide) []
  refine ⟨⟨[⟨"user-agent", "a\r\nX-Extra: 1"⟩]⟩, ⟨⟨[⟨"user-agent", "a\r\nX-Extra: 1"⟩]⟩, none,
    .bytes [], some 0⟩, [Utf8.encode "user-agent: a".toList, Utf8.encode "X-Extra: 1".toList,
      Utf8.encode "Content-Length: 0".toList].flatMap (· ++ crlf) ++ (crlf ++ []), by decide,
    by decide, by decide, by decide, by decide, ?_, by decide⟩
  rw [hlines]
  simp

end FieldList
end Outbound
