import Outbound.Proofs.Header.Validity

/-! A list of fields as a multimap whose names are compared without letter case. Setting and
removing touch one name only: what stands under it afterwards was left by the last edit of it. While
only fields on the wire are set, all of the list are such fields, and grouping by name keeps all of
them, so that a name is looked up in the list as in the map. -/

namespace Outbound

theorem Field.named_congr {n name : String} (h : Ascii.lower n = Ascii.lower name) :
    Field.named n = Field.named name := by
  funext f
  rw [Bool.eq_iff_iff, Field.named_iff, Field.named_iff, h]

namespace FieldList

variable {l : FieldList}

inductive Edit
  | set (name value : String)
  | removeAll (name : String)
  deriving DecidableEq, Repr

namespace Edit

variable {e : Edit}

def apply (l : FieldList) : Edit → FieldList
  | .set name value => l.set name value
  | .removeAll name => l.removeAll name

/-- What is set is a field on the wire. -/
def Valid : Edit → Prop
  | .set name value => Header.validName name = true ∧ Header.validValue value = true
  | .removeAll _ => True

instance : DecidablePred Valid
  | .set _ _ => inferInstanceAs (Decidable (_ ∧ _))
  | .removeAll _ => inferInstanceAs (Decidable True)

/-- The fields that an edit leaves under a name, if it is an edit of this name. -/
def leaves? (name : String) : Edit → Option (List Field)
  | .set n value => if Ascii.same n name then some [⟨n, value⟩] else none
  | .removeAll n => if Ascii.same n name then some [] else none

theorem valid_apply (hl : ∀ f ∈ l.fields, f.valid = true) (he : e.Valid) :
    ∀ f ∈ (e.apply l).fields, f.valid = true := by
  intro f hf
  cases e with
  | set n value =>
    rcases List.mem_append.1 hf with hf | hf
    · exact hl f (List.mem_of_mem_filter hf)
    · rw [List.mem_singleton.1 hf, Field.valid, he.1, he.2]
      rfl
  | removeAll n => exact hl f (List.mem_of_mem_filter hf)

theorem leaves?_set (n value name : String) :
    leaves? name (.set n value) =
      if Ascii.lower n = Ascii.lower name then some [⟨n, value⟩] else none := by
  simp [leaves?]

theorem leaves?_removeAll (n name : String) :
    leaves? name (.removeAll n) =
      if Ascii.lower n = Ascii.lower name then some [] else none := by
  simp [leaves?]

theorem filter_apply (e : Edit) (l : FieldList) (name : String) :
    (e.apply l).fields.filter (Field.named name) =
      (e.leaves? name).getD (l.fields.filter (Field.named name)) := by
  cases e with
  | set n value =>
    rw [leaves?_set, apply]
    by_cases hname : Ascii.lower n = Ascii.lower name
    · rw [if_pos hname, Option.getD_some, ← Field.named_congr hname, filter_set_self]
    · rw [if_neg hname, Option.getD_none, filter_set (Ne.symm hname)]
  | removeAll n =>
    rw [leaves?_removeAll, apply]
    by_cases hname : Ascii.lower n = Ascii.lower name
    · rw [if_pos hname, Option.getD_some, ← Field.named_congr hname, filter_removeAll_self]
    · rw [if_neg hname, Option.getD_none, filter_removeAll (Ne.symm hname)]

end Edit

def edited (l : FieldList) (edits : List Edit) : FieldList := edits.foldl Edit.apply l

theorem valid_edited (hl : ∀ f ∈ l.fields, f.valid = true) {edits : List Edit}
    (hedits : ∀ e ∈ edits, e.Valid) : ∀ f ∈ (l.edited edits).fields, f.valid = true := by
  induction edits generalizing l with
  | nil => exact hl
  | cons e edits ih =>
    obtain ⟨he, hrest⟩ := List.forall_mem_cons.1 hedits
    exact ih (Edit.valid_apply hl he) hrest

theorem filter_edited (l : FieldList) (edits : List Edit) (name : String) :
    (l.edited edits).fields.filter (Field.named name) =
      (edits.filterMap (Edit.leaves? name)).getLast?.getD (l.fields.filter (Field.named name)) := by
  induction edits using List.reverseRecOn with
  | nil => rfl
  | append_singleton edits e ih =>
    have hlast : l.edited (edits ++ [e]) = e.apply (l.edited edits) := List.foldl_append
    rw [hlast, Edit.filter_apply, ih, List.filterMap_append]
    cases hleft : e.leaves? name <;> simp [hleft]

theorem filter_not_set (l : FieldList) (name value : String) :
    (l.set name value).fields.filter (fun f => !f.named name) =
      l.fields.filter fun f => !f.named name := by
  have hnamed : Field.named name ⟨name, value⟩ = true := Field.named_iff.2 rfl
  rw [set_fields, List.filter_append, List.filter_filter]
  simp [hnamed]

theorem getLast?_set (l : FieldList) (name value : String) :
    (l.set name value).fields.getLast? = some ⟨name, value⟩ := List.getLast?_concat

theorem count_eq_sub (l : FieldList) (name : String) :
    l.count name = l.fields.length - (l.removeAll name).fields.length := by
  have h := count_add_length_removeAll l name
  omega

theorem toMap_of_valid (hl : ∀ f ∈ l.fields, f.valid = true) :
    l.toMap = .gather (l.fields.map fun f => (Ascii.lower f.name, f.value)) := by
  rw [toMap_eq_gather, List.filter_eq_self.2 hl]

theorem entries_toMap (hl : ∀ f ∈ l.fields, f.valid = true) :
    l.toMap.entries = (l.fields.map fun f => Ascii.lower f.name).eraseDups.map fun name =>
      (name, (l.fields.filter fun f => Ascii.lower f.name = name).map (·.value)) := by
  rw [toMap_of_valid hl, FieldMap.entries_gather, List.map_map]
  refine List.map_congr_left fun name _ => Prod.ext rfl ?_
  simp only [FieldMap.given, List.filter_map, List.map_map, Function.comp_def]

theorem length_toMap (hl : ∀ f ∈ l.fields, f.valid = true) :
    l.toMap.toList.length = l.fields.length := by
  rw [toMap_of_valid hl, (FieldMap.toList_gather_perm _).length_eq, List.length_map]

theorem get?_eq_getLast?_toMap (hl : ∀ f ∈ l.fields, f.valid = true) (name : String) :
    l.get? name = (l.toMap.values (Ascii.lower name)).getLast? := by
  rw [(toMap_keeps_iff l).2 hl name, List.getLast?_map, get?_eq_getLast?]

/-- A list of fields on the wire, edited in any way. Looking up finds the last field of a name. A
field that is set is the only one of its name and the last one, and removing answers how many there
were; neither touches the others, so that under each name stands what the last edit of it has left.
Grouped, the list gives each name once, in first-seen order, with all its values in order, and what
is looked up is the last value of the group. -/
theorem edited_agrees_with_map (hl : ∀ f ∈ l.fields, f.valid = true) {edits : List Edit}
    (hedits : ∀ e ∈ edits, e.Valid) :
    let s := l.edited edits
    (∀ name, s.get? name = (s.fields.filter (Field.named name)).getLast?.map (·.value)) ∧
    (∀ name value,
      (s.set name value).fields.filter (Field.named name) = [⟨name, value⟩] ∧
      (s.set name value).fields.getLast? = some ⟨name, value⟩ ∧
      (s.set name value).get? name = some value ∧
      (s.set name value).fields.filter (fun f => !f.named name) =
        s.fields.filter fun f => !f.named name) ∧
    (∀ name,
      s.count name = (s.fields.filter (Field.named name)).length ∧
      s.count name = s.fields.length - (s.removeAll name).fields.length ∧
      (s.removeAll name).fields = s.fields.filter fun f => !f.named name) ∧
    (∀ name, s.fields.filter (Field.named name) =
      (edits.filterMap (Edit.leaves? name)).getLast?.getD
        (l.fields.filter (Field.named name))) ∧
    s.toMap.entries = (s.fields.map fun f => Ascii.lower f.name).eraseDups.map (fun name =>
      (name, (s.fields.filter fun f => Ascii.lower f.name = name).map (·.value))) ∧
    s.toMap.toList.length = s.fields.length ∧
    ∀ name, s.get? name = (s.toMap.values (Ascii.lower name)).getLast? := by
  intro s
  have hs : ∀ f ∈ s.fields, f.valid = true := valid_edited hl hedits
  refine ⟨get?_eq_getLast? s, fun name value => ?_, fun name => ?_, filter_edited l edits,
    entries_toMap hs, length_toMap hs, get?_eq_getLast?_toMap hs⟩
  · exact ⟨filter_set_self s name value, getLast?_set s name value, get?_set_self s name value,
      filter_not_set s name value⟩
  · exact ⟨List.countP_eq_length_filter, count_eq_sub s name, rfl⟩

theorem edited_agrees_with_map_of_mixed_case :
    let l : FieldList := ⟨[⟨"X-A", "1"⟩, ⟨"Accept", "*/*"⟩, ⟨"x-a", "2"⟩, ⟨"B", "3"⟩]⟩
    let edits : List Edit := [.set "accept" "text/html", .removeAll "ACCEPT", .set "b" "4"]
    let s := l.edited edits
    s = ⟨[⟨"X-A", "1"⟩, ⟨"x-a", "2"⟩, ⟨"b", "4"⟩]⟩ ∧
    s.get? "x-A" = some "2" ∧ s.count "X-a" = 2 ∧
    s.fields.filter (Field.named "B") = [⟨"b", "4"⟩] ∧
    s.toMap.entries = [("x-a", ["1", "2"]), ("b", ["4"])] := by
  intro l edits s
  have hs : l.edited edits = ⟨[⟨"X-A", "1"⟩, ⟨"x-a", "2"⟩, ⟨"b", "4"⟩]⟩ := by decide +kernel
  obtain ⟨hget, -, hremove, hleft, hentries, -, -⟩ :=
    @edited_agrees_with_map l (by decide +kernel) edits (by decide +kernel)
  refine ⟨hs, ?_, ?_, ?_, ?_⟩
  · rw [hget "x-A", hs]
    decide +kernel
  · rw [(hremove "X-a").1, hs]
    decide +kernel
  · rw [hleft "B"]
    decide +kernel
  · rw [hentries, hs]
    decide +kernel

end FieldList
end Outbound
