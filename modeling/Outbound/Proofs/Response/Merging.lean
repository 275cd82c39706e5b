import Outbound.Proofs.Header.Gathering
import Outbound.Proofs.Text.Progressive
import Outbound.Response

/-! What a caller is shown of the headers of a response. The fields are merged one after another
into what is shown already, so what is shown at any moment are the names that have come, in
first-seen order, each with the texts of all its values so far. -/

namespace Outbound.Response

open FieldMap (Grouped gather given)

variable {m : FieldMap Bytes} {shown : List (String × String)} {names : List String}
  {fields : List (String × Bytes)} {name text : String}

theorem merge_of_not_mem (text : String) (h : name ∉ shown.map (·.1)) :
    merge name text shown = shown ++ [(name, text)] := by
  induction shown with
  | nil => rfl
  | cons s shown ih =>
    rw [List.map_cons, List.mem_cons, not_or] at h
    rw [merge, if_neg (Ne.symm h.1), ih h.2, List.cons_append]

theorem merge_of_mem (texts : String → String) (text : String) (hnodup : names.Nodup)
    (h : name ∈ names) :
    merge name text (names.map fun n => (n, texts n)) =
      names.map fun n => (n, if n = name then texts n ++ ", " ++ text else texts n) := by
  induction names with
  | nil => cases h
  | cons n names ih =>
    obtain ⟨hnew, hrest⟩ := List.nodup_cons.1 hnodup
    rw [List.map_cons, List.map_cons, merge]
    by_cases hname : n = name
    · subst hname
      have hothers : names.map (fun o => (o, if o = n then texts o ++ ", " ++ text else texts o)) =
          names.map fun o => (o, texts o) := by
        refine List.map_congr_left fun o ho => ?_
        have hne : o ≠ n := fun heq => hnew (heq ▸ ho)
        rw [if_neg hne]
      rw [if_pos rfl, if_pos rfl, hothers]
    · have hmem : name ∈ names := (List.mem_cons.1 h).resolve_left (Ne.symm hname)
      rw [if_neg hname, if_neg hname, ih hrest hmem]

def merged (fields : List (String × Bytes)) : List (String × String) :=
  fields.foldl (fun shown f => merge f.1 (fieldText f.2) shown) []

def joined (fields : List (String × Bytes)) (name : String) : String :=
  String.intercalate ", " ((given fields name).map fieldText)

theorem merged_concat (fields : List (String × Bytes)) (f : String × Bytes) :
    merged (fields ++ [f]) = merge f.1 (fieldText f.2) (merged fields) := List.foldl_append

theorem given_eq_nil_iff : given fields name = [] ↔ name ∉ fields.map (·.1) := by
  rw [given, List.map_eq_nil_iff, List.filter_eq_nil_iff, List.mem_map, not_exists]
  simp

theorem joined_concat_of_ne {f : String × Bytes} (h : f.1 ≠ name) :
    joined (fields ++ [f]) name = joined fields name := by
  rw [joined, joined, FieldMap.given_concat, if_neg h, List.append_nil]

theorem joined_concat_self (fields : List (String × Bytes)) (f : String × Bytes) :
    joined (fields ++ [f]) f.1 =
      if f.1 ∈ fields.map (·.1) then joined fields f.1 ++ ", " ++ fieldText f.2
      else fieldText f.2 := by
  rw [joined, FieldMap.given_concat, if_pos rfl, List.map_append, List.map_singleton]
  by_cases h : f.1 ∈ fields.map (·.1)
  · have hsome : (given fields f.1).map fieldText ≠ [] := by
      rw [Ne, List.map_eq_nil_iff, given_eq_nil_iff]
      exact not_not_intro h
    rw [if_pos h, String.intercalate_append_of_ne_nil hsome (List.cons_ne_nil _ _),
      String.intercalate_singleton, joined]
  · rw [if_neg h, given_eq_nil_iff.2 h]
    exact String.intercalate_singleton

def listing (names : List String) (fields : List (String × Bytes)) : List (String × String) :=
  names.map fun name => (name, joined fields name)

theorem merge_listing_of_mem {f : String × Bytes} (hnodup : names.Nodup) (hname : f.1 ∈ names)
    (h : f.1 ∈ fields.map (·.1)) :
    merge f.1 (fieldText f.2) (listing names fields) = listing names (fields ++ [f]) := by
  rw [listing, merge_of_mem _ _ hnodup hname]
  refine List.map_congr_left fun name _ => Prod.ext rfl ?_
  by_cases hsame : name = f.1
  · subst hsame
    rw [joined_concat_self, if_pos h, if_pos rfl]
  · rw [joined_concat_of_ne (Ne.symm hsame), if_neg hsame]

theorem merge_listing_of_not_mem {f : String × Bytes} (hname : f.1 ∉ names)
    (h : f.1 ∉ fields.map (·.1)) :
    merge f.1 (fieldText f.2) (listing names fields) =
      listing (names ++ [f.1]) (fields ++ [f]) := by
  have hnew : f.1 ∉ (listing names fields).map (·.1) := by
    rw [listing, List.map_map, Function.comp_def, List.map_id']
    exact hname
  have hothers : listing names fields = listing names (fields ++ [f]) := by
    refine List.map_congr_left fun name hmem => Prod.ext rfl ?_
    have hne : f.1 ≠ name := fun heq => hname (heq ▸ hmem)
    exact (joined_concat_of_ne hne).symm
  rw [merge_of_not_mem _ hnew, hothers, listing, listing, List.map_append, List.map_singleton,
    joined_concat_self, if_neg h]

/-- The invariant of the loop. Nothing is asked of the order in which the names come. -/
theorem merged_eq (fields : List (String × Bytes)) :
    merged fields = listing (fields.map (·.1)).eraseDups fields := by
  induction fields using List.reverseRecOn with
  | nil => rfl
  | append_singleton fields f ih =>
    have hnodup : (fields.map (·.1)).eraseDups.Nodup :=
      FieldMap.names_gather fields ▸ (FieldMap.gather_grouped fields).nodup
    rw [merged_concat, ih, List.map_append, List.map_singleton, FieldMap.eraseDups_concat]
    by_cases h : f.1 ∈ fields.map (·.1)
    · rw [if_pos h]
      exact merge_listing_of_mem hnodup (List.mem_eraseDups.2 h) h
    · rw [if_neg h]
      exact merge_listing_of_not_mem (mt List.mem_eraseDups.1 h) h

theorem given_toList (h : m.names.Nodup) (name : String) :
    given m.toList name = m.values name := by
  rw [given, FieldMap.filter_toList h, List.map_map, Function.comp_def, List.map_id']

theorem headers_of_grouped (h : m.Grouped) :
    headers m =
      m.entries.map fun e => (e.1, String.intercalate ", " (e.2.map fieldText)) := by
  have hmerged : headers m = merged m.toList := rfl
  rw [hmerged, merged_eq, listing, FieldMap.eraseDups_toList h, FieldMap.entries_eq h.nodup,
    List.map_map]
  refine List.map_congr_left fun name _ => Prod.ext rfl ?_
  rw [joined, given_toList h.nodup]
  rfl

/-- Fields are appended to a map in any order, with any values. Each name is shown once, where it
was first seen, with all its values in the order in which they came; empty ones count. A value is
shown as the text that it is, with what is no text replaced. -/
theorem headers_of_appends (appends : List (String × Bytes)) :
    headers (gather appends) =
      (appends.map (·.1)).eraseDups.map (fun name =>
        (name, String.intercalate ", "
          ((appends.filter (·.1 = name)).map fun a => String.ofList (Utf8.decode a.2)))) ∧
    (∀ value text, Utf8.Lossy value text ↔ text = Utf8.decode value) ∧
    ((headers (gather appends)).map (·.1)).Nodup := by
  have hgrouped := FieldMap.gather_grouped appends
  have hshown := headers_of_grouped hgrouped
  refine ⟨?_, fun _ _ => Utf8.lossy_iff, ?_⟩
  · rw [hshown, FieldMap.entries_gather, List.map_map]
    refine List.map_congr_left fun name _ => Prod.ext rfl ?_
    simp only [Function.comp_apply, given, List.map_map, Function.comp_def, fieldText]
  · rw [hshown, List.map_map]
    exact hgrouped.nodup

theorem headers_of_appends_of_repeated_names :
    headers (gather [("set-cookie", [0x61]), ("x-a", []), ("set-cookie", []), ("x-b", [0xff]),
      ("x-a", []), ("set-cookie", [0x62])]) =
        [("set-cookie", "a, , b"), ("x-a", ", "), ("x-b", "\ufffd")] := by
  rw [(headers_of_appends _).1]
  decide

end Outbound.Response
