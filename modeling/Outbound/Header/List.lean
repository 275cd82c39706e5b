import Outbound.Header.Map
import Outbound.Text.Blank

/-! An ordered list of header fields. Names keep the letter case that the caller chose and are
compared without regard to it; of several fields with one name the last is looked up. -/

namespace Outbound

/-- A header entry as a caller sends it: any number of items, each of which may be missing. Two
present items make a field. -/
abbrev RawField := List (Option String)

structure Field where
  name : String
  value : String
  deriving DecidableEq, Repr, Inhabited

namespace Field

def named (name : String) (f : Field) : Bool := Ascii.same f.name name

def valid (f : Field) : Bool := Header.validName f.name && Header.validValue f.value

def ofRaw? : RawField → Option Field
  | [some name, some value] => if valid ⟨name, value⟩ then some ⟨name, value⟩ else none
  | _ => none

end Field

structure FieldList where
  fields : List Field := []
  deriving DecidableEq, Repr, Inhabited

namespace FieldList

def get? (l : FieldList) (name : String) : Option String :=
  (l.fields.reverse.find? (Field.named name)).map (·.value)

def count (l : FieldList) (name : String) : Nat := l.fields.countP (Field.named name)

def removeAll (l : FieldList) (name : String) : FieldList :=
  ⟨l.fields.filter fun f => !f.named name⟩

def set (l : FieldList) (name value : String) : FieldList :=
  ⟨(l.removeAll name).fields ++ [⟨name, value⟩]⟩

def contentType? (l : FieldList) : Option String := l.get? Header.contentType

def contentEncoding? (l : FieldList) : Option String := l.get? Header.contentEncoding

/-- Whether a text asks for gzip; blanks around it and letter case do not count. -/
def asksGzip (encoding : String) : Bool :=
  Ascii.same (String.ofList (Text.trim encoding.toList)) "gzip"

def isGzip (l : FieldList) : Bool := l.contentEncoding?.any asksGzip

def withUserAgent (l : FieldList) : Option String → FieldList
  | none => l
  | some agent =>
    if (l.get? Header.userAgent).isSome then l else ⟨l.fields ++ [⟨Header.userAgent, agent⟩]⟩

/-- Reads a whole list, which is refused when it is absent or when one entry is no field. Only the
body that is a text may be encoded. -/
def build? (raw : Option (List RawField)) (userAgent : Option String) (textBody : Bool) :
    Option FieldList := do
  let fields ← (← raw).mapM Field.ofRaw?
  let l := withUserAgent ⟨fields⟩ userAgent
  some (if textBody then l else l.removeAll Header.contentEncoding)

def mappable (l : FieldList) : Bool := l.fields.length ≤ FieldMap.mostFields

/-- The fields grouped by name, where a map has room for them. An entry that is no field on the wire
is left out. -/
def toMap (l : FieldList) : FieldMap String :=
  l.fields.foldl (fun m f => if f.valid then m.append (Ascii.lower f.name) f.value else m) {}

@[simp] theorem removeAll_fields (l : FieldList) (name : String) :
    (l.removeAll name).fields = l.fields.filter fun f => !f.named name := rfl

@[simp] theorem set_fields (l : FieldList) (name value : String) :
    (l.set name value).fields = (l.fields.filter fun f => !f.named name) ++ [⟨name, value⟩] := rfl

theorem count_add_length_removeAll (l : FieldList) (name : String) :
    l.count name + (l.removeAll name).fields.length = l.fields.length := by
  have h := List.length_eq_countP_add_countP (Field.named name) (l := l.fields)
  simp only [Bool.not_eq_true] at h
  simp [count, ← List.countP_eq_length_filter, h]

theorem get?_set_self (l : FieldList) (name value : String) :
    (l.set name value).get? name = some value := by
  simp [get?, Field.named, Ascii.same]

end FieldList
end Outbound
