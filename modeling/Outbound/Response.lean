import Outbound.Request.Descriptor
import Outbound.Base64
import Outbound.Chunks

/-! What the caller sees of a response: each header name once, its values joined, and the body in
the shape that the request asked for. -/

namespace Outbound.Response

def fieldText (value : Bytes) : String := String.ofList (Utf8.decode value)

/-- Joins a text to what stands under its name, or else puts both at the end. -/
def merge (name text : String) : List (String × String) → List (String × String)
  | [] => [(name, text)]
  | (n, shown) :: rest =>
    if n = name then (n, shown ++ ", " ++ text) :: rest else (n, shown) :: merge name text rest

def headers (fields : FieldMap Bytes) : List (String × String) :=
  fields.toList.foldl (fun shown f => merge f.1 (fieldText f.2) shown) []

/-- The fields of a response head; a pair that is no field is left out. -/
def fieldMap (pairs : List (Bytes × Bytes)) : FieldMap Bytes :=
  pairs.foldl (fun m (name, value) =>
    match Header.name? name with
    | some name => if value.all Header.isValueByte then m.append name value else m
    | none => m) {}

def encodeBody (type : ResponseType) (body : Bytes) : String :=
  match type with
  | .text => String.ofList (Utf8.decode body)
  | .base64 => String.ofList (Base64.encode body)
  | .other _ => ""

/-- Text that is delivered as it arrives comes in pieces of at most this many bytes. -/
def pieceLimit : Nat := 8192

def pieces (chunk : Bytes) : List Bytes := chunksOf pieceLimit chunk

end Outbound.Response
