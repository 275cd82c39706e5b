import Outbound.Request.Descriptor
import Outbound.Json.Decode
import Outbound.Failure

/-! Reading a descriptor from JSON. The fields have types of their own; the body is decided by the
one key of `data` that is present. An entry of a header list that is no array becomes the empty
entry, and an item that is no string becomes a missing item, so that lists keep their length. -/

namespace Outbound.Descriptor

open Json (DecodeError Reader)

def readId : Reader RequestId := fun v => do
  match RequestId.ofInt? (← Reader.int64 v) with
  | some id => return id
  | none => throw (.refused RequestId.zeroMessage)

structure Draft where
  method : Option String := none
  url : Option String := none
  requestId : Option RequestId := none
  headers : Option (List Json) := none
  data : Option (List (String × Json)) := none
  responseType : String := "text"
  incrementalUpdates : Bool := false
  timeout : Nat := 0

namespace Draft

def names : List String :=
  ["method", "url", "requestId", "headers", "data", "responseType", "incrementalUpdates", "timeout"]

def required : Nat := 3

def put (d : Draft) (name : String) (v : Json) : Except DecodeError Draft :=
  match name with
  | "method" => (Reader.string v).map fun x => { d with method := some x }
  | "url" => (Reader.string v).map fun x => { d with url := some x }
  | "requestId" => (readId v).map fun x => { d with requestId := some x }
  | "headers" => (Reader.optional Reader.sequence v).map fun x => { d with headers := x }
  | "data" => (Reader.optional Reader.map v).map fun x => { d with data := x }
  | "responseType" => (Reader.string v).map fun x => { d with responseType := x }
  | "incrementalUpdates" => (Reader.boolean v).map fun x => { d with incrementalUpdates := x }
  | "timeout" => (Reader.nat64 v).map fun x => { d with timeout := x }
  | _ => .ok d

def read : Reader Draft
  | .object members => Reader.fields {} put members
  | .array items =>
    Reader.positional names required "struct WireDescriptor with 8 elements" {} put .ok items
  | v => .error (.invalidType v "struct WireDescriptor")

end Draft

def readEntry : Json → RawField
  | .array items => items.map Json.string?
  | _ => []

def readContent (members : List (String × Json)) : Option PartContent :=
  match (Json.member? members "string").bind Json.string?,
    (Json.member? members "uri").bind Json.string? with
  | some content, none => some (.text content)
  | none, some uri => some (.file uri)
  | _, _ => none

def readPart : Json → Part
  | .object members =>
    { headers := ((Json.member? members "headers").bind Json.array?).map (·.map readEntry)
      content := readContent members }
  | _ => {}

/-- Exactly one of the three keys decides the body; a key whose value is null counts as present. -/
def readBody : Option (List (String × Json)) → Except Failure Body
  | none => .ok .empty
  | some members =>
    match Json.member? members "string", Json.member? members "uri",
      Json.member? members "formData" with
    | some (.string content), none, none => .ok (.text content)
    | none, some (.string uri), none => .ok (.file uri)
    | none, none, some (.array parts) => .ok (.multipart (parts.map readPart))
    | _, _, _ => .error .unrecognizedBody

def ofDraft (d : Draft) : Except Failure Descriptor := do
  let missing name := Failure.invalidDescriptor (DecodeError.missingField name).message
  let some method := d.method | throw (missing "method")
  let some url := d.url | throw (missing "url")
  let some id := d.requestId | throw (missing "requestId")
  let body ← readBody d.data
  return {
    id, method, url, body
    headers := d.headers.map (·.map readEntry)
    responseType := .ofHint d.responseType
    incremental := d.incrementalUpdates
    timeoutMs := d.timeout }

def ofJson (v : Json) : Except Failure Descriptor :=
  match Draft.read v with
  | .ok draft => ofDraft draft
  | .error e => .error (.invalidDescriptor e.message)

/-- The identity that can be told even from a descriptor that is refused. -/
def readableId? (v : Json) : Option RequestId :=
  ((v.get? "requestId").bind Json.int64?).bind RequestId.ofInt?

end Outbound.Descriptor
