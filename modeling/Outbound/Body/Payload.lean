import Outbound.Body.Multipart
import Outbound.Gzip

/-! The body of a request as it goes on the wire. A text needs a content type and is compressed when
its encoding asks for gzip; a file needs a content type; some methods have a body even if it is
empty. -/

namespace Outbound

inductive Payload
  | absent
  | bytes (data : Bytes)
  | stream (source : ByteSource) (length : Option Nat)
  | multipart (body : Multipart)
  deriving DecidableEq, Repr, Inhabited

namespace Payload

/-- The length, if it is known. Of no body it is zero. -/
def length : Payload → Option Nat
  | .absent => some 0
  | .bytes data => some data.length
  | .stream _ length => length
  | .multipart body => body.contentLength

def countable : Payload → Bool
  | .multipart body => body.countable
  | _ => true

def drain (fs : FileSystem) : Payload → Except RoomError (List Delivery)
  | .absent => .ok []
  | .bytes data => .ok [.data data]
  | .stream source _ => source.drain fs
  | .multipart body => body.drain fs

def debug : Payload → String
  | .absent => "Absent"
  | .bytes data => "Bytes(" ++ toString data.length ++ ")"
  | .stream _ length => "Stream \x7b length: " ++ showLength length ++ " \x7d"
  | .multipart body => "Multipart(" ++ body.debug ++ ")"

structure Means where
  resolve : FileResolver
  userAgent : Option String
  boundary : String

def ofText (pack : Bytes → Bytes) (content : String) (fields : FieldList) : Bytes :=
  let data := Utf8.encode content.toList
  if fields.isGzip then pack data else data

/-- Any packer of the format will do; what it makes of some bytes is its own business. -/
def resolve (means : Means) (method : String) (body : Body) (fields : FieldList)
    (pack : Bytes → Bytes := Gzip.pack) : Trial Payload :=
  match body with
  | .empty => .succeed (if Method.requiresBody method then .bytes [] else .absent)
  | .text content =>
    if fields.contentType?.isNone then .fail .missingContentType
    else .succeed (.bytes (ofText pack content fields))
  | .file uri =>
    if fields.contentType?.isNone then .fail .missingContentType
    else (Trial.ask means.resolve uri).andThen fun file =>
      .succeed (.stream file.source file.length)
  | .multipart parts =>
    (Multipart.assemble means.resolve means.userAgent means.boundary
      (fields.contentType?.getD Multipart.defaultType) parts).andThen (.succeed <| .multipart ·)

end Payload
end Outbound
