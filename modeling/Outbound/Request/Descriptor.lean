import Outbound.Request.Id
import Outbound.Header.List

/-! A descriptor is the plain description of one request. Its header list is raw: whether the
entries are fields is decided when the request is prepared. -/

namespace Outbound

inductive ResponseType
  | text
  | base64
  | other (hint : String)
  deriving DecidableEq, Repr, Inhabited

namespace ResponseType

def ofHint (hint : String) : ResponseType :=
  if hint = "text" then .text else if hint = "base64" then .base64 else .other hint

def hint : ResponseType → String
  | .text => "text"
  | .base64 => "base64"
  | .other hint => hint

def isText : ResponseType → Bool
  | .text => true
  | _ => false

@[simp] theorem hint_ofHint (s : String) : (ofHint s).hint = s := by
  unfold ofHint
  split
  · simp_all [hint]
  · split <;> simp_all [hint]

end ResponseType

inductive PartContent
  | text (content : String)
  | file (uri : String)
  deriving DecidableEq, Repr, Inhabited

structure Part where
  headers : Option (List RawField) := none
  content : Option PartContent := none
  deriving DecidableEq, Repr, Inhabited

inductive Body
  | empty
  | text (content : String)
  | file (uri : String)
  | multipart (parts : List Part)
  deriving DecidableEq, Repr, Inhabited

def Body.isText : Body → Bool
  | .text _ => true
  | _ => false

structure Descriptor where
  id : RequestId
  method : String
  url : String
  headers : Option (List RawField) := some []
  body : Body := .empty
  responseType : ResponseType := .text
  incremental : Bool := false
  timeoutMs : Nat := 0
  deriving DecidableEq, Repr, Inhabited

namespace Descriptor

def addHeader (d : Descriptor) (name value : String) : Descriptor :=
  { d with headers := some (d.headers.getD [] ++ [[some name, some value]]) }

/-- The limit on each wait for data. Zero asks for none. -/
def timeout? (d : Descriptor) : Option Nat := if d.timeoutMs = 0 then none else some d.timeoutMs

end Descriptor
end Outbound
