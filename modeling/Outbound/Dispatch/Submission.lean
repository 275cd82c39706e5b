import Outbound.Client.Builder

/-! From a descriptor to a request that can be sent. The checks come in a fixed order, and the first
that fails decides: method, URL, header list, body, and last the host. Before the host is looked at,
the length is added up and the fields are put into a map; where either is too much, the attempt
breaks off. Hooks see the request when it is complete. -/

namespace Outbound

/-- What a request is prepared with. How many fields a header map has room for is its own business,
which may depend on their names, and on what the URL adds to them. -/
structure Environment where
  client : Client := {}
  resolve : FileResolver
  boundary : String
  pack : Bytes → Bytes := Gzip.pack
  hasRoom : FieldList → Bool := FieldList.mappable

structure Submission where
  id : RequestId
  request : Request
  responseType : ResponseType
  incremental : Bool
  effective : Effective
  deriving DecidableEq, Repr, Inhabited

def Environment.means (env : Environment) : Payload.Means :=
  ⟨env.resolve, env.client.settings.userAgent, env.boundary⟩

namespace Payload

def present : Payload → Bool
  | .absent => false
  | _ => true

/-- The fields that go with a body: a body of parts states its type, and a length that is known is
stated whatever the caller wrote. -/
def describe (p : Payload) (fields : FieldList) : FieldList :=
  let fields := match p with
    | .multipart body => fields.set Header.contentType body.contentType
    | _ => fields
  match p.present, p.length with
  | true, some n => fields.set Header.contentLength (String.ofList (Ascii.decimal n))
  | _, _ => fields.removeAll Header.contentLength

end Payload

/-- Whether a payload can be described: its length can be counted, and there is room for the fields
that go with it. -/
def Environment.holds (env : Environment) (payload : Payload) (fields : FieldList) : Bool :=
  payload.countable && env.hasRoom (payload.describe fields)

namespace Descriptor

def parseMethod (d : Descriptor) : Except Failure String :=
  if Method.valid d.method then .ok d.method else .error (.invalidMethod d.method)

def parseUrl (d : Descriptor) : Except Failure Url :=
  (Url.parse d.url).mapError fun e => .invalidUrl e.message

def parseFields (d : Descriptor) (settings : Settings) : Except Failure FieldList :=
  match FieldList.build? d.headers settings.userAgent d.body.isText with
  | some fields => .ok fields
  | none => .error .invalidHeaders

def draft (env : Environment) (d : Descriptor) : Trial Request Halt :=
  let read : Except Failure (String × Url × FieldList) := do
    let method ← d.parseMethod
    let url ← d.parseUrl
    let fields ← d.parseFields env.client.settings
    return (method, url, fields)
  match read with
  | .error f => .fail (.failure f)
  | .ok (method, url, fields) =>
    (Payload.resolve env.means method d.body fields env.pack).halting.andThen fun payload =>
      if env.holds payload fields then
        match Request.start method url with
        | .error f => .fail (.failure f)
        | .ok r => .succeed { r.withHeaders (payload.describe fields).toMap with payload }
      else .fail .overrun

def prepare (env : Environment) (d : Descriptor) : Trial Submission Halt :=
  (d.draft env).andThen fun r => .succeed
    { id := d.id
      request := env.client.intercept r
      responseType := d.responseType
      incremental := d.incremental
      effective := env.client.settings.configure (d.timeout?.map Duration.ofMs) d.incremental
        d.responseType }

end Descriptor
end Outbound
