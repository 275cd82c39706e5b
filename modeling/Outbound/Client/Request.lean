import Outbound.Body.Payload
import Outbound.Base64

/-! A request that is ready to be sent. A URL needs a host; credentials in it become a header, and
the caller's headers come in their place if they name the same one. -/

namespace Outbound

structure Request where
  method : String
  url : Url
  headers : FieldMap String := {}
  payload : Payload := .absent
  deriving DecidableEq, Repr, Inhabited

namespace Request

def forUrl (text : String) (u : Url) : String := text ++ " for url (" ++ u.text ++ ")"

/-- The value of the header that user name and password become, unless the name is no text. A
password that is no text is left out. -/
def basic? (a : Url.Authority) : Option String := do
  let username ← Utf8.decode? (Percent.decode a.username)
  let password := (a.password.bind fun p => Utf8.decode? (Percent.decode p))
  if username.isEmpty && password.isNone then none
  let pair := username ++ ':' :: password.getD []
  some ("Basic " ++ String.ofList (Base64.encode (Utf8.encode pair)))

/-- The request without a body and without headers, apart from the one of its credentials. -/
def start (method : String) (u : Url) : Except Failure Request :=
  if u.host?.isNone then .error (.invalidUrl (forUrl "builder error" u))
  else match u.authority.bind basic? with
    | some value => .ok
      { method, url := u.withoutCredentials
        headers := ({} : FieldMap String).insert "authorization" value }
    | none => .ok { method, url := u }

def withHeaders (r : Request) (headers : FieldMap String) : Request :=
  { r with headers := r.headers.replaceWith headers }

end Request

abbrev Interceptor := Request → Request

namespace Interceptor

/-- Sets a header, or removes it if there is no valid value. Nothing happens if the name is
invalid. -/
def header (name : String) (value : Option String) : Interceptor := fun r =>
  if !Header.validName name then r
  else
    let name := Ascii.lower name
    match value.filter Header.validValue with
    | some value => { r with headers := r.headers.insert name value }
    | none => { r with headers := r.headers.remove name }

end Interceptor
end Outbound
