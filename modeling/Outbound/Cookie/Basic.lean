import Outbound.Clock
import Outbound.Url.Basic
import Outbound.Word

/-! A cookie as a server sets it: a pair of name and value, and attributes between semicolons of
which the last of each kind counts. -/

namespace Outbound

def readInt64? (cs : List Char) : Option Int :=
  let (negative, digits) := match cs with
    | '-' :: digits => (true, digits)
    | '+' :: digits => (false, digits)
    | _ => (false, cs)
  if digits.isEmpty || !digits.all Char.isDigit then none
  else
    let n : Int := if negative then -Ascii.value 10 digits else Ascii.value 10 digits
    if Word.fits64 n then some n else none

structure Cookie where
  name : String
  value : String
  domain : Option String := none
  path : String := "/"
  secure : Bool := false
  expires : Option Time := none
  deriving DecidableEq, Repr, Inhabited

namespace Cookie

inductive Attribute
  | domain (name : String)
  | path (path : String)
  | maxAge (seconds : Int)
  | secure
  | other
  deriving DecidableEq, Repr, Inhabited

/-- Reads an attribute. A domain loses the points in front of it, a path has to begin with a slash,
an age has to be a whole number, and `secure` stands alone; anything else does nothing. -/
def Attribute.read (cs : List Char) : Attribute :=
  let cs := Text.trim cs
  match Text.splitOnce '=' cs with
  | none => if Ascii.same (String.ofList cs) "secure" then .secure else .other
  | some (key, value) =>
    match Ascii.lower (String.ofList (Text.trim key)) with
    | "domain" =>
      let name := Ascii.lower (String.ofList ((Text.trim value).dropWhile (· = '.')))
      if name = "" then .other else .domain name
    | "path" => if value.head? = some '/' then .path (String.ofList value) else .other
    | "max-age" =>
      match readInt64? (Text.trim value) with
      | some seconds => .maxAge seconds
      | none => .other
    | _ => .other

def apply (now : Time) (c : Cookie) : Attribute → Except Clock.Error Cookie
  | .domain name => .ok { c with domain := some name }
  | .path path => .ok { c with path }
  | .maxAge seconds =>
    (Clock.ahead now seconds.toNat).map fun time => { c with expires := some time }
  | .secure => .ok { c with secure := true }
  | .other => .ok c

def readPair (cs : List Char) : Option Cookie := do
  let (name, value) ← Text.splitOnce '=' (Text.trim cs)
  let name := Text.trim name
  if name.isEmpty then none
  some { name := String.ofList name, value := String.ofList (Text.trim value) }

def read (now : Time) (header : String) : Except Clock.Error (Option Cookie) :=
  match Text.split ';' header.toList with
  | [] => .ok none
  | pair :: attributes =>
    match readPair pair with
    | none => .ok none
    | some c => ((attributes.map Attribute.read).foldlM (apply now) c).map some

def expired (c : Cookie) (now : Time) : Bool := c.expires.any (· ≤ now)

def matchesUrl (c : Cookie) (u : Url) (now : Time) : Bool :=
  !c.expired now && (!c.secure || u.scheme = "https".toList) &&
    c.path.toList.isPrefixOf u.path.text

def text (c : Cookie) : String := c.name ++ "=" ++ c.value

def sameKey (c d : Cookie) : Bool := c.name = d.name && c.path = d.path

end Cookie
end Outbound
