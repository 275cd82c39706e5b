import Outbound.Url.Address
import Outbound.Url.Domain

/-! A URL in its parts. Every part is kept as it is written, percent encoding included. -/

namespace Outbound

namespace Url

inductive Host
  | domain (name : List Char)
  | ipv4 (address : Nat)
  | ipv6 (groups : List Nat)
  deriving DecidableEq, Repr, Inhabited

def Host.text : Host → List Char
  | .domain name => name
  | .ipv4 address => Ipv4.text address
  | .ipv6 groups => '[' :: Ipv6.text groups ++ [']']

/-- What stands between two slashes and the path. A host may be absent there. -/
structure Authority where
  username : List Char := []
  password : Option (List Char) := none
  host : Option Host := none
  port : Option Nat := none
  deriving DecidableEq, Repr, Inhabited

/-- A path that begins with a slash has segments; another path is a text of its own. -/
inductive Path
  | segments (names : List (List Char))
  | plain (text : List Char)
  deriving DecidableEq, Repr, Inhabited

def Path.text : Path → List Char
  | .segments names => names.flatMap ('/' :: ·)
  | .plain text => text

inductive Error
  | emptyHost
  | invalidDomain
  | invalidPort
  | invalidIpv4
  | invalidIpv6
  | invalidDomainCharacter
  | relativeWithoutBase
  deriving DecidableEq, Repr, Inhabited

def Error.message : Error → String
  | .emptyHost => "empty host"
  | .invalidDomain => "invalid international domain name"
  | .invalidPort => "invalid port number"
  | .invalidIpv4 => "invalid IPv4 address"
  | .invalidIpv6 => "invalid IPv6 address"
  | .invalidDomainCharacter => "invalid domain character"
  | .relativeWithoutBase => "relative URL without a base"

end Url

structure Url where
  scheme : List Char
  authority : Option Url.Authority := none
  path : Url.Path := .segments []
  query : Option (List Char) := none
  fragment : Option (List Char) := none
  deriving DecidableEq, Repr, Inhabited

namespace Url

def Authority.text (a : Authority) : List Char :=
  let credentials := a.username ++ (a.password.map (':' :: ·)).getD []
  (if credentials.isEmpty then [] else credentials ++ ['@']) ++
    (a.host.map Host.text).getD [] ++ (a.port.map fun p => ':' :: Ascii.decimal p).getD []

/-- The path in its place. Without an authority it must not look like one. -/
def pathPart (u : Url) : List Char :=
  match u.authority, u.path with
  | none, .segments ([] :: name :: names) =>
    '/' :: '.' :: (Path.segments ([] :: name :: names)).text
  | _, path => path.text

def toChars (u : Url) : List Char :=
  u.scheme ++ ':' :: (u.authority.map ('/' :: '/' :: Authority.text ·)).getD [] ++ u.pathPart ++
    (u.query.map ('?' :: ·)).getD [] ++ (u.fragment.map ('#' :: ·)).getD []

def text (u : Url) : String := String.ofList u.toChars

def host? (u : Url) : Option Host := u.authority.bind (·.host)

def hostText? (u : Url) : Option String := u.host?.map fun h => String.ofList h.text

def defaultPort? (scheme : List Char) : Option Nat :=
  match String.ofList scheme with
  | "http" | "ws" => some 80
  | "https" | "wss" => some 443
  | "ftp" => some 21
  | _ => none

def withoutCredentials (u : Url) : Url :=
  { u with authority := u.authority.map fun a => { a with username := [], password := none } }

end Url
end Outbound
