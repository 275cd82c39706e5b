import Outbound.Cookie.Basic
import Outbound.Header.Token

/-! Cookies by the host that they are kept for. A host has its cookies in the order in which they
came; a cookie that is set again keeps its place. -/

namespace Outbound

/-- Whether a host is a domain or one of its subdomains. -/
def domainCovers (domain host : String) : Bool :=
  host = domain || ('.' :: domain.toList).isSuffixOf host.toList

structure Jar where
  hosts : List (String × List Cookie) := []
  deriving DecidableEq, Repr, Inhabited

namespace Jar

/-- Puts a cookie among those of one host. An expired one only removes. -/
def place (now : Time) (c : Cookie) : List Cookie → List Cookie
  | [] => if c.expired now then [] else [c]
  | d :: ds =>
    if d.sameKey c then if c.expired now then ds else c :: ds
    else d :: place now c ds

/-- Changes the cookies of a host, which is new at the end of the jar if it had none. -/
def update (host : String) (f : List Cookie → List Cookie) :
    List (String × List Cookie) → List (String × List Cookie)
  | [] => [(host, f [])]
  | (h, cs) :: rest => if h = host then (h, f cs) :: rest else (h, cs) :: update host f rest

/-- The host that a cookie from a URL is kept for: its domain, which has to cover the host of the
URL, or that host itself. -/
def hostFor? (c : Cookie) (host : String) : Option String :=
  match c.domain with
  | none => some host
  | some domain => if domainCovers domain host then some domain else none

def set (jar : Jar) (now : Time) (u : Url) (header : String) :
    Except Clock.Error (Bool × Jar) := do
  let some host := u.hostText? | return (false, jar)
  let host := Ascii.lower host
  let some c ← Cookie.read now header | return (false, jar)
  let some kept := hostFor? c host | return (false, jar)
  return (true, ⟨update kept (place now c) jar.hosts⟩)

/-- Stores what the headers of a response set, one after the other. A header that is no plain text
is passed over. -/
def setAll (now : Time) (u : Url) (jar : Jar) : List Bytes → Jar × Option Clock.Error
  | [] => (jar, none)
  | header :: headers =>
    match Header.plainText? header with
    | none => setAll now u jar headers
    | some text =>
      match jar.set now u text with
      | .ok (_, jar) => setAll now u jar headers
      | .error e => (jar, some e)

def matching (jar : Jar) (now : Time) (u : Url) : List Cookie :=
  match u.hostText? with
  | none => []
  | some host =>
    (jar.hosts.filter fun (kept, _) => domainCovers kept (Ascii.lower host)).flatMap
      fun (_, cs) => cs.filter (·.matchesUrl u now)

def get? (jar : Jar) (now : Time) (u : Url) : Option String :=
  match jar.matching now u with
  | [] => none
  | cs => some (String.intercalate "; " (cs.map Cookie.text))

def header? (jar : Jar) (now : Time) (u : Url) : Option String :=
  (jar.get? now u).filter Header.validValue

def clear (jar : Jar) : Bool × Jar := (jar.hosts.any (!·.2.isEmpty), {})

end Jar
end Outbound
