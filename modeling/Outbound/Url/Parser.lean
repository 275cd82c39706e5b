import Outbound.Url.Basic
import Outbound.Percent

/-! Reading absolute URLs. Blanks at both ends and all tabs and line breaks are dropped. The schemes
of the web and files have rules of their own: a backslash is a slash, a host is a domain or an
address, and a path always begins with a slash. -/

namespace Outbound.Url

inductive SchemeKind
  | web
  | file
  | other
  deriving DecidableEq, Repr

def SchemeKind.special : SchemeKind → Bool
  | .other => false
  | _ => true

def schemeKind (scheme : List Char) : SchemeKind :=
  if scheme = "file".toList then .file
  else if (defaultPort? scheme).isSome then .web
  else .other

def trim (cs : List Char) : List Char :=
  let trimStart (cs : List Char) := cs.dropWhile (·.toNat ≤ 0x20)
  (trimStart (trimStart cs).reverse).reverse

def isBreak (c : Char) : Bool := c = '\t' || c = '\n' || c = '\r'

def unbroken (cs : List Char) : List Char := cs.filter (!isBreak ·)

def splitScheme (cs : List Char) : Option (List Char × List Char) := do
  let (scheme, rest) ← Text.splitOnce ':' cs
  let scheme := unbroken scheme
  let first ← scheme.head?
  if first.isAlpha && scheme.all (fun c => c.isAlphanum || c = '+' || c = '-' || c = '.') then
    some (scheme.map Char.toLower, rest)
  else none

structure Tail where
  main : List Char
  query : Option (List Char)
  fragment : Option (List Char)
  deriving DecidableEq, Repr

def splitTail (cs : List Char) : Tail :=
  let (front, fragment) := match Text.splitOnce '#' cs with
    | some (front, fragment) => (front, some fragment)
    | none => (cs, none)
  match Text.splitOnce '?' front with
  | some (main, query) => ⟨main, some query, fragment⟩
  | none => ⟨front, none, fragment⟩

def isSlash (special : Bool) (c : Char) : Bool := c = '/' || (special && c = '\\')

def bracketed? (cs : List Char) : Option (Except Error Host) :=
  if cs.head? = some '[' then
    some <|
      if cs.getLast? = some ']' then
        match Ipv6.parse? (cs.drop 1).dropLast with
        | some groups => .ok (.ipv6 groups)
        | none => .error .invalidIpv6
      else .error .invalidIpv6
  else none

/-- A host of the web: a domain name, percent encoding undone, or an address. -/
def domainHost (cs : List Char) : Except Error Host :=
  match bracketed? cs with
  | some result => result
  | none =>
    match Domain.ofBytes? (Percent.decode cs) with
    | none => .error .invalidDomain
    | some [] => .error .emptyHost
    | some domain =>
      if Ipv4.endsInNumber domain then
        match Ipv4.parse? domain with
        | some address => .ok (.ipv4 address)
        | none => .error .invalidIpv4
      else .ok (.domain domain)

def forbiddenInHost : List Char := "\x00\t\n\r #/:<>?@[\\]^|".toList

def plainHost (cs : List Char) : Except Error (Option Host) :=
  match bracketed? cs with
  | some result => result.map some
  | none =>
    if cs.any forbiddenInHost.contains then .error .invalidDomainCharacter
    else if cs.isEmpty then .ok none
    else .ok (some (.domain (Percent.encode [] cs)))

/-- The host and what follows it: a colon inside brackets is part of the host. -/
def splitHost : Bool → List Char → List Char × List Char
  | _, [] => ([], [])
  | inside, c :: cs =>
    if c = ':' && !inside then ([], c :: cs)
    else
      let inside := if c = '[' then true else if c = ']' then false else inside
      let (host, rest) := splitHost inside cs
      (c :: host, rest)

/-- The port in front, if it is not the usual one, and what follows its digits: nothing, or a
backslash where that is no slash. -/
def readPort (scheme : List Char) (cs : List Char) : Except Error (Option Nat × List Char) :=
  let digits := cs.takeWhile Char.isDigit
  let rest := cs.dropWhile Char.isDigit
  let port := Ascii.value 10 digits
  if 65535 < port then .error .invalidPort
  else match rest.head? with
    | none | some '\\' =>
      let kept := !digits.isEmpty && defaultPort? scheme ≠ some port
      .ok (if kept then some port else none, rest)
    | some _ => .error .invalidPort

def splitCredentials (cs : List Char) : Option (List Char × List Char) :=
  if cs.contains '@' then
    let host := (cs.reverse.takeWhile (· ≠ '@')).reverse
    some (cs.take (cs.length - host.length - 1), host)
  else none

/-- User name and password; an empty password is none. -/
def readCredentials (cs : List Char) : List Char × Option (List Char) :=
  let encode := Percent.encode Percent.userinfoSet
  match Text.splitOnce ':' cs with
  | none => (encode cs, none)
  | some (username, []) => (encode username, none)
  | some (username, password) => (encode username, some (encode password))

def readAuthority (kind : SchemeKind) (scheme cs : List Char) (ends : Bool) :
    Except Error (Authority × List Char) := do
  let (credentials, rest) := (splitCredentials cs).getD ([], cs)
  if cs = ['@'] && !ends then throw .emptyHost
  let (username, password) := readCredentials credentials
  let (host, rest) := splitHost false rest
  if kind = .web && host.isEmpty then throw .emptyHost
  let host ← if kind = .web then (domainHost host).map some else plainHost host
  if host.isNone && rest.head? = some ':' then throw .emptyHost
  let (port, rest) ← readPort scheme (rest.drop 1)
  if host.isNone && (!username.isEmpty || password.isSome) then throw .emptyHost
  return ({ username, password, host, port }, rest)

def isDot (segment : List Char) : Bool :=
  let s := segment.map Char.toLower
  s = ".".toList || s = "%2e".toList

def isDoubleDot (segment : List Char) : Bool :=
  let s := segment.map Char.toLower
  s = "..".toList || s = ".%2e".toList || s = "%2e.".toList || s = "%2e%2e".toList

def isDrive : List Char → Bool
  | [letter, mark] => letter.isAlpha && (mark = ':' || mark = '|')
  | _ => false

def isNormalDrive : List Char → Bool
  | [letter, mark] => letter.isAlpha && mark = ':'
  | _ => false

/-- A drive, at the front of a text up to a backslash, is no segment to go up from. -/
def isAnchored : List Char → Bool
  | letter :: mark :: rest => isDrive [letter, mark] && (rest.isEmpty || rest.head? = some '\\')
  | _ => false

/-- A drive that a break parts from the text behind it is a segment of its own. -/
def splitDrive? (piece : List Char) : Option (List Char × List Char) :=
  let back := (piece.dropWhile isBreak).drop 1
  let back := (back.dropWhile isBreak).drop 1
  match unbroken piece with
  | letter :: mark :: c :: cs =>
    if isNormalDrive [letter, mark] && back.head?.any isBreak then some ([letter, mark], c :: cs)
    else none
  | _ => none

/-- The segments read so far, the last first, and whether a drive took the place of the host. -/
structure Trail where
  names : List (List Char) := []
  drive : Bool := false
  deriving DecidableEq, Repr

namespace Trail

def up (t : Trail) : Trail :=
  match t.names with
  | [] => t
  | name :: names => if isAnchored name then t else { t with names }

def push (kind : SchemeKind) (t : Trail) (name : List Char) : Trail :=
  match t.names, name with
  | [], [letter, mark] =>
    if kind = .file && isDrive [letter, mark] then ⟨[[letter, ':']], true⟩ else ⟨[name], t.drive⟩
  | names, name => ⟨name :: names, t.drive⟩

/-- Takes one segment. One dot stays, two go up; at the end of a path both leave it open. -/
def take (kind : SchemeKind) (t : Trail) (last : Bool) (piece : List Char) : Trail :=
  let opened (t : Trail) : Trail := if last then { t with names := [] :: t.names } else t
  let encode := Percent.encode Percent.pathSet
  let name := encode (unbroken piece)
  match if kind = .file && t.names.isEmpty then splitDrive? piece else none with
  | some (drive, rest) => { t with names := [encode rest, drive] }
  | none =>
    if isDoubleDot name then opened t.up
    else if isDot name then opened t
    else t.push kind name

def walk (kind : SchemeKind) (t : Trail) : List (List Char) → Trail
  | [] => t
  | [name] => t.take kind true name
  | name :: names => walk kind (t.take kind false name) names

end Trail

def splitSlashes (special : Bool) : List Char → List (List Char)
  | [] => [[]]
  | c :: cs =>
    if isSlash special c then [] :: splitSlashes special cs
    else match splitSlashes special cs with
      | piece :: pieces => (c :: piece) :: pieces
      | [] => [[c]]

def readSegments (kind : SchemeKind) (cs : List Char) : Trail :=
  Trail.walk kind {} (splitSlashes kind.special cs)

/-- A file has no empty segments at the front, unless there is nothing else. -/
def trimSegments (names : List (List Char)) : List (List Char) :=
  match names.dropWhile List.isEmpty with
  | [] => [[]]
  | rest => rest

def dropSlash (special : Bool) : List Char → List Char
  | c :: cs => if isSlash special c then cs else c :: cs
  | [] => []

def authorityForm (kind : SchemeKind) (scheme cs : List Char) (ends : Bool) :
    Except Error (Authority × Path) := do
  let isEnd := isSlash kind.special
  let front := cs.takeWhile (!isEnd ·)
  let back := cs.dropWhile (!isEnd ·)
  let (authority, left) ← readAuthority kind scheme front (ends && back.isEmpty)
  let path := left ++ back
  let names :=
    if path.isEmpty && kind = .other then []
    else (readSegments kind (dropSlash kind.special path)).names.reverse
  return (authority, .segments names)

def afterSlash? (cs : List Char) : Option (List Char) :=
  match cs.dropWhile isBreak with
  | c :: rest => if isSlash true c then some rest else none
  | [] => none

/-- The host of a file, unless a drive stands there; the host of this machine is none. -/
def fileHost (cs : List Char) : Except Error (Option Host × List Char) := do
  let front := unbroken (cs.takeWhile (!isSlash true ·))
  if isDrive front then return (none, cs)
  let rest := cs.dropWhile (!isSlash true ·)
  if front.isEmpty then return (none, rest)
  match ← domainHost front with
  | .domain name =>
    return (if name = "localhost".toList then none else some (.domain name), rest)
  | host => return (some host, rest)

/-- Reads a text whose breaks are still there. A drive takes the place of the host. -/
def fileForm (cs : List Char) : Except Error (Authority × Path) := do
  match afterSlash? cs with
  | none => return ({}, .segments (trimSegments (readSegments .file cs).names.reverse))
  | some cs =>
    match afterSlash? cs with
    | none => return ({}, .segments (trimSegments (readSegments .file cs).names.reverse))
    | some rest =>
      let (host, rest) ← fileHost rest
      let trail := readSegments .file (if host.isSome then dropSlash true rest else rest)
      return ({ host := if trail.drive then none else host },
        .segments (trimSegments trail.names.reverse))

def finish (kind : SchemeKind) (scheme : List Char) (tail : Tail) (authority : Option Authority)
    (path : Path) : Url :=
  let querySet := if kind.special then Percent.specialQuerySet else Percent.querySet
  { scheme, authority, path
    query := tail.query.map fun cs => Percent.encode querySet (unbroken cs)
    fragment := tail.fragment.map fun cs => Percent.encode Percent.fragmentSet (unbroken cs) }

def parse (s : String) : Except Error Url := do
  let some (scheme, rest) := splitScheme (trim s.toList) | throw .relativeWithoutBase
  let kind := schemeKind scheme
  let tail := splitTail rest
  let main := unbroken tail.main
  let ends := tail.query.isNone && tail.fragment.isNone
  match kind with
  | .file =>
    let (authority, path) ← fileForm tail.main
    return finish kind scheme tail (some authority) path
  | .web =>
    let (authority, path) ←
      authorityForm kind scheme (main.dropWhile (isSlash true)) ends
    return finish kind scheme tail (some authority) path
  | .other =>
    match main with
    | '/' :: '/' :: main =>
      let (authority, path) ← authorityForm kind scheme main ends
      return finish kind scheme tail (some authority) path
    | '/' :: main =>
      return finish kind scheme tail none (.segments (readSegments kind main).names.reverse)
    | main => return finish kind scheme tail none (.plain (Percent.encode [] main))

end Outbound.Url
