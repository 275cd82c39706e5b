import Outbound.Url.Parser

/-! The path on this machine that a `file` URL names: its segments with percent encoding undone. A
drive at the end keeps a slash behind it. -/

namespace Outbound.Url

def isLocal : Option Host → Bool
  | none => true
  | some (.domain name) => name == "localhost".toList
  | some _ => false

/-- The bytes of the path; none for a URL of another machine or without segments. -/
def fileBytes? (u : Url) : Option Bytes :=
  match u.path with
  | .plain _ => none
  | .segments names =>
    if isLocal u.host? then
      let bytes := names.flatMap fun name => Utf8.encode ['/'] ++ Percent.decode name
      let tail := bytes.drop (bytes.length - 2)
      let endsInDrive := 2 < bytes.length && match tail with
        | [letter, mark] =>
          (Char.ofNat letter.toNat).isAlpha && (mark == 0x3a || mark == 0x7c)
        | _ => false
      some (if endsInDrive then bytes ++ Utf8.encode ['/'] else bytes)
    else none

def filePath? (u : Url) : Option String := do
  some (String.ofList (← Utf8.decode? (← u.fileBytes?)))

end Outbound.Url
