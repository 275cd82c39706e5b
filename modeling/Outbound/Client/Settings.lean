import Outbound.Duration
import Outbound.Request.Descriptor

/-! What all requests of a client have in common, and what one request makes of it: a read timeout
of its own, and whether its download is reported. -/

namespace Outbound

structure Settings where
  readTimeout : Option Duration := none
  connectTimeout : Option Duration := none
  followRedirects : Bool := true
  maxRedirects : Nat := 20
  cookiesEnabled : Bool := true
  userAgent : Option String := some "tether/1.0.0 (Rust)"
  proxy : Option String := none
  deriving DecidableEq, Repr

namespace Settings

instance : Inhabited Settings := ⟨{}⟩

open Json (DecodeError Reader)

def names : List String :=
  ["read_timeout", "connect_timeout", "follow_redirects", "max_redirects", "cookies_enabled",
    "user_agent", "proxy"]

def put (s : Settings) (name : String) (v : Json) : Except DecodeError Settings :=
  match name with
  | "read_timeout" =>
    (Reader.optional Duration.read v).map fun d => { s with readTimeout := d }
  | "connect_timeout" =>
    (Reader.optional Duration.read v).map fun d => { s with connectTimeout := d }
  | "follow_redirects" => (Reader.boolean v).map fun b => { s with followRedirects := b }
  | "max_redirects" => (Reader.size v).map fun n => { s with maxRedirects := n }
  | "cookies_enabled" => (Reader.boolean v).map fun b => { s with cookiesEnabled := b }
  | "user_agent" => (Reader.optional Reader.string v).map fun t => { s with userAgent := t }
  | "proxy" => (Reader.optional Reader.string v).map fun t => { s with proxy := t }
  | _ => .ok s

def ofJson : Reader Settings
  | .object members => Reader.fields {} put members
  | .array items => Reader.positional names 0 "struct TransportConfig" {} put .ok items
  | v => .error (.invalidType v "struct TransportConfig")

def showOption {α : Type} (text : α → String) : Option α → String
  | none => "None"
  | some a => "Some(" ++ text a ++ ")"

def showBool (b : Bool) : String := if b then "true" else "false"

def debug (s : Settings) : String :=
  "TransportConfig \x7b read_timeout: " ++ showOption Duration.debug s.readTimeout ++
    ", connect_timeout: " ++ showOption Duration.debug s.connectTimeout ++
    ", follow_redirects: " ++ showBool s.followRedirects ++
    ", max_redirects: " ++ toString s.maxRedirects ++
    ", cookies_enabled: " ++ showBool s.cookiesEnabled ++
    ", user_agent: " ++ showOption Text.quote s.userAgent ++
    ", proxy: " ++ showOption Text.quote s.proxy ++ " \x7d"

end Settings

/-- The settings of one request. They are the common ones unless the read timeout differs. -/
structure Effective where
  settings : Settings
  shared : Bool
  reportsDownload : Bool
  deriving DecidableEq, Repr, Inhabited

namespace Settings

def configure (base : Settings) (readTimeout : Option Duration) (incremental : Bool)
    (type : ResponseType) : Effective :=
  { settings := { base with readTimeout }
    shared := readTimeout = base.readTimeout
    reportsDownload := incremental && !type.isText }

end Settings

def Effective.debug (e : Effective) : String :=
  "EffectiveConfig \x7b config: " ++ e.settings.debug ++ ", download_progress: " ++
    Settings.showBool e.reportsDownload ++ " \x7d"

end Outbound
