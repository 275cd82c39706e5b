import Outbound.Client.Settings
import Outbound.Client.Request
import Outbound.Cookie.Jar

/-! A client is made of settings, hooks and a cookie jar. It cannot be made with a proxy that is no
URL with a host. -/

namespace Outbound

structure Client where
  settings : Settings := {}
  interceptors : List Interceptor := []
  jar : Jar := {}
  deriving Inhabited

namespace Client

inductive Change
  | readTimeout (d : Duration)
  | noReadTimeout
  | connectTimeout (d : Duration)
  | noRedirects
  | maxRedirects (n : Nat)
  | noCookies
  | userAgent (text : String)
  | noUserAgent
  | proxy (url : String)
  | interceptor (hook : Interceptor)
  | cookieJar (jar : Jar)

def apply (c : Client) : Change → Client
  | .readTimeout d => { c with settings := { c.settings with readTimeout := some d } }
  | .noReadTimeout => { c with settings := { c.settings with readTimeout := none } }
  | .connectTimeout d => { c with settings := { c.settings with connectTimeout := some d } }
  | .noRedirects => { c with settings := { c.settings with followRedirects := false } }
  | .maxRedirects n => { c with settings := { c.settings with maxRedirects := n } }
  | .noCookies => { c with settings := { c.settings with cookiesEnabled := false } }
  | .userAgent text => { c with settings := { c.settings with userAgent := some text } }
  | .noUserAgent => { c with settings := { c.settings with userAgent := none } }
  | .proxy url => { c with settings := { c.settings with proxy := some url } }
  | .interceptor hook => { c with interceptors := c.interceptors ++ [hook] }
  | .cookieJar jar => { c with jar }

def hasHost (text : String) : Bool :=
  match Url.parse text with
  | .ok u => u.host?.isSome
  | .error _ => false

/-- Whether a text names a proxy: a URL with a host, where the scheme may be left out. -/
def validProxy (text : String) : Bool :=
  match Url.parse text with
  | .ok u => u.host?.isSome || hasHost ("http://" ++ text)
  | .error .relativeWithoutBase => hasHost ("http://" ++ text)
  | .error _ => false

def build (changes : List Change) : Except Failure Client :=
  let c := changes.foldl apply {}
  if c.settings.proxy.all validProxy then .ok c else .error (.proxy "builder error")

def intercept (c : Client) (r : Request) : Request := c.interceptors.foldl (fun r hook => hook r) r

def debug (c : Client) : String :=
  "HttpClient \x7b config: " ++ c.settings.debug ++ ", interceptors: " ++
    toString c.interceptors.length ++ " \x7d"

end Client
end Outbound
