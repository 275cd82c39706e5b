import Outbound.Exchange.Basic

/-! What becomes of a request when no connection can be made. A request that is no message of the
web does not even get that far. -/

namespace Outbound.Exchange

/-- Characters that a URL may have in its host, and a message may not. -/
def unfitForHost (c : Char) : Bool := "\"`\x7b\x7d".toList.contains c

/-- The most bytes that a message has room for in its target. -/
def longestTarget : Nat := 65534

def sendable (u : Url) : Bool :=
  (u.scheme = "http".toList || u.scheme = "https".toList) &&
    u.text.utf8ByteSize ≤ longestTarget &&
    !((u.host?.map Url.Host.text).getD []).any unfitForHost

def refusal (r : Request) : ExchangeError :=
  if sendable r.url then ⟨.connecting, Request.forUrl "error sending request" r.url⟩
  else ⟨.building, Request.forUrl "builder error" r.url⟩

end Outbound.Exchange
