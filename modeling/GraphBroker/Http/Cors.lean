import GraphBroker.Config.Basic
import GraphBroker.Http.Exchange

/-!
# Calls from other sites

Which other sites a browser may call the broker from. The broker tells the
browser; it does not refuse a call itself.

## Main definitions

* `CorsConfig.allowOrigin`: the header that names the site a call may come from.
* `CorsConfig.preflight`: the answer to a browser that asks before it calls.
-/

namespace GraphBroker.CorsConfig

open Http

/-- The site that a call may come from: any, or the one it comes from if that one is listed. -/
def origin? (c : CorsConfig) (request : Request) : Option String :=
  if c.allowedOrigins.contains "*" then some "*"
  else (Http.header? request.headers "origin").filter fun origin =>
    (c.allowedOrigins.filter isSendable).contains origin

/-- The header that names the site a call may come from. -/
def allowOrigin (c : CorsConfig) (request : Request) : Headers :=
  (c.origin? request).toList.map fun origin => ("access-control-allow-origin", origin)

/-- The answer to a browser that asks before it calls. -/
def preflight (c : CorsConfig) : Response where
  status := 200
  headers := [("access-control-allow-methods", "GET,POST,OPTIONS"),
    ("access-control-allow-headers", "*"),
    ("access-control-max-age", toString c.maxAgeSeconds)]

end GraphBroker.CorsConfig
