import GraphBroker.Http.Pattern

/-!
# Routes

Which methods are served on which paths. The path of the channel is a pattern,
which stands behind the other paths.

## Main definitions

* `Action`: what the broker serves.
* `routes`: the methods and actions of a path.
* `isServable`: whether the channel can be served on a path.
-/

namespace GraphBroker.Http

/-- What the broker serves. -/
inductive Action where
  /-- Registers a client. -/
  | register
  /-- Hands out a token. -/
  | token
  /-- Answers a query. -/
  | query
  /-- Applies an update. -/
  | update
  /-- Tells whether the broker is well. -/
  | health
  /-- Tells what has been counted. -/
  | metrics
  /-- Starts to count again. -/
  | reset
  /-- Opens a channel. -/
  | channel
deriving DecidableEq, Repr

/-- The routes that do not depend on the settings. -/
def fixedRoutes : List (String × String × Action) :=
  [("/oauth/register", "POST", .register), ("/oauth/token", "POST", .token),
    ("/query", "POST", .query), ("/update", "POST", .update), ("/health", "GET", .health),
    ("/gates", "GET", .metrics), ("/gates/reset", "POST", .reset)]

/-- The methods and actions of a path that does not depend on the settings. -/
def fixed (path : String) : List (String × Action) :=
  (fixedRoutes.filter (·.1 == path)).map Prod.snd

/-- The methods and actions of a path, where the channel is on the paths of a pattern. -/
def routes (channel path : String) : List (String × Action) :=
  let own := fixed path
  let isChannel :=
    if own.isEmpty then (Pattern.ofText? channel).any (·.covers path.toList) else channel == path
  if isChannel then own ++ [("GET", .channel)] else own

/-- Whether the channel can be served on the paths of a pattern: it has to be one, and no other
action may be served there by the same method. -/
def isServable (channel : String) : Bool :=
  (Pattern.ofText? channel).isSome && ((fixed channel).lookup "GET").isNone

/-- The methods that are allowed where these actions are served: where `GET` is, so is `HEAD`. -/
def allowed (served : List (String × Action)) : String :=
  ",".intercalate (served.map fun entry => if entry.1 = "GET" then "GET,HEAD" else entry.1)

/-- The action of a method. -/
def action? (served : List (String × Action)) (method : String) : Option Action :=
  served.lookup (if method = "HEAD" then "GET" else method)

end GraphBroker.Http
