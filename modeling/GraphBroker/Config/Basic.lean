import GraphBroker.Access.Identity
import GraphBroker.Config.Leaves

/-!
# Configuration

The settings of a broker, in sections. Every setting has a default, and a section
that is not given has all of its defaults.

## Main definitions

* `BrokerConfig` and its sections, each with `toJson` and `ofJson?`.

A decoder takes the way in which single values are read.
-/

namespace GraphBroker

open Config (Leaves)

/-- Which other sites a browser may call the broker from. -/
structure CorsConfig where
  /-- The origins, or an asterisk for any. -/
  allowedOrigins : List String := ["*"]
  /-- For how many seconds a browser may rely on the answer. -/
  maxAgeSeconds : Nat := 3600
deriving DecidableEq, Repr

/-- Where the broker listens. -/
structure ServerConfig where
  /-- The address. -/
  host : String := "0.0.0.0"
  /-- The port. -/
  port : Nat := 9000
  /-- For how many seconds requests may go on after a stop. -/
  shutdownGraceSeconds : Nat := 10
  /-- For how many seconds one may wait for the broker to listen. -/
  readyTimeoutSeconds : Nat := 5
  /-- Which other sites a browser may call the broker from. -/
  cors : CorsConfig := {}
deriving DecidableEq, Repr

/-- What holds for every gate. -/
structure GateConfig where
  /-- The path of the channel. -/
  path : String := "/subscribe"
  /-- How many messages may wait for the client. -/
  outboundSize : Nat := 256
  /-- How many requests may wait for the broker. -/
  inboundSize : Nat := 64
  /-- The greatest number of bytes of a message. -/
  maxMessageSize : Nat := 1048576
deriving DecidableEq, Repr

/-- The limits of the scheduler. -/
structure SchedulerConfig where
  /-- How many subscriptions a gate may have. -/
  maxSubscriptionsPerGate : Nat := 100
deriving DecidableEq, Repr

/-- Which query engine is used. -/
structure EngineConfig where
  /-- The kind of engine. -/
  provider : String := "memory"
  /-- Where a remote engine takes queries. -/
  queryUrl : String := ""
  /-- Where a remote engine takes updates. -/
  updateUrl : String := ""
  /-- The user for a remote engine. -/
  username : Option String := none
  /-- The password for a remote engine. -/
  password : Option String := none
  /-- For how many milliseconds an answer is waited for; 0 for ever. -/
  timeoutMs : Nat := 30000
deriving DecidableEq, Repr

/-- For how many seconds tokens are good, by class. -/
structure ExpiryConfig where
  /-- For devices. -/
  device : Int := 3600
  /-- For applications. -/
  application : Int := 43200
  /-- For users. -/
  user : Int := 300
  /-- For identities without a class of their own. -/
  other : Int := 5
  /-- For the identities listed for tests. -/
  test : Int := 5
deriving DecidableEq, Repr

/-- An identity that is known from the start. -/
structure IdentitySeed where
  /-- Its name. -/
  uid : String
  /-- Its class. -/
  kind : IdentityClass := .application
deriving DecidableEq, Repr

/-- Who may use the broker. -/
structure AuthConfig where
  /-- Whether requests need a token. -/
  enabled : Bool := false
  /-- The key that tokens are signed with. -/
  jwtSecret : String := "CHANGE_ME_IN_PRODUCTION"
  /-- The issuer named in tokens. -/
  issuer : String := "https://sepa.broker/oauth"
  /-- For how long tokens are good. -/
  expiry : ExpiryConfig := {}
  /-- Identities that are never revoked. -/
  testIdentities : List String := ["SEPATest"]
  /-- Identities known from the start. -/
  identities : List IdentitySeed := []
  /-- How much memory it takes to hash a secret. -/
  hashMemoryKib : Nat := 19456
  /-- How many rounds it takes to hash a secret. -/
  hashIterations : Nat := 2
deriving DecidableEq, Repr

/-- What is logged. -/
structure LoggingConfig where
  /-- Which events. -/
  level : String := "info,broker_realtime=debug"
  /-- In which form. -/
  format : String := "pretty"
  /-- Whether with the module an event comes from. -/
  targets : Bool := true
  /-- Whether with the thread an event comes from. -/
  threadIds : Bool := false
deriving DecidableEq, Repr

/-- Whether events are logged as JSON. -/
def LoggingConfig.isJson (c : LoggingConfig) : Bool :=
  c.format.toLower == "json"

/-- All settings. -/
structure BrokerConfig where
  /-- Where the broker listens. -/
  server : ServerConfig := {}
  /-- What holds for every gate. -/
  gate : GateConfig := {}
  /-- The limits of the scheduler. -/
  scheduler : SchedulerConfig := {}
  /-- Which query engine is used. -/
  engine : EngineConfig := {}
  /-- Who may use the broker. -/
  auth : AuthConfig := {}
  /-- What is logged. -/
  logging : LoggingConfig := {}
deriving DecidableEq, Repr

/-! ### Writing -/

/-- The section as JSON. -/
def CorsConfig.toJson (c : CorsConfig) : Json :=
  .object [("allowed_origins", Json.ofTexts c.allowedOrigins),
    ("max_age_seconds", .int c.maxAgeSeconds)]

/-- The section as JSON. -/
def ServerConfig.toJson (c : ServerConfig) : Json :=
  .object [("host", .text c.host), ("port", .int c.port),
    ("shutdown_grace_seconds", .int c.shutdownGraceSeconds),
    ("ready_timeout_seconds", .int c.readyTimeoutSeconds), ("cors", c.cors.toJson)]

/-- The section as JSON. -/
def GateConfig.toJson (c : GateConfig) : Json :=
  .object [("path", .text c.path), ("outbound_buffer_size", .int c.outboundSize),
    ("inbound_buffer_size", .int c.inboundSize), ("max_message_size", .int c.maxMessageSize)]

/-- The section as JSON. -/
def SchedulerConfig.toJson (c : SchedulerConfig) : Json :=
  .object [("max_subscriptions_per_gate", .int c.maxSubscriptionsPerGate)]

/-- The section as JSON. -/
def EngineConfig.toJson (c : EngineConfig) : Json :=
  .object [("provider", .text c.provider), ("query_url", .text c.queryUrl),
    ("update_url", .text c.updateUrl), ("username", Json.ofText? c.username),
    ("password", Json.ofText? c.password), ("timeout_ms", .int c.timeoutMs)]

/-- The section as JSON. -/
def ExpiryConfig.toJson (c : ExpiryConfig) : Json :=
  .object [("device_seconds", .int c.device), ("application_seconds", .int c.application),
    ("user_seconds", .int c.user), ("default_seconds", .int c.other),
    ("test_seconds", .int c.test)]

/-- The seed as JSON. -/
def IdentitySeed.toJson (c : IdentitySeed) : Json :=
  .object [("uid", .text c.uid), ("class", .text c.kind.name)]

/-- The section as JSON. -/
def AuthConfig.toJson (c : AuthConfig) : Json :=
  .object [("enabled", .bool c.enabled), ("jwt_secret", .text c.jwtSecret),
    ("issuer", .text c.issuer), ("expiry", c.expiry.toJson),
    ("test_identities", Json.ofTexts c.testIdentities),
    ("identities", .array (c.identities.map IdentitySeed.toJson)),
    ("hash_memory_kib", .int c.hashMemoryKib), ("hash_iterations", .int c.hashIterations)]

/-- The section as JSON. -/
def LoggingConfig.toJson (c : LoggingConfig) : Json :=
  .object [("level", .text c.level), ("format", .text c.format), ("targets", .bool c.targets),
    ("thread_ids", .bool c.threadIds)]

/-- All settings as JSON. -/
def BrokerConfig.toJson (c : BrokerConfig) : Json :=
  .object [("server", c.server.toJson), ("gate", c.gate.toJson),
    ("scheduler", c.scheduler.toJson), ("engine", c.engine.toJson), ("auth", c.auth.toJson),
    ("logging", c.logging.toJson)]

/-! ### Reading -/

variable (leaves : Leaves)

/-- The section that a value spells. -/
def CorsConfig.ofJson? (json : Json) : Option CorsConfig := do
  let f ← leaves.fields? ["allowed_origins", "max_age_seconds"] json
  return {
    allowedOrigins := ← f.defaulted? "allowed_origins" ["*"] (Json.list? leaves.text?)
    maxAgeSeconds := ← f.defaulted? "max_age_seconds" 3600 (leaves.nat? 64) }

/-- The section that a value spells. -/
def ServerConfig.ofJson? (json : Json) : Option ServerConfig := do
  let f ← leaves.fields?
    ["host", "port", "shutdown_grace_seconds", "ready_timeout_seconds", "cors"] json
  let d : ServerConfig := {}
  return {
    host := ← f.defaulted? "host" d.host leaves.text?
    port := ← f.defaulted? "port" d.port (leaves.nat? 16)
    shutdownGraceSeconds :=
      ← f.defaulted? "shutdown_grace_seconds" d.shutdownGraceSeconds (leaves.nat? 64)
    readyTimeoutSeconds :=
      ← f.defaulted? "ready_timeout_seconds" d.readyTimeoutSeconds (leaves.nat? 64)
    cors := ← f.defaulted? "cors" {} (CorsConfig.ofJson? leaves) }

/-- The section that a value spells. -/
def GateConfig.ofJson? (json : Json) : Option GateConfig := do
  let f ← leaves.fields?
    ["path", "outbound_buffer_size", "inbound_buffer_size", "max_message_size"] json
  let d : GateConfig := {}
  return {
    path := ← f.defaulted? "path" d.path leaves.text?
    outboundSize := ← f.defaulted? "outbound_buffer_size" d.outboundSize (leaves.nat? 64)
    inboundSize := ← f.defaulted? "inbound_buffer_size" d.inboundSize (leaves.nat? 64)
    maxMessageSize := ← f.defaulted? "max_message_size" d.maxMessageSize (leaves.nat? 64) }

/-- The section that a value spells. -/
def SchedulerConfig.ofJson? (json : Json) : Option SchedulerConfig := do
  let f ← leaves.fields? ["max_subscriptions_per_gate"] json
  return ⟨← f.defaulted? "max_subscriptions_per_gate" 100 (leaves.nat? 64)⟩

/-- The section that a value spells. -/
def EngineConfig.ofJson? (json : Json) : Option EngineConfig := do
  let f ← leaves.fields?
    ["provider", "query_url", "update_url", "username", "password", "timeout_ms"] json
  let d : EngineConfig := {}
  return {
    provider := ← f.defaulted? "provider" d.provider leaves.text?
    queryUrl := ← f.defaulted? "query_url" d.queryUrl leaves.text?
    updateUrl := ← f.defaulted? "update_url" d.updateUrl leaves.text?
    username := ← f.defaulted? "username" none (Json.nullable? leaves.text?)
    password := ← f.defaulted? "password" none (Json.nullable? leaves.text?)
    timeoutMs := ← f.defaulted? "timeout_ms" d.timeoutMs (leaves.nat? 64) }

/-- The section that a value spells. -/
def ExpiryConfig.ofJson? (json : Json) : Option ExpiryConfig := do
  let f ← leaves.fields? ["device_seconds", "application_seconds", "user_seconds",
    "default_seconds", "test_seconds"] json
  let d : ExpiryConfig := {}
  return {
    device := ← f.defaulted? "device_seconds" d.device leaves.int64?
    application := ← f.defaulted? "application_seconds" d.application leaves.int64?
    user := ← f.defaulted? "user_seconds" d.user leaves.int64?
    other := ← f.defaulted? "default_seconds" d.other leaves.int64?
    test := ← f.defaulted? "test_seconds" d.test leaves.int64? }

/-- The class that a value names. -/
def IdentityClass.ofLeaf? (json : Json) : Option IdentityClass :=
  (leaves.name? (IdentityClass.all.map IdentityClass.name) json).bind IdentityClass.ofName?

/-- The seed that a value spells. -/
def IdentitySeed.ofJson? (json : Json) : Option IdentitySeed := do
  let f ← leaves.fields? ["uid", "class"] json
  return {
    uid := ← f.required? "uid" leaves.text?
    kind := ← f.defaulted? "class" .application (IdentityClass.ofLeaf? leaves) }

/-- The section that a value spells. -/
def AuthConfig.ofJson? (json : Json) : Option AuthConfig := do
  let f ← leaves.fields? ["enabled", "jwt_secret", "issuer", "expiry", "test_identities",
    "identities", "hash_memory_kib", "hash_iterations"] json
  let d : AuthConfig := {}
  return {
    enabled := ← f.defaulted? "enabled" d.enabled leaves.bool?
    jwtSecret := ← f.defaulted? "jwt_secret" d.jwtSecret leaves.text?
    issuer := ← f.defaulted? "issuer" d.issuer leaves.text?
    expiry := ← f.defaulted? "expiry" {} (ExpiryConfig.ofJson? leaves)
    testIdentities := ← f.defaulted? "test_identities" d.testIdentities (Json.list? leaves.text?)
    identities := ← f.defaulted? "identities" [] (Json.list? (IdentitySeed.ofJson? leaves))
    hashMemoryKib := ← f.defaulted? "hash_memory_kib" d.hashMemoryKib (leaves.nat? 32)
    hashIterations := ← f.defaulted? "hash_iterations" d.hashIterations (leaves.nat? 32) }

/-- The section that a value spells. -/
def LoggingConfig.ofJson? (json : Json) : Option LoggingConfig := do
  let f ← leaves.fields? ["level", "format", "targets", "thread_ids"] json
  let d : LoggingConfig := {}
  return {
    level := ← f.defaulted? "level" d.level leaves.text?
    format := ← f.defaulted? "format" d.format leaves.text?
    targets := ← f.defaulted? "targets" d.targets leaves.bool?
    threadIds := ← f.defaulted? "thread_ids" d.threadIds leaves.bool? }

/-- All settings that a value spells. -/
def BrokerConfig.ofJson? (json : Json) : Option BrokerConfig := do
  let f ← leaves.fields? ["server", "gate", "scheduler", "engine", "auth", "logging"] json
  return {
    server := ← f.defaulted? "server" {} (ServerConfig.ofJson? leaves)
    gate := ← f.defaulted? "gate" {} (GateConfig.ofJson? leaves)
    scheduler := ← f.defaulted? "scheduler" {} (SchedulerConfig.ofJson? leaves)
    engine := ← f.defaulted? "engine" {} (EngineConfig.ofJson? leaves)
    auth := ← f.defaulted? "auth" {} (AuthConfig.ofJson? leaves)
    logging := ← f.defaulted? "logging" {} (LoggingConfig.ofJson? leaves) }

end GraphBroker
